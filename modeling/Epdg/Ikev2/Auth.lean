import Epdg.Ikev2.Payloads
import Epdg.Ikev2.Teardown

/-!
The IKE_AUTH exchange up to the last round (`internal/ikev2/auth.go`):
`handleAuthRound1` and `handleAuthEAP`, which relay EAP to the AAA server.

A write to the SA is followed by `storeSA`, so that an early return leaves the table
as the source leaves the object.
-/
namespace Epdg.Ikev2

def respond (w : World) (env : Env) (remote : UDPAddr) (sa : IkeSA) (exch : UInt8)
    (msgID : UInt32) (inner : List OutPayload) (natt : Bool) : World :=
  if env.sendFails then w
  else w.emit (.sent remote natt (.response sa.spiI sa.spiR exch msgID inner))

def sendAuthNotify (w : World) (env : Env) (remote : UDPAddr) (sa : IkeSA) (msgID : UInt32)
    (type : UInt16) (natt : Bool) : World :=
  respond w env remote sa exchIKEAuth msgID [.notify type []] natt

def sendEAPResponse (S : Server) (w : World) (env : Env) (remote : UDPAddr) (sa : IkeSA)
    (msgID : UInt32) (eapPayload : Bytes) (includeID natt : Bool) : World :=
  if includeID then
    let epdgID := S.cfg.epdgIdentity
    match S.signCert (responderSigned S.prims sa epdgID) with
    | none => sendAuthNotify w env remote sa msgID authenticationFailed natt
    | some sig =>
      respond w env remote sa exchIKEAuth msgID
        ([.idr idFQDN epdgID] ++ (if S.certDER ≠ [] then [.cert S.certDER] else []) ++
          [.auth authMethodRSA sig, .eap eapPayload]) natt
  else respond w env remote sa exchIKEAuth msgID [.eap eapPayload] natt

def exchangeEAP (S : Server) (w : World) (env : Env) (ref : Nat) (req : Swm.EAPRequest) :
    World × Option Swm.EAPResult :=
  if req.nai = [] ∨ req.apn = [] ∨ req.eapPayload = [] then (w, none)
  else
    let sid := req.sessionID.getD env.now
    match env.swm with
    | .notOpen => (w, none)
    | .noAnswer => (w.emit (.derSent ref sid req), none)
    | .answer avps =>
      ((w.emit (.derSent ref sid req)).emit (.deaReceived ref sid req avps),
        some (Swm.eapResult S.equalFold req sid avps))

def resolvedIMSI (result : Swm.EAPResult) (imsi : Bytes) : Bytes :=
  if result.permanentIdentity ≠ [] then result.permanentIdentity else imsi

def IkeSA.eapSuccess (sa : IkeSA) (result : Swm.EAPResult) : IkeSA :=
  { sa with msk := result.msk, imsi := resolvedIMSI result sa.imsi }

def sessionSuccessRound1 (result : Swm.EAPResult) (s : Session.Session) : Session.Session :=
  ({ s with msk := result.msk, imsi := resolvedIMSI result s.imsi }).transition
    .eapAuthenticated

def sessionSuccess (result : Swm.EAPResult) (s : Session.Session) : Session.Session :=
  let profile :=
    match result.apnProfile with
    | some p =>
      if p.ambrPresent then
        some { apn := p.apn, ambrUplink := p.ambrUplink.toNat,
               ambrDownlink := p.ambrDownlink.toNat }
      else s.apnProfile
    | none => s.apnProfile
  ({ s with
      msk := result.msk, imsi := resolvedIMSI result s.imsi, apnProfile := profile }).transition
    .eapAuthenticated

def round1APN (S : Server) (idr : Option Identification) : Bytes :=
  let requested := (idr.map extractAPN).getD []
  if requested ≠ [] then requested
  else if S.cfg.apnDefault ≠ [] then S.cfg.apnDefault
  else Bytes.ascii "ims"

def IkeSA.identified (sa : IkeSA) (idi : Identification) (nai imsi apn : Bytes) : IkeSA :=
  { sa with idiAuthBytes := buildIDAuthBytes idi.idType idi.idData, imsi, nai, apn }

def round1Child (sa : IkeSA) : Option SecurityAssociation → Option IkeSA
  | none => some sa
  | some offer =>
    (selectAndExtractESP offer).map fun (prop, propNum, peerSPI) =>
      { sa with espProp := some prop, espPropNum := propNum, peerESPSPI := peerSPI }

def IkeSA.noteCfgAttribute (sa : IkeSA) (attr : CfgAttribute) : IkeSA :=
  if attr.type = internalIP4Address then
    let sa := { sa with cpWantsIP := true }
    if attr.value.length = 4 ∧ Bytes.be32 attr.value ≠ 0 then
      { sa with handoverIP := some (IP.v4 (Bytes.be32 attr.value)) }
    else sa
  else sa

def round1Config (sa : IkeSA) (cp : Option Configuration) : IkeSA :=
  match cp with
  | some c =>
    if c.configurationType = cfgRequest then c.attributes.foldl IkeSA.noteCfgAttribute sa
    else sa
  | none => sa

def IkeSA.ownSession (sa : IkeSA) : Session.ID := ⟨sa.spiI, sa.spiR⟩

def IkeSA.withSession (sa : IkeSA) : IkeSA := { sa with sessionID := some sa.ownSession }

def round1Session (w : World) (sa : IkeSA) : World :=
  w.setSessions
    ((w.sessions.getOrCreate sa.ownSession).update sa.ownSession fun s =>
      ({ s with
          imsi := sa.imsi, nai := sa.nai, apn := sa.apn
          ikeSPII := sa.spiI, ikeSPIR := sa.spiR }).transition .eapAuthenticating)

def round1EAP (nai eapRaw : Bytes) : Option Bytes :=
  if eapRaw.length ≥ 2 then some eapRaw else Swm.identityResponse 0 nai

def round1Reply (S : Server) (w : World) (env : Env) (remote : UDPAddr) (sa : IkeSA)
    (hdr : IKEHeader) (result : Swm.EAPResult) (natt : Bool) : World :=
  (sendEAPResponse S w env remote sa hdr.messageID result.eapPayload true natt).storeSA
    { sa with
      eapChallengeMsgID := hdr.messageID, eapChallengePayload := result.eapPayload }

def IkeSA.swmStarted (sa : IkeSA) (sid : SWMSessionID) : IkeSA :=
  { sa with swmSessionID := some sid, eapRound := 1 }

def round1Result (S : Server) (w : World) (env : Env) (remote : UDPAddr) (sa : IkeSA)
    (hdr : IKEHeader) (result : Swm.EAPResult) (natt : Bool) : World :=
  let sa := sa.swmStarted result.sessionID
  let w := (w.storeSA sa).updateSession sa.sessionID fun s =>
    { s with swmSessionID := some result.sessionID }
  match result.state with
  | .failure => sendAuthNotify w env remote sa hdr.messageID authenticationFailed natt
  | .success =>
    let sa := sa.eapSuccess result
    round1Reply S
      ((w.storeSA sa).updateSession sa.sessionID (sessionSuccessRound1 result))
      env remote sa hdr result natt
  | .challenge => round1Reply S w env remote sa hdr result natt

def round1Relay (S : Server) (w : World) (env : Env) (remote : UDPAddr) (sa : IkeSA)
    (hdr : IKEHeader) (pl : AuthPayloads) (natt : Bool) : World :=
  let sa := (round1Config sa pl.cp).withSession
  let w := (round1Session w sa).storeSA sa
  match round1EAP sa.nai pl.eapRaw with
  | none => sendAuthNotify w env remote sa hdr.messageID authenticationFailed natt
  | some eap =>
    match exchangeEAP S w env sa.ref ⟨none, sa.imsi, sa.nai, sa.apn, eap⟩ with
    | (w, none) => sendAuthNotify w env remote sa hdr.messageID authenticationFailed natt
    | (w, some result) => round1Result S w env remote sa hdr result natt

def handleAuthRound1 (S : Server) (w : World) (env : Env) (remote : UDPAddr) (sa : IkeSA)
    (hdr : IKEHeader) (pl : AuthPayloads) (natt : Bool) : World :=
  match pl.idi with
  | none => sendAuthNotify w env remote sa hdr.messageID invalidSyntax natt
  | some idi =>
    match extractNAI idi with
    | none => sendAuthNotify w env remote sa hdr.messageID authenticationFailed natt
    | some (nai, imsi) =>
      let sa := sa.identified idi nai imsi (round1APN S pl.idr)
      let w := w.storeSA sa
      match round1Child sa pl.sa with
      | none => sendAuthNotify w env remote sa hdr.messageID noProposalChosen natt
      | some sa => round1Relay S w env remote sa hdr pl natt

def IkeSA.nextRound (sa : IkeSA) : IkeSA :=
  { sa with eapRound := sa.eapRound + 1, eapChallengePayload := [] }

def eapRoundResult (S : Server) (w : World) (env : Env) (remote : UDPAddr) (sa : IkeSA)
    (hdr : IKEHeader) (result : Swm.EAPResult) (natt : Bool) : World :=
  let sa := sa.nextRound
  let w := w.storeSA sa
  match result.state with
  | .failure => sendAuthNotify w env remote sa hdr.messageID authenticationFailed natt
  | .success =>
    let sa := sa.eapSuccess result
    sendEAPResponse S
      ((w.storeSA sa).updateSession sa.sessionID (sessionSuccess result))
      env remote sa hdr.messageID result.eapPayload false natt
  | .challenge =>
    sendEAPResponse S w env remote sa hdr.messageID result.eapPayload false natt

def handleAuthEAP (S : Server) (w : World) (env : Env) (remote : UDPAddr) (sa : IkeSA)
    (hdr : IKEHeader) (pl : AuthPayloads) (natt : Bool) : World :=
  if pl.eapRaw = [] then
    if hdr.messageID = sa.eapChallengeMsgID ∧ sa.eapChallengePayload ≠ [] then
      sendEAPResponse S w env remote sa hdr.messageID sa.eapChallengePayload true natt
    else w
  else
    match exchangeEAP S w env sa.ref
        ⟨sa.swmSessionID, sa.imsi, sa.nai, sa.apn, pl.eapRaw⟩ with
    | (w, none) => sendAuthNotify w env remote sa hdr.messageID authenticationFailed natt
    | (w, some result) => eapRoundResult S w env remote sa hdr result natt

end Epdg.Ikev2
