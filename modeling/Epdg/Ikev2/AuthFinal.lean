import Epdg.Ikev2.Auth

/-!
The last round of IKE_AUTH (`handleAuthFinal` in `internal/ikev2/auth.go`) and the
dispatcher `handleIKEAuth`.

The steps of the source are one definition each, from verification to the response,
every one calling the next. Requests of the PGW may be handled between them; the
numbered calls of `pgwEvents` are the places.
-/
namespace Epdg.Ikev2

def s2bContext (r : CreateSessionResult) : Session.S2BContext :=
  { paa := IP.v4 r.paa
    pgwControlTEID := r.pgwControlTEID
    pgwControlIP := r.pgwControlIP
    pgwUserTEID := r.pgwUserTEID
    pgwUserIP := IP.v4 r.pgwUserIP
    localControlTEID := r.localControlTEID
    localUserTEID := r.localUserTEID
    ebi := r.ebi
    pgwRecovery := r.pgwRecovery }

def sessionS2b (r : CreateSessionResult) (s : Session.Session) : Session.Session :=
  ({ s.transition .s2bCreateSessionSent with s2b := some (s2bContext r) }).transition
    .s2bAccepted

def sessionESP (sa : IkeSA) (s : Session.Session) : Session.Session :=
  ({ s with
      espInboundSPI := sa.localESPSPI, espOutboundSPI := sa.peerESPSPI
      outerIP := some sa.remoteAddr }).transition .gtpuInstalling

def sessionActive (s : Session.Session) : Session.Session :=
  (s.transition .datapathInstalling).transition .active

def cfgReply (cfg : PCOConfig) (r : CreateSessionResult) : List (UInt16 × IP) :=
  let pick (on : Bool) (type : UInt16) (ips : List IP) : List (UInt16 × IP) :=
    if on then ips.map (type, ·) else []
  (internalIP4Address, IP.v4 r.paa) ::
    match r.responseAPCO.or r.responsePCO with
    | none => []
    | some d =>
      pick cfg.requestDNSv4 internalIP4DNS (d.dnsV4.filter IP.isV4) ++
      pick cfg.requestDNSv6 internalIP6DNS d.dnsV6 ++
      pick cfg.requestPCSCFv4 internalIP4PCSCF (d.pcscfV4.filter IP.isV4) ++
      pick cfg.requestPCSCFv6 internalIP6PCSCF d.pcscfV6

def finalPayloads (S : Server) (sa : IkeSA) (r : CreateSessionResult) : List OutPayload :=
  let auth := computeEAPAUTH S.prims sa.saKey.prf sa.msk
    (responderSigned S.prims sa S.cfg.epdgIdentity)
  [.idr idFQDN sa.apn, .auth authMethodSharedKey auth] ++
  (sa.espProp.map fun prop =>
    OutPayload.sa (buildESPSAResponse prop sa.espPropNum sa.localESPSPI)).toList ++
  [.ts (some (IP.v4 r.paa))] ++
  (if sa.cpWantsIP then [.cp (cfgReply S.cfg.pco r)] else []) ++
  (if sa.mobikeEnabled then [.notify mobikeSupported []] else [])

def finalRespond (S : Server) (w : World) (env : Env) (remote : UDPAddr) (sa : IkeSA)
    (hdr : IKEHeader) (natt : Bool) (r : CreateSessionResult) : World :=
  let w := pgwEvents w env 4
  if env.sendFails then w
  else
    (respond w env remote sa exchIKEAuth hdr.messageID (finalPayloads S sa r) natt).emit
      (.authCompleted sa.ref)

def finalDatapath (S : Server) (w : World) (env : Env) (remote : UDPAddr) (sa : IkeSA)
    (hdr : IKEHeader) (natt : Bool) (r : CreateSessionResult) : World :=
  let w := w.updateSession sa.sessionID (sessionESP sa)
  match w.sessionOf sa.sessionID with
  | none => finalRespond S w env remote sa hdr natt r
  | some sess =>
    let w := pgwEvents w env 2
    let sess := (w.sessionOf sa.sessionID).getD sess
    match w.gtpu.addSession S.cfg.localGTPU env.gtpuFault sess with
    | (m, none) =>
      sendAuthNotify (w.setGtpu m) env remote sa hdr.messageID authenticationFailed natt
    | (m, some d) =>
      let w := (w.setGtpu m).updateSession sa.sessionID fun s =>
        { s with datapath := some d }
      let w := (pgwEvents w env 3).updateSession sa.sessionID sessionActive
      finalRespond S w env remote sa hdr natt r

def finalChild (P : Primitives) (sa : IkeSA) (prop : ChildProposal) (localIP : IP)
    (remote : UDPAddr) (r : CreateSessionResult) : Xfrm.ChildSAParams :=
  childParams sa prop (currentKeys P sa prop)
    ⟨localIP, remote.ip, sa.localESPSPI, sa.peerESPSPI⟩ remote.port
    (IPNet.host (some (IP.v4 r.paa)))

def installFinal (P : Primitives) (w : World) (env : Env) (remote : UDPAddr) (sa : IkeSA)
    (r : CreateSessionResult) : World × Option Bool :=
  match sa.espProp, sa.localIP with
  | some prop, some localIP =>
    let p := finalChild P sa prop localIP remote r
    match Xfrm.installChildSA w.xfrm env.xfrmFaults p with
    | (k, false) => (w.setKernel k, some false)
    | (k, true) => ((w.setKernel k).emit (.childInstalled sa.ref p), some true)
  | _, _ => (w, none)

def IkeSA.establish (sa : IkeSA) (spi : UInt32) : IkeSA :=
  { sa with localESPSPI := spi, state := .established }

@[simp] theorem IkeSA.establish_spiI (sa : IkeSA) (spi : UInt32) :
    (sa.establish spi).spiI = sa.spiI := rfl

def finalInstall (S : Server) (w : World) (env : Env) (remote : UDPAddr) (sa : IkeSA)
    (hdr : IKEHeader) (natt : Bool) (r : CreateSessionResult) : World :=
  match env.espSPI with
  | none => w
  | some spi =>
    let sa := sa.establish spi
    match installFinal S.prims ((w.storeSA sa).emit (.established sa.ref)) env remote sa r with
    | (w, some false) =>
      sendAuthNotify w env remote sa hdr.messageID authenticationFailed natt
    | (w, some true) => finalDatapath S w env remote sa hdr natt r
    | (w, none) => finalRespond S w env remote sa hdr natt r

def gtpAMBR (ul dl : Nat) : Bool :=
  ul ≠ 0 && dl ≠ 0 && (ul + 999) / 1000 < 2 ^ 32 && (dl + 999) / 1000 < 2 ^ 32

def finalRequest (w : World) (env : Env) (sa : IkeSA) : CreateSessionRequest :=
  let profile := (w.sessionOf sa.sessionID).bind Session.Session.apnProfile
  { imsi := sa.imsi
    apn := sa.apn
    ambrUplink := (profile.map Session.APNProfile.ambrUplink).getD 0
    ambrDownlink := (profile.map Session.APNProfile.ambrDownlink).getD 0
    handover := sa.handoverIP.isSome
    pgwControlIP := env.pgwIP }

def requestSendable (req : CreateSessionRequest) : Bool :=
  req.imsi ≠ [] && req.apn ≠ [] && gtpAMBR req.ambrUplink req.ambrDownlink

def pgwCreate (w : World) (teid : UInt32) (ebi : UInt8) : World :=
  { w with pgw := w.pgw.insert teid ebi }

def finalCreate (S : Server) (w : World) (env : Env) (remote : UDPAddr) (sa : IkeSA)
    (hdr : IKEHeader) (natt : Bool) : World :=
  let req := finalRequest w env sa
  if ¬ requestSendable req then
    sendAuthNotify w env remote sa hdr.messageID authenticationFailed natt
  else
    let w := w.emit (.s2bCreate sa.ref req)
    match env.s2b with
    | .failed created =>
      let w :=
        match created with
        | some (teid, ebi) => pgwCreate w teid ebi
        | none => w
      sendAuthNotify w env remote sa hdr.messageID authenticationFailed natt
    | .ok r =>
      let w := pgwEvents (pgwCreate w r.localControlTEID r.ebi) env 0
      let w := pgwEvents (w.updateSession sa.sessionID (sessionS2b r)) env 1
      finalInstall S w env remote sa hdr natt r

def implicitDetach (S : Server) (w : World) (env : Env) (sa : IkeSA) : Option World :=
  if sa.handoverIP.isSome then some w
  else
    match w.sessions.findSingleActiveByIMSIAPN sa.imsi sa.apn with
    | none => some w
    | some old =>
      match w.lookupSA old.ikeSPII with
      | none => some w
      | some oldSA =>
        if old.ikeSPII = sa.spiI ∨ oldSA.mu then none
        else some (fullTeardown S.prims env.strOpen (w.storeSA oldSA.closing) oldSA.closing)

def handleAuthFinal (S : Server) (w : World) (env : Env) (remote : UDPAddr) (sa : IkeSA)
    (hdr : IKEHeader) (pl : AuthPayloads) (natt : Bool) : World :=
  if sa.msk.length ≠ 64 then
    sendAuthNotify w env remote sa hdr.messageID authenticationFailed natt
  else
    match pl.auth with
    | none => sendAuthNotify w env remote sa hdr.messageID authenticationFailed natt
    | some auth =>
      if Bytes.constEqual (expectedAuth S.prims sa) auth = false then
        sendAuthNotify w env remote sa hdr.messageID authenticationFailed natt
      else
        let w := w.emit (.authVerified sa auth)
        match implicitDetach S w env sa with
        | none => w.storeSA sa.locked
        | some w => finalCreate S w env remote sa hdr natt

inductive FinalCase (S : Server) (w : World) (env : Env) (remote : UDPAddr) (sa : IkeSA)
    (hdr : IKEHeader) (pl : AuthPayloads) (natt : Bool) : World → Prop
  | refused :
      FinalCase S w env remote sa hdr pl natt
        (sendAuthNotify w env remote sa hdr.messageID authenticationFailed natt)
  | stuck (auth : Bytes) (hauth : pl.auth = some auth) (hlen : sa.msk.length = 64)
      (heq : expectedAuth S.prims sa = auth)
      (hd : implicitDetach S (w.emit (.authVerified sa auth)) env sa = none) :
      FinalCase S w env remote sa hdr pl natt
        ((w.emit (.authVerified sa auth)).storeSA sa.locked)
  | verified (auth : Bytes) (w1 : World) (hauth : pl.auth = some auth)
      (hlen : sa.msk.length = 64) (heq : expectedAuth S.prims sa = auth)
      (hd : implicitDetach S (w.emit (.authVerified sa auth)) env sa = some w1) :
      FinalCase S w env remote sa hdr pl natt (finalCreate S w1 env remote sa hdr natt)

theorem handleAuthFinal_cases (S : Server) (w : World) (env : Env) (remote : UDPAddr)
    (sa : IkeSA) (hdr : IKEHeader) (pl : AuthPayloads) (natt : Bool) :
    FinalCase S w env remote sa hdr pl natt
      (handleAuthFinal S w env remote sa hdr pl natt) := by
  simp only [handleAuthFinal]
  split
  · exact .refused
  split
  · exact .refused
  rename_i auth hauth
  split
  · exact .refused
  rename_i hmac
  have heq : expectedAuth S.prims sa = auth := by
    rw [← Bytes.constEqual_iff]
    simpa using hmac
  split
  · rename_i hd
    exact .stuck auth hauth (by omega) heq hd
  · rename_i w1 hd
    exact .verified auth w1 hauth (by omega) heq hd

theorem implicitDetach_some {S : Server} {w w1 : World} {env : Env} {sa : IkeSA}
    (h : implicitDetach S w env sa = some w1) :
    w1 = w ∨ ∃ k old, k ≠ sa.spiI ∧ w.lookupSA k = some old ∧
      w1 = fullTeardown S.prims env.strOpen (w.storeSA old.closing) old.closing := by
  simp only [implicitDetach] at h
  grind

def IkeSA.noteMobike (sa : IkeSA) (pl : AuthPayloads) : IkeSA :=
  if pl.notifies.any fun n => n.notifyMessageType = mobikeSupported then
    { sa with mobikeEnabled := true }
  else sa

theorem IkeSA.noteMobike_keeps {α : Type} (f : IkeSA → α)
    (hf : ∀ (s : IkeSA) (b : Bool), f { s with mobikeEnabled := b } = f s) (sa : IkeSA)
    (pl : AuthPayloads) : f (sa.noteMobike pl) = f sa := by
  unfold IkeSA.noteMobike
  grind

def authDispatch (S : Server) (w : World) (env : Env) (remote : UDPAddr) (sa : IkeSA)
    (hdr : IKEHeader) (pl : AuthPayloads) (natt : Bool) : World :=
  if sa.eapRound = 0 then handleAuthRound1 S w env remote sa hdr pl natt
  else if pl.auth.isSome then handleAuthFinal S w env remote sa hdr pl natt
  else handleAuthEAP S w env remote sa hdr pl natt

def openAuth (S : Server) (k : IkeSAKey) (pkt : Bytes) : Option (Option AuthPayloads) :=
  (decryptSK S.prims k pkt).map fun (innerType, plain) =>
    parseAuthPayloads S.codec innerType plain

def IkeSA.heard (sa : IkeSA) (remote : UDPAddr) (now : Time) : IkeSA :=
  { sa with remoteAddr := remote, lastSeen := now }

def handleIKEAuthOn (S : Server) (w : World) (env : Env) (remote : UDPAddr) (pkt : Bytes)
    (hdr : IKEHeader) (natt : Bool) (sa : IkeSA) : World :=
  if sa.mu ∨ sa.state ≠ .auth then w
  else
    let sa := sa.heard remote env.now
    let w := w.storeSA sa
    match openAuth S sa.saKey pkt with
    | none => w
    | some none => sendAuthNotify w env remote sa hdr.messageID invalidSyntax natt
    | some (some pl) =>
      let sa := sa.noteMobike pl
      authDispatch S (w.storeSA sa) env remote sa hdr pl natt

def handleIKEAuth (S : Server) (w : World) (env : Env) (remote : UDPAddr) (pkt : Bytes)
    (hdr : IKEHeader) (natt : Bool) : World :=
  if hdr.initiatorBit = false ∨ hdr.responseBit = true then w
  else
    match w.lookupSA hdr.initiatorSPI with
    | none => w
    | some sa => handleIKEAuthOn S w env remote pkt hdr natt sa

end Epdg.Ikev2
