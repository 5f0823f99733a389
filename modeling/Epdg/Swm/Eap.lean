import Epdg.Diameter.Message
import Epdg.Session.Fsm

/-!
What the SWm client makes of a Diameter-EAP-Answer (`internal/swm/eap.go`, and
`eapResult` with its helpers in `internal/swm/client.go`).

`strings.EqualFold` is a parameter: the APN comparison is the only place where
Unicode case folding would be needed.
-/
namespace Epdg.Swm
open Diameter Bytes

def diameterSuccess : UInt32 := 2001
def diameterLimitedSuccess : UInt32 := 2002

inductive EAPState where
  | challenge | success | failure
  deriving DecidableEq, Repr

inductive PacketState where
  | unknown | request | success | failure | invalid
  deriving DecidableEq, Repr

def parseEAP (payload : Bytes) : PacketState :=
  match payload with
  | code :: _ :: l0 :: l1 :: _ =>
    let length := be16 l0 l1
    if length < 4 ∨ length > payload.length then .invalid
    else if code = 1 then if length < 5 then .invalid else .request
    else if code = 3 then .success
    else if code = 4 then .failure
    else .unknown
  | _ => .invalid

def identityResponse (identifier : UInt8) (identity : Bytes) : Option Bytes :=
  let length := 5 + identity.length
  if identity = [] then none
  else if length > 0xffff then none
  else some ([2, identifier, (length / 256).toUInt8, length.toUInt8, 1] ++ identity)

structure APNProfile where
  apn : Bytes
  ambrUplink : UInt32 := 0
  ambrDownlink : UInt32 := 0
  ambrPresent : Bool := false
  deriving DecidableEq, Repr

structure EAPRequest where
  sessionID : Option SWMSessionID
  imsi : Bytes
  nai : Bytes
  apn : Bytes
  eapPayload : Bytes
  deriving DecidableEq, Repr

structure EAPResult where
  sessionID : SWMSessionID
  resultCode : UInt32
  state : EAPState
  allowed : Bool
  eapPayload : Bytes
  msk : Bytes
  apnProfile : Option APNProfile
  permanentIdentity : Bytes
  deriving DecidableEq, Repr

def localPart (s : Bytes) : Bytes := s.takeWhile (· ≠ 0x40)

def permanentIMSIFromUserName (userName : Bytes) : Option Bytes :=
  let user := localPart userName
  if user.length < 6 ∨ user.length > 15 then none
  else if user.all isDigit then some user
  else none

def avpUint32AnyVendor (avps : List AVP) (code : UInt32) : Option UInt32 :=
  (avpUint32 avps code 0).orElse fun _ => avpUint32 avps code vendor3GPP

def ambrOf (children : List AVP) (p : APNProfile) : APNProfile :=
  match findAVP children avpAMBR vendor3GPP with
  | none => p
  | some ambr =>
    match decodeAVPs ambr.data with
    | none => p
    | some bw =>
      let ul := avpUint32AnyVendor bw avpMaxRequestedBandwidthUL
      let dl := avpUint32AnyVendor bw avpMaxRequestedBandwidthDL
      { p with
        ambrUplink := ul.getD p.ambrUplink
        ambrDownlink := dl.getD p.ambrDownlink
        ambrPresent := ul.isSome || dl.isSome }

def parseAPNProfileFromAVPs (equalFold : Bytes → Bytes → Bool) (requested : Bytes) :
    List AVP → Option APNProfile
  | [] => none
  | a :: rest =>
    if a.code ≠ avpAPNConfiguration ∨ a.vendorID ≠ vendor3GPP then
      parseAPNProfileFromAVPs equalFold requested rest
    else
      match decodeAVPs a.data with
      | none => parseAPNProfileFromAVPs equalFold requested rest
      | some children =>
        let apn := avpString children avpServiceSelection 0
        if apn ≠ [] ∧ requested ≠ [] ∧ ¬ equalFold apn requested then
          parseAPNProfileFromAVPs equalFold requested rest
        else some (ambrOf children { apn })

def parseAPNProfileNested (equalFold : Bytes → Bytes → Bool) (requested : Bytes) :
    List AVP → Option APNProfile
  | [] => none
  | a :: rest =>
    if a.code ≠ avpNon3GPPUserData ∨ a.vendorID ≠ vendor3GPP then
      parseAPNProfileNested equalFold requested rest
    else
      match (decodeAVPs a.data).bind (parseAPNProfileFromAVPs equalFold requested) with
      | some p => some p
      | none => parseAPNProfileNested equalFold requested rest

def parseAPNProfile (equalFold : Bytes → Bytes → Bool) (avps : List AVP)
    (requested : Bytes) : Option APNProfile :=
  (parseAPNProfileFromAVPs equalFold requested avps).orElse fun _ =>
    parseAPNProfileNested equalFold requested avps

def answerResultCode (avps : List AVP) : UInt32 :=
  ((avpUint32 avps avpResultCode 0).orElse fun _ => experimentalResultCode avps).getD 0

def isSuccessCode (resultCode : UInt32) : Bool :=
  resultCode = diameterSuccess || resultCode = diameterLimitedSuccess

def answerState (avps : List AVP) : EAPState × Bool :=
  let ok := isSuccessCode (answerResultCode avps)
  match findAVP avps avpEAPPayload 0 with
  | some p =>
    match parseEAP p.data with
    | .request => (.challenge, false)
    | .success => (.success, ok)
    | _ => (.failure, false)
  | none => if ok then (.success, true) else (.failure, false)

def eapResult (equalFold : Bytes → Bytes → Bool) (req : EAPRequest)
    (sessionID : SWMSessionID) (avps : List AVP) : EAPResult :=
  let state := (answerState avps).1
  let allowed := (answerState avps).2
  let granted := state = .success && allowed
  { sessionID
    resultCode := answerResultCode avps
    state
    allowed
    eapPayload := ((findAVP avps avpEAPPayload 0).map AVP.data).getD []
    msk :=
      match granted, findAVP avps avpEAPMasterSessionKey 0 with
      | true, some key => if key.data.length = 64 then key.data else []
      | _, _ => []
    apnProfile := parseAPNProfile equalFold avps req.apn
    permanentIdentity :=
      if granted then
        (permanentIMSIFromUserName (avpString avps avpUserName 0)).getD []
      else [] }

theorem eapResult_msk {equalFold : Bytes → Bytes → Bool} {req : EAPRequest}
    {sid : SWMSessionID} {avps : List AVP}
    (h : (eapResult equalFold req sid avps).msk ≠ []) :
    (eapResult equalFold req sid avps).state = .success ∧
    isSuccessCode (answerResultCode avps) = true ∧
    (eapResult equalFold req sid avps).msk.length = 64 ∧
    ∃ key, findAVP avps avpEAPMasterSessionKey 0 = some key ∧
      key.data = (eapResult equalFold req sid avps).msk := by
  have hallowed : (answerState avps).2 = true →
      isSuccessCode (answerResultCode avps) = true := by
    unfold answerState
    grind
  simp only [eapResult] at h ⊢
  grind

end Epdg.Swm
