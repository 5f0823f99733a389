import Epdg.Ikev2.Message

/-!
The walkers over decrypted payload chains: `parseAuthPayloads` (`auth.go`),
`parseChildSAPayloads` (`rekey.go`) and `parseInfoPayloads` (`inform.go`), with the
readers of identities in `auth.go`.

The three walkers follow the same chain of generic headers. They differ in what
they keep of a payload, and in that only the first one rejects a malformed header
or body; the others stop or skip.
-/
namespace Epdg.Ikev2
open Bytes

section Walk
variable {α : Type}

def walkPayloads (visit : α → UInt8 → Bytes → Option α) (malformed : α → Option α) :
    Nat → UInt8 → Bytes → α → Option α
  | 0, _, _, acc => some acc
  | fuel + 1, cur, plain, acc =>
    if cur = 0 then some acc
    else
      match plain with
      | [] => some acc
      | next :: _ :: l0 :: l1 :: _ =>
        let payloadLen := be16 l0 l1
        if payloadLen < 4 ∨ plain.length < payloadLen then malformed acc
        else
          match visit acc cur ((plain.take payloadLen).drop 4) with
          | none => none
          | some acc =>
            walkPayloads visit malformed fuel next (plain.drop payloadLen) acc
      | _ => malformed acc

end Walk

structure AuthPayloads where
  idi : Option Identification := none
  idr : Option Identification := none
  auth : Option Bytes := none
  sa : Option SecurityAssociation := none
  cp : Option Configuration := none
  eapRaw : Bytes := []
  notifies : List Notification := []
  deriving DecidableEq, Repr

structure ChildSAPayloads where
  sa : Option SecurityAssociation := none
  nonce : Option Bytes := none
  ke : Option KeyExchange := none
  tsi : Bool := false
  tsr : Bool := false
  deriving DecidableEq, Repr

structure InfoPayloads where
  deleteIKE : Bool := false
  deleteESPSPIs : List UInt32 := []
  hasUpdateSA : Bool := false
  cookie2 : Bytes := []
  deriving DecidableEq, Repr

section
variable (C : Codec)

def visitAuth (r : AuthPayloads) (type : UInt8) (body : Bytes) : Option AuthPayloads :=
  if type = typeIDi then (C.unmarshalID body).map fun p => { r with idi := some p }
  else if type = typeIDr then (C.unmarshalID body).map fun p => { r with idr := some p }
  else if type = typeAUTH then (C.unmarshalAUTH body).map fun p => { r with auth := some p }
  else if type = typeSA then (C.unmarshalSA body).map fun p => { r with sa := some p }
  else if type = typeTSi ∨ type = typeTSr then (C.unmarshalTS body).map fun _ => r
  else if type = typeCP then (C.unmarshalCP body).map fun p => { r with cp := some p }
  else if type = typeEAP then some { r with eapRaw := body }
  else if type = typeN then
    if body.length < 4 then none
    else if (body.getD 1 0).toNat > body.length - 4 then none
    else (C.unmarshalN body).map fun p => { r with notifies := r.notifies ++ [p] }
  else some r

def parseAuthPayloads (firstType : UInt8) (plain : Bytes) : Option AuthPayloads :=
  walkPayloads (visitAuth C) (fun _ => none) plain.length firstType plain {}

def visitChildSA (r : ChildSAPayloads) (type : UInt8) (body : Bytes) : ChildSAPayloads :=
  if type = typeSA then { r with sa := (C.unmarshalSA body).or r.sa }
  else if type = typeNiNr then { r with nonce := (C.unmarshalNonce body).or r.nonce }
  else if type = typeKE then { r with ke := (C.unmarshalKE body).or r.ke }
  else if type = typeTSi then { r with tsi := (C.unmarshalTS body).isSome || r.tsi }
  else if type = typeTSr then { r with tsr := (C.unmarshalTS body).isSome || r.tsr }
  else r

def parseChildSAPayloads (firstType : UInt8) (plain : Bytes) : ChildSAPayloads :=
  (walkPayloads (fun r t b => some (visitChildSA C r t b)) some
    plain.length firstType plain {}).getD {}

def visitInfo (r : InfoPayloads) (type : UInt8) (body : Bytes) : InfoPayloads :=
  if type = typeD then
    match C.unmarshalD body with
    | none => r
    | some d =>
      if d.protocolID = protoIKE then { r with deleteIKE := true }
      else if d.protocolID = protoESP then
        { r with deleteESPSPIs := r.deleteESPSPIs ++ d.spis }
      else r
  else if type = typeN then
    match body with
    | _ :: spiSize :: t0 :: t1 :: _ =>
      let notifyType := (be16 t0 t1).toUInt16
      let dataOff := 4 + spiSize.toNat
      if notifyType = updateSAAddresses then { r with hasUpdateSA := true }
      else if notifyType = cookie2Notify ∧ dataOff ≤ body.length then
        { r with cookie2 := body.drop dataOff }
      else r
    | _ => r
  else r

def parseInfoPayloads (firstType : UInt8) (plain : Bytes) : InfoPayloads :=
  (walkPayloads (fun r t b => some (visitInfo C r t b)) some
    plain.length firstType plain {}).getD {}

end

def permanentIMSIFromNAI (raw : Bytes) : Bytes :=
  match raw.takeWhile (· ≠ 0x40) with
  | [] => []
  | c :: digits =>
    if c ≠ 0x30 ∧ c ≠ 0x36 then []
    else if digits.length < 6 ∨ digits.length > 15 then []
    else if digits.all isDigit then digits
    else []

def extractNAI (idi : Identification) : Option (Bytes × Bytes) :=
  if idi.idData = [] then none
  else if idi.idType = idFQDN ∨ idi.idType = idRFC822Addr ∨ idi.idType = idKeyID then
    some (idi.idData, permanentIMSIFromNAI idi.idData)
  else none

def extractAPN (idr : Identification) : Bytes :=
  let label := idr.idData.takeWhile (· ≠ 0x2e)
  if label = [] then idr.idData else label

def findNotifyData (notifies : List Notification) (type : UInt16) : Bytes :=
  ((notifies.find? fun n => n.notifyMessageType = type).map
    Notification.notificationData).getD []

end Epdg.Ikev2
