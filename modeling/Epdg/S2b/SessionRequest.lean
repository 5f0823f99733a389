import Epdg.Configuration
import Epdg.Lib.Labels
import Epdg.Pco
import Epdg.S2b.Responses
import Epdg.System.World

/-!
The Create Session Request (`internal/s2b/client.go`, `codec.go`). `none` is an index out of range,
which ends the process.
-/
namespace Epdg.S2b
open Bytes Configuration

def encodeTBCD (value : Bytes) : Option Bytes :=
  let digits := (value.filter isDigit).map (· - 0x30)
  (List.range ((digits.length + 1) / 2)).mapM fun i => do
    let lo ← digits[2 * i]?
    let hi := (digits[2 * i + 1]?).getD 0x0f
    some (lo ||| hi <<< 4)

def digitNibble (b : UInt8) : UInt8 := if 0x30 ≤ b ∧ b ≤ 0x39 then b - 0x30 else 0x0f

def encodePLMN (mcc mnc : Bytes) : Option Bytes := do
  let mnc3 ← if mnc.length = 3 then (mnc[2]?).map digitNibble else some 0x0f
  let mcc0 ← mcc[0]?
  let mcc1 ← mcc[1]?
  let mcc2 ← mcc[2]?
  let mnc0 ← mnc[0]?
  let mnc1 ← mnc[1]?
  some [digitNibble mcc0 ||| digitNibble mcc1 <<< 4, digitNibble mcc2 ||| mnc3 <<< 4,
    digitNibble mnc0 ||| digitNibble mnc1 <<< 4]

def bcdIE (type : UInt8) (value : Bytes) : Option Ie :=
  (encodeTBCD value).map fun payload => { type, payload }

def servingNetworkIE (mcc mnc : Bytes) : Option Ie :=
  (encodePLMN mcc mnc).map fun payload => { type := ieServingNetwork, payload }

def uint8IE (type v : UInt8) : Ie := { type, payload := [v] }

def apnLabels (apn : Bytes) : List Bytes := (apn.splitOn 0x2e).filter (· ≠ [])

def apnIE (apn : Bytes) : Ie := { type := ieAPN, payload := Labels.encodeAll (apnLabels apn) }

def ambrIE (uplinkKbps downlinkKbps : UInt32) : Ie :=
  { type := ieAMBR, payload := putUint32 uplinkKbps ++ putUint32 downlinkKbps }

def bearerQoSIE (qci : UInt8) : Ie :=
  { type := ieBearerQoS, payload := [0x68, qci] ++ List.replicate 20 0 }

def paaIPv4RequestIE : Ie := { type := iePAA, payload := [pdnTypeIPv4, 0, 0, 0, 0] }

def requestPCO (c : Configuration.PCOConfig) : Option Pco.PCO × Option Pco.PCO :=
  if c.enabled = false ∨ (c.requestDNSv4 = false ∧ c.requestDNSv6 = false ∧
      c.requestPCSCFv4 = false ∧ c.requestPCSCFv6 = false) then (none, none)
  else
    let req := Pco.request c.requestDNSv4 c.requestDNSv6 c.requestPCSCFv4 c.requestPCSCFv6
    if req.containers = [] then (none, none)
    else if c.includeAPCO then (some req, some req)
    else (some req, none)

def requestPCOIEs (c : Configuration.PCOConfig) : List Ie :=
  let ies (type : UInt8) (p : Option Pco.PCO) : List Ie :=
    ((p.bind Pco.encode).map fun payload => { type, payload }).toList
  ies iePCO (requestPCO c).1 ++ ies ieAPCO (requestPCO c).2

def createSessionIEs (parseIP : Bytes → Option IP) (cfg : Configuration.Config)
    (req : CreateSessionRequest) (ulKbps dlKbps localControl localUser : UInt32) :
    Option (List Ie) := do
  let bearer := bearerContextIE [bearerQoSIE defaultBearerQCI, uint8IE ieEBI defaultEBI,
    fteidIE 5 ifaceS2BePDGGTPU localUser (parseIP cfg.gtp.localGTPU)]
  let imsi ← bcdIE ieIMSI req.imsi
  let network ← servingNetworkIE cfg.epdg.mcc cfg.epdg.mnc
  some ([imsi, network, uint8IE ieRATType ratTypeWLAN,
      fteidIE 0 ifaceS2BePDGGTPC localControl (parseIP cfg.gtp.localGTPC), apnIE req.apn,
      uint8IE ieSelectionMode 0, paaIPv4RequestIE, ambrIE ulKbps dlKbps, bearer, recoveryIE 0] ++
    (if req.handover then [{ type := ieIndication, payload := [0x00, 0x00, 0x02] }] else []) ++
    requestPCOIEs cfg.pco)

def createSessionPayload (parseIP : Bytes → Option IP) (cfg : Configuration.Config)
    (req : CreateSessionRequest) (ulKbps dlKbps localControl localUser : UInt32) : Option Bytes :=
  (createSessionIEs parseIP cfg req ulKbps dlKbps localControl localUser).map encodeIEs

theorem mapM_isSome {α β : Type} {l : List α} {f : α → Option β}
    (h : ∀ a ∈ l, (f a).isSome = true) : (l.mapM f).isSome = true := by
  induction l with
  | nil => rfl
  | cons a l ih =>
    obtain ⟨b, hb⟩ := Option.isSome_iff_exists.mp (h a List.mem_cons_self)
    obtain ⟨bs, hbs⟩ :=
      Option.isSome_iff_exists.mp (ih fun x hx => h x (List.mem_cons_of_mem a hx))
    simp_all

theorem encodeTBCD_isSome (value : Bytes) : (encodeTBCD value).isSome = true := by
  apply mapM_isSome
  grind

end Epdg.S2b
