import Epdg.Ikev2.Payloads
import Epdg.S2b.SessionRequest

/-!
What a PGW reads from a Create Session Request: the serving network, which the configuration
names, and the APN, which the UE names.
-/
namespace Epdg.S2b
open Bytes Configuration
variable {b : UInt8} {mcc mnc : Bytes}

def digitOf (n : UInt8) : Option UInt8 := if n ≤ 9 then some (n + 0x30) else none

def decodePLMN : Bytes → Option (Bytes × Bytes)
  | [b0, b1, b2] => do
      let mcc0 ← digitOf (b0 &&& 0x0f)
      let mcc1 ← digitOf (b0 >>> 4)
      let mcc2 ← digitOf (b1 &&& 0x0f)
      let mnc0 ← digitOf (b2 &&& 0x0f)
      let mnc1 ← digitOf (b2 >>> 4)
      if b1 >>> 4 = 0x0f then some ([mcc0, mcc1, mcc2], [mnc0, mnc1])
      else
        let mnc2 ← digitOf (b1 >>> 4)
        some ([mcc0, mcc1, mcc2], [mnc0, mnc1, mnc2])
  | _ => none

structure IsPLMN (mcc mnc : Bytes) : Prop where
  mccLength : mcc.length = 3
  mncLength : mnc.length = 2 ∨ mnc.length = 3
  digits : ∀ b ∈ mcc ++ mnc, isDigit b = true

theorem isDigit_digitOf {n : UInt8} (h : digitOf n = some b) : isDigit b = true := by
  have hall : ∀ n : UInt8, ∀ b ∈ digitOf n, isDigit b = true := forall_byte (by decide +kernel)
  exact hall n b h

theorem digitOf_digitNibble (h : isDigit b = true) :
    digitOf (digitNibble b) = some b ∧ digitNibble b ≠ 0x0f := by
  have hall : ∀ b : UInt8, isDigit b = true →
      digitOf (digitNibble b) = some b ∧ digitNibble b ≠ 0x0f := forall_byte (by decide +kernel)
  exact hall b h

theorem digitNibble_le (b : UInt8) : digitNibble b ≤ 0x0f := by
  have hall : ∀ b : UInt8, digitNibble b ≤ 0x0f := forall_byte (by decide +kernel)
  exact hall b

theorem decodePLMN_form {b : Bytes} (h : decodePLMN b = some (mcc, mnc)) : IsPLMN mcc mnc := by
  unfold decodePLMN at h
  split at h
  · simp only [Option.bind_eq_bind, Option.bind_eq_some_iff] at h
    obtain ⟨mcc0, h0, mcc1, h1, mcc2, h2, mnc0, h3, mnc1, h4, h⟩ := h
    have hmcc : ∀ b ∈ [mcc0, mcc1, mcc2], isDigit b = true := by
      simp [isDigit_digitOf h0, isDigit_digitOf h1, isDigit_digitOf h2]
    have hmnc : ∀ b ∈ [mnc0, mnc1], isDigit b = true := by
      simp [isDigit_digitOf h3, isDigit_digitOf h4]
    split at h
    · cases h
      exact ⟨rfl, .inl rfl, List.forall_mem_append.mpr ⟨hmcc, hmnc⟩⟩
    obtain ⟨mnc2, h5, h⟩ := Option.bind_eq_some_iff.mp h
    cases h
    refine ⟨rfl, .inr rfl, List.forall_mem_append.mpr ⟨hmcc, ?_⟩⟩
    simpa [isDigit_digitOf h5] using hmnc
  · cases h

theorem encodePLMN_isSome_iff (mcc mnc : Bytes) :
    (encodePLMN mcc mnc).isSome = true ↔ 3 ≤ mcc.length ∧ 2 ≤ mnc.length := by
  match mcc, mnc with
  | [], _ | [_], _ | [_, _], _ | _ :: _ :: _ :: _, [] | _ :: _ :: _ :: _, [_] =>
    simp [encodePLMN]
  | _ :: _ :: _ :: _, _ :: _ :: [] => simp [encodePLMN]
  | _ :: _ :: _ :: _, _ :: _ :: _ :: rest => cases rest <;> simp [encodePLMN]

theorem decodePLMN_encodePLMN (h : IsPLMN mcc mnc) :
    (encodePLMN mcc mnc).bind decodePLMN = some (mcc, mnc) := by
  obtain ⟨hmcc, hmnc, hdigits⟩ := h
  have hle := digitNibble_le
  match mcc, mnc with
  | [a, b, c], [d, e] =>
    simp only [List.cons_append, List.nil_append, List.forall_mem_cons] at hdigits
    obtain ⟨ha, hb, hc, hd, he, -⟩ := hdigits
    have hfill := halves (hle c) (UInt8.le_refl 0x0f)
    simp [encodePLMN, decodePLMN, halves (hle _) (hle _), hfill, digitOf_digitNibble ha,
      digitOf_digitNibble hb, digitOf_digitNibble hc, digitOf_digitNibble hd,
      digitOf_digitNibble he]
  | [a, b, c], [d, e, f] =>
    simp only [List.cons_append, List.nil_append, List.forall_mem_cons] at hdigits
    obtain ⟨ha, hb, hc, hd, he, hf, -⟩ := hdigits
    simp [encodePLMN, decodePLMN, halves (hle _) (hle _), digitOf_digitNibble ha,
      digitOf_digitNibble hb, digitOf_digitNibble hc, digitOf_digitNibble hd,
      digitOf_digitNibble he, digitOf_digitNibble hf]

section Network
variable (parseIP : Bytes → Option IP) (cfg : Configuration.Config) (req : CreateSessionRequest)
  (ulKbps dlKbps localControl localUser : UInt32)

def networkOf (ies : List Ie) : Option (Bytes × Bytes) :=
  (findIE ies ieServingNetwork 0).bind fun e => decodePLMN e.payload

theorem createSessionIEs_eq :
    ∃ ies : Bytes → List Ie, (∀ plmn, networkOf (ies plmn) = decodePLMN plmn) ∧
      createSessionIEs parseIP cfg req ulKbps dlKbps localControl localUser
        = (encodePLMN cfg.epdg.mcc cfg.epdg.mnc).map ies := by
  obtain ⟨imsi, himsi⟩ := Option.isSome_iff_exists.mp (encodeTBCD_isSome req.imsi)
  simp only [createSessionIEs, bcdIE, servingNetworkIE, himsi, Option.map_some,
    Option.bind_eq_bind, Option.bind_some, Option.bind_map]
  refine ⟨_, ?_, Option.map_eq_bind.symm⟩
  exact fun plmn => rfl

/-- For an accepted configuration the request is made exactly when the codes of the network are not
too short, and names the configured network exactly when they are three and two or three digits. -/
theorem serving_network_iff (cfg : Configuration.Accepted parseIP) :
    ((createSessionPayload parseIP cfg.config req ulKbps dlKbps localControl localUser).isSome
        = true ↔ 3 ≤ cfg.config.epdg.mcc.length ∧ 2 ≤ cfg.config.epdg.mnc.length) ∧
    ((createSessionIEs parseIP cfg.config req ulKbps dlKbps localControl localUser).bind networkOf
        = some (cfg.config.epdg.mcc, cfg.config.epdg.mnc) ↔
      IsPLMN cfg.config.epdg.mcc cfg.config.epdg.mnc) := by
  obtain ⟨ies, hnet, hies⟩ :=
    createSessionIEs_eq parseIP cfg.config req ulKbps dlKbps localControl localUser
  constructor
  · rw [createSessionPayload, Option.isSome_map, hies, Option.isSome_map, encodePLMN_isSome_iff]
  · rw [hies, Option.bind_map]
    constructor
    · intro h
      obtain ⟨plmn, -, hread⟩ := Option.bind_eq_some_iff.mp h
      exact decodePLMN_form ((hnet plmn).symm.trans hread)
    · intro h
      rw [← decodePLMN_encodePLMN h]
      exact congrArg (Option.bind _) (funext hnet)

end Network

section Runs

def labParseIP (text : Bytes) : Option IP :=
  if text = ascii "192.0.2.1" then some (.v4 0xc0000201)
  else if text = ascii "192.0.2.9" then some (.v4 0xc0000209)
  else none

def labConfig : Configuration.Config where
  epdg := { name := ascii "epdg", realm := ascii "example.org", mcc := ascii "001"
            mnc := ascii "01", mncLength := 2 }
  loggingLevel := ascii "info"
  swm := { localAddr := ascii "192.0.2.1", peerAddr := ascii "192.0.2.9", peerPort := 3868
           proto := ascii "TCP", originHost := ascii "epdg.example.org"
           originRealm := ascii "example.org", destinationRealm := ascii "example.org"
           watchdogIntervalSeconds := 30, watchdogTimeoutSeconds := 10 }
  gtp := { localGTPC := ascii "192.0.2.1", localGTPU := ascii "192.0.2.1", localPort := 2152
           pgwGTPC := ascii "192.0.2.9", mtu := 1400
           bpf := { xdpAttachMode := ascii "generic", xdpInterface := ascii "eth0"
                    mapMaxEntries := 4096 } }
  apnDefault := ascii "ims"
  shutdownTimeoutSeconds := 10

example :
    ({ labConfig with apnDefault := [], shutdownTimeoutSeconds := 0 }.validate labParseIP).map
        FieldError.text
      = ["apn.default is required", "shutdown.timeout_seconds must be greater than 0"] := by
  decide +kernel

def labAccepted : Configuration.Accepted labParseIP := ⟨labConfig, by decide +kernel⟩

def labRequest : CreateSessionRequest :=
  { imsi := ascii "001010123456789", apn := ascii "ims", ambrUplink := 1000, ambrDownlink := 1000
    handover := false, pgwControlIP := none }

def requested (cfg : Configuration.Accepted labParseIP) : Bool × Option (Bytes × Bytes) :=
  ((createSessionPayload labParseIP cfg.config labRequest 1 1 0x301 0x401).isSome,
    (createSessionIEs labParseIP cfg.config labRequest 1 1 0x301 0x401).bind networkOf)

/-- Accepted codes that end the process, that are no digits, and that are cut short. -/
theorem accepted_network_unencodable :
    requested (labAccepted.withPLMN (ascii "1") (ascii "01") (by decide) (by decide))
      = (false, none) ∧
    requested (labAccepted.withPLMN (ascii "001") (ascii "1") (by decide) (by decide))
      = (false, none) ∧
    requested (labAccepted.withPLMN (ascii "0x1") (ascii "01") (by decide) (by decide))
      = (true, none) ∧
    requested (labAccepted.withPLMN (ascii "0012") (ascii "0101") (by decide) (by decide))
      = (true, some (ascii "001", ascii "01")) := by
  decide +kernel

theorem lab_network_named :
    (createSessionIEs labParseIP labConfig labRequest 1 1 0x301 0x401).bind networkOf
      = some (ascii "001", ascii "01") :=
  (serving_network_iff labParseIP labRequest 1 1 0x301 0x401 labAccepted).2.mpr
    ⟨rfl, .inl rfl, by decide +kernel⟩

end Runs

section Apn
open Ikev2

/-- The APN that a UE asks for is read back as its labels exactly when each of them is short enough
for its length byte. -/
theorem apn_labels_iff (idr : Identification) :
    Labels.decode (apnIE (extractAPN idr)).payload = some (apnLabels (extractAPN idr)) ↔
      ∀ l ∈ apnLabels (extractAPN idr), l.length ≤ 255 :=
  Labels.decode_encodeAll_iff

def longIDr : Identification := ⟨idFQDN, List.replicate 256 0x61 ++ ascii ".example.org"⟩

theorem long_apn_unreadable :
    (apnIE (extractAPN longIDr)).payload = 0 :: List.replicate 256 0x61 ∧
    apnLabels (extractAPN longIDr) = [List.replicate 256 0x61] ∧
    Labels.decode (apnIE (extractAPN longIDr)).payload = none := by
  decide +kernel

end Apn
end Epdg.S2b
