import Epdg.Diameter.RoundTrip

/-!
Diameter messages survive `Encode` and `DecodeMessage`, and `DecodeMessage` followed by `Encode`
changes nothing but padding.
-/
namespace Epdg.Diameter
open Bytes
variable {m : Message}

def paddingAt : List AVP → Nat → Bool
  | [], _ => false
  | a :: avps, i =>
    if i < pad4 a.length then decide (a.length ≤ i) else paddingAt avps (i - pad4 a.length)

def Message.paddingAt (m : Message) (i : Nat) : Bool :=
  decide (headerLen ≤ i) && Diameter.paddingAt m.avps (i - headerLen)

theorem wires_agree {l l' : List (AVP × Bytes)} (hl : Padded l) (hl' : Padded l')
    (h : l.map Prod.fst = l'.map Prod.fst) :
    (wires l).length = (wires l').length ∧
      ∀ i, paddingAt (l.map Prod.fst) i = false → (wires l)[i]? = (wires l')[i]? := by
  induction l generalizing l' with
  | nil => simp_all
  | cons x l ih =>
    obtain ⟨a, p⟩ := x
    obtain ⟨⟨a', p'⟩, l', rfl, ha, hrest⟩ := List.map_eq_cons_iff.mp h.symm
    obtain rfl : a' = a := ha
    have hp : p.length = a'.padding := (hl _ List.mem_cons_self).2
    have hp' : p'.length = a'.padding := (hl' _ List.mem_cons_self).2
    obtain ⟨hlen, hget⟩ := ih hl.tail hl'.tail hrest.symm
    refine ⟨by simp only [wires_cons, List.length_append, hlen, hp, hp'], ?_⟩
    intro i hi
    rw [List.map_cons, paddingAt] at hi
    split at hi
    · -- the header and the data are the same on both sides
      have hdata : i < (a'.header ++ a'.data).length := by
        rw [List.length_append, header_length]
        exact Nat.not_le.mp (of_decide_eq_false hi)
      have hfront (q w : Bytes) :
          (a'.header ++ a'.data ++ q ++ w)[i]? = (a'.header ++ a'.data)[i]? := by
        grind
      exact (hfront p _).trans (hfront p' _).symm
    · have hback (q w : Bytes) (hq : q.length = a'.padding) :
          (a'.header ++ a'.data ++ q ++ w)[i]? = w[i - pad4 a'.length]? := by
        have hwire := wire_length hq
        grind
      exact (hback p _ hp).trans ((hget _ hi).trans (hback p' _ hp').symm)

theorem length_le_encode {a : AVP} (ha : a ∈ m.avps) : a.length ≤ m.encode.length := by
  have hone : a.length ≤ a.encode.length := by
    rw [encode_eq_wire, wire_length List.length_replicate, marked_length]
    exact le_pad4 a.length
  have hall : a.encode.length ≤ (m.avps.flatMap AVP.encode).length := by
    obtain ⟨before, after, hsplit⟩ := List.append_of_mem ha
    grind
  have hpayload : (m.avps.flatMap AVP.encode).length ≤ m.encode.length := by
    rw [encode_eq_wires, ← flatMap_encode, List.length_append]
    omega
  omega

theorem decode_encode (hcmd : m.commandCode.toNat < 2 ^ 24)
    (hv : ∀ a ∈ m.avps, a.flags &&& flagVendorAVP ≠ 0 → a.vendorID ≠ 0)
    (hmax : m.encode.length ≤ maxMessageLen) (rest : Bytes) : decodeMessage (m.encode ++ rest) =
      some ({ m with avps := m.avps.map AVP.marked }, rest) := by
  have hsound : ∀ a ∈ m.avps.map AVP.marked, a.Sound := by
    intro a' ha'
    obtain ⟨a, ha, rfl⟩ := List.mem_map.mp ha'
    refine marked_sound (hv a ha) ?_
    have hle := length_le_encode ha
    rw [maxMessageLen] at hmax
    omega
  have hlen := hmax
  rw [encode_eq_wires, List.length_append, message_header_length] at hlen
  rw [encode_eq_wires]
  exact decodeMessage_wires (m := { m with avps := m.avps.map AVP.marked })
    (zeroPadded_padded hsound) (zeroPadded_fst _) hcmd hlen rest

theorem encode_decode {r rest : Bytes} (h : decodeMessage r = some (m, rest)) :
    ∃ b, r = b ++ rest ∧ m.encode.length = b.length ∧
      (∀ i, m.paddingAt i = false → m.encode[i]? = b[i]?) ∧
      ∀ rest', decodeMessage (m.encode ++ rest') = some (m, rest') := by
  obtain ⟨l, hl, hfst, hcmd, hmax, hr⟩ := decodeMessage_sound h
  have hsound : ∀ a ∈ m.avps, a.Sound := by
    intro a ha
    rw [← hfst] at ha
    obtain ⟨x, hx, rfl⟩ := List.mem_map.mp ha
    exact (hl x hx).1
  have hmarked : m.avps.map AVP.marked = m.avps := by
    rw [List.map_congr_left fun a ha => marked_of_sound (hsound a ha), List.map_id']
  have hzero := zeroPadded_padded hsound
  obtain ⟨hlen, hagree⟩ := wires_agree hzero hl ((zeroPadded_fst m.avps).trans hfst.symm)
  rw [zeroPadded_fst] at hagree
  have henc := encode_eq_wires m
  rw [hmarked, hlen] at henc
  refine ⟨m.header (headerLen + (wires l).length) ++ wires l, hr, ?_, ?_, ?_⟩
  · simp_all
  · intro i hi
    rw [henc]
    by_cases hhead : i < headerLen
    · have hi' := (message_header_length m (headerLen + (wires l).length)).symm ▸ hhead
      grind
    simp only [Message.paddingAt, Nat.not_lt.mp hhead, decide_true, Bool.true_and] at hi
    rw [List.getElem?_append_right (by rw [message_header_length]; omega),
      List.getElem?_append_right (by rw [message_header_length]; omega), message_header_length]
    exact hagree _ hi
  · intro rest'
    have hm := decodeMessage_wires hzero (zeroPadded_fst m.avps) hcmd (hlen ▸ hmax) rest'
    simp_all

/-- Both round trips. -/
theorem diameter_round_trip :
    (∀ (m : Message) (rest : Bytes), m.commandCode.toNat < 2 ^ 24 →
      (∀ a ∈ m.avps, a.flags &&& flagVendorAVP ≠ 0 → a.vendorID ≠ 0) →
      m.encode.length ≤ maxMessageLen →
      decodeMessage (m.encode ++ rest) =
        some ({ m with avps := m.avps.map AVP.marked }, rest)) ∧
    ∀ (r rest : Bytes) (m : Message), decodeMessage r = some (m, rest) →
      ∃ b, r = b ++ rest ∧ m.encode.length = b.length ∧
        (∀ i, m.paddingAt i = false → m.encode[i]? = b[i]?) ∧
        ∀ rest', decodeMessage (m.encode ++ rest') = some (m, rest') :=
  ⟨fun _ rest hcmd hv hmax => decode_encode hcmd hv hmax rest, fun _ _ _ => encode_decode⟩

def ambrRequest (flags : UInt8) : Message :=
  ⟨flagRequest, commandDWR, 0, 1, 1, [⟨avpAMBR, vendor3GPP, flags, [7]⟩]⟩

def ambrBytes : Bytes := (ambrRequest 0xc0).encode.take 33 ++ [1, 2, 3]

theorem ambr_round_trip :
    decodeMessage ((ambrRequest 0x40).encode ++ [9]) = some (ambrRequest 0xc0, [9]) ∧
      (ambrRequest 0xc0).encode ≠ ambrBytes ∧
      ∃ b, ambrBytes ++ [9] = b ++ [9] ∧ (ambrRequest 0xc0).encode.length = b.length ∧
        (∀ i, (ambrRequest 0xc0).paddingAt i = false → (ambrRequest 0xc0).encode[i]? = b[i]?) ∧
        ∀ rest', decodeMessage ((ambrRequest 0xc0).encode ++ rest') =
          some (ambrRequest 0xc0, rest') := by
  have hsmall : (ambrRequest 0x40).commandCode.toNat < 2 ^ 24 ∧
      (∀ a ∈ (ambrRequest 0x40).avps, a.flags &&& flagVendorAVP ≠ 0 → a.vendorID ≠ 0) ∧
      (ambrRequest 0x40).encode.length ≤ maxMessageLen ∧
      (ambrRequest 0xc0).encode ≠ ambrBytes ∧
      decodeMessage (ambrBytes ++ [9]) = some (ambrRequest 0xc0, [9]) := by
    decide +kernel
  obtain ⟨hcmd, hv, hmax, hne, hdec⟩ := hsmall
  exact ⟨diameter_round_trip.1 _ [9] hcmd hv hmax, hne, diameter_round_trip.2 _ _ _ hdec⟩

end Epdg.Diameter
