import Mathlib
import Epdg.S2b.Codec

/-!
The two decoders of information elements agree.

`decodeIEs` cuts the elements off the front of its slice and `decodeIEsWithRaw` moves an offset over
the whole payload. What the first has still to decode is what follows the offset of the second.
-/
namespace Epdg.S2b
open Bytes

def Complete (raw : Bytes) : Prop :=
  ∃ type l0 l1 inst value, raw = type :: l0 :: l1 :: inst :: value ∧ value.length = be16 l0 l1

variable {payload : Bytes} {fuel offset : Nat}

theorem decodeIEsWithRawLoop_eq (payload : Bytes) (fuel offset : Nat) :
    decodeIEsWithRawLoop payload fuel offset =
      match fuel, payload.drop offset with
      | _, [] => some []
      | 0, _ :: _ => none
      | fuel + 1, type :: l0 :: l1 :: inst :: rest =>
        if rest.length < be16 l0 l1 then none
        else
          (decodeIEsWithRawLoop payload fuel (offset + (4 + be16 l0 l1))).map
            ({ type, inst := inst &&& 0x0f, payload := rest.take (be16 l0 l1), offset,
               length := be16 l0 l1,
               raw := type :: l0 :: l1 :: inst :: rest.take (be16 l0 l1) } :: ·)
      | _ + 1, _ => none := by
  have hlen := @List.length_drop _ offset payload
  cases fuel <;> rw [decodeIEsWithRawLoop]
  case zero => grind
  case succ fuel =>
    match hdrop : payload.drop offset with
    | [] => rw [if_neg (Nat.not_lt.mpr (List.drop_eq_nil_iff.mp hdrop))]
    | [_] | [_, _] | [_, _, _] => grind
    | type :: l0 :: l1 :: inst :: rest =>
      rw [hdrop, List.length_cons, List.length_cons, List.length_cons, List.length_cons] at hlen
      have hstop : offset + (4 + be16 l0 l1) > payload.length ↔ rest.length < be16 l0 l1 := by
        omega
      have hbytes : byteAt (type :: l0 :: l1 :: inst :: rest) 0 = type ∧
          uint16At (type :: l0 :: l1 :: inst :: rest) 1 = be16 l0 l1 ∧
          byteAt (type :: l0 :: l1 :: inst :: rest) 3 = inst := ⟨rfl, rfl, rfl⟩
      have htake : (type :: l0 :: l1 :: inst :: rest).take (4 + be16 l0 l1) =
          type :: l0 :: l1 :: inst :: rest.take (be16 l0 l1) := by
        grind
      have hraw : (payload.take (offset + (4 + be16 l0 l1))).drop offset =
          type :: l0 :: l1 :: inst :: rest.take (be16 l0 l1) := by
        rw [← List.take_drop, hdrop, htake]
      rw [if_pos (by omega)]
      simp only [List.length_cons, hbytes, htake, Nat.add_assoc offset 4, hstop, hraw]
      rw [if_neg (by omega)]
      rfl

theorem drop_element {type l0 l1 inst : UInt8} {rest : Bytes}
    (hdrop : payload.drop offset = type :: l0 :: l1 :: inst :: rest) (n : Nat) :
    payload.drop (offset + (4 + n)) = rest.drop n := by
  rw [← List.drop_drop, hdrop, Nat.add_comm 4]
  simp_all

theorem decodeIEsWithRawLoop_elements (payload : Bytes) (fuel offset : Nat) :
    (decodeIEsWithRawLoop payload fuel offset).map (List.map DecodedIE.toIe) =
      decodeIEsLoop fuel (payload.drop offset) := by
  induction fuel generalizing offset with
  | zero =>
    rw [decodeIEsWithRawLoop_eq]
    cases payload.drop offset <;> rfl
  | succ fuel ih =>
    rw [decodeIEsWithRawLoop_eq]
    match hdrop : payload.drop offset with
    | [] | [_] | [_, _] | [_, _, _] => rfl
    | type :: l0 :: l1 :: inst :: rest =>
      rw [decodeIEsLoop]
      dsimp only
      split
      · rfl
      · rw [← drop_element hdrop, ← ih, Option.map_map, Option.map_map]
        rfl

theorem decodeIEsWithRawLoop_raw {out : List DecodedIE}
    (h : decodeIEsWithRawLoop payload fuel offset = some out) :
    (out.map DecodedIE.raw).flatten = payload.drop offset ∧ (∀ e ∈ out, Complete e.raw) ∧
      ∀ i e, out[i]? = some e →
        e.offset = offset + ((out.take i).map fun d => d.raw.length).sum := by
  induction fuel generalizing offset out with
  | zero =>
    rw [decodeIEsWithRawLoop_eq] at h
    grind
  | succ fuel ih =>
    rw [decodeIEsWithRawLoop_eq] at h
    match hdrop : payload.drop offset with
    | [] | [_] | [_, _] | [_, _, _] => simp_all
    | type :: l0 :: l1 :: inst :: rest =>
      rw [hdrop] at h
      dsimp only at h
      split at h
      · contradiction
      · rename_i hle
        obtain ⟨tail, htail, rfl⟩ := Option.map_eq_some_iff.mp h
        obtain ⟨hraw, hcomplete, hoffset⟩ := ih htail
        rw [drop_element hdrop] at hraw
        have hlength : (rest.take (be16 l0 l1)).length = be16 l0 l1 :=
          List.length_take_of_le (Nat.le_of_not_lt hle)
        refine ⟨?_, ?_, ?_⟩
        · simp_all
        · rintro e he
          cases he with
          | head => exact ⟨type, l0, l1, inst, _, rfl, hlength⟩
          | tail _ he => exact hcomplete e he
        · rintro i e he
          cases i with
          | zero => grind
          | succ i => grind

theorem decodeIEsLoop_isSome {elements : List Bytes} (h : ∀ e ∈ elements, Complete e)
    (hfuel : elements.length ≤ fuel) : (decodeIEsLoop fuel elements.flatten).isSome = true := by
  induction elements generalizing fuel with
  | nil =>
    rw [List.flatten_nil, decodeIEsLoop]
    rfl
  | cons raw elements ih =>
    obtain ⟨type, l0, l1, inst, value, rfl, hvalue⟩ := h raw List.mem_cons_self
    obtain ⟨fuel, rfl⟩ := Nat.exists_eq_add_of_lt (Nat.lt_of_lt_of_le (Nat.succ_pos _) hfuel)
    rw [Nat.zero_add, List.flatten_cons]
    simp only [List.cons_append, decodeIEsLoop]
    grind

theorem length_le_flatten {elements : List Bytes} (h : ∀ e ∈ elements, Complete e) :
    elements.length ≤ elements.flatten.length := by
  induction elements with
  | nil => exact Nat.le_refl 0
  | cons raw elements ih =>
    obtain ⟨type, l0, l1, inst, value, rfl, -⟩ := h raw List.mem_cons_self
    grind

/-- The two decoders succeed on the same payloads, those made of complete elements, and return the
same elements. The raw bytes of the second put together are the payload, and the offset of an
element is the length of what precedes it. -/
theorem decodeIEsWithRaw_agrees (payload : Bytes) :
    (decodeIEsWithRaw payload).map (List.map DecodedIE.toIe) = decodeIEs payload ∧
      (∀ out, decodeIEsWithRaw payload = some out →
        (out.map DecodedIE.raw).flatten = payload ∧
          ∀ i e, out[i]? = some e → e.offset = ((out.take i).map fun d => d.raw.length).sum) ∧
      ((decodeIEs payload).isSome = true ↔
        ∃ elements : List Bytes, (∀ e ∈ elements, Complete e) ∧ payload = elements.flatten) := by
  have helements : (decodeIEsWithRaw payload).map (List.map DecodedIE.toIe) = decodeIEs payload :=
    decodeIEsWithRawLoop_elements payload payload.length 0
  refine ⟨helements, ?_, ?_, ?_⟩
  · intro out hout
    obtain ⟨hraw, -, hoffset⟩ := decodeIEsWithRawLoop_raw hout
    exact ⟨hraw, fun i e he => (hoffset i e he).trans (Nat.zero_add _)⟩
  · intro hsome
    rw [← helements, Option.isSome_map] at hsome
    obtain ⟨out, hout⟩ := Option.isSome_iff_exists.mp hsome
    obtain ⟨hraw, hcomplete, -⟩ := decodeIEsWithRawLoop_raw hout
    refine ⟨out.map DecodedIE.raw, ?_, hraw.symm⟩
    simpa only [List.forall_mem_map] using hcomplete
  · rintro ⟨elements, hcomplete, rfl⟩
    exact decodeIEsLoop_isSome hcomplete (length_le_flatten hcomplete)

end Epdg.S2b
