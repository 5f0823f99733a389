import Epdg.Ikev2.Payloads
import Epdg.Lib.Utf8
import Epdg.S2b.SessionRequest
import Epdg.Swm.Eap

/-!
The IMSI from the identities that show it to the element that carries it.

The source ranges over the runes of a text. A digit is an ASCII rune, so the loops find the digits
among the bytes, which is how the functions are modelled.
-/
namespace Epdg
open Bytes

namespace S2b

def nibbles (payload : Bytes) : Bytes := payload.flatMap fun b : UInt8 => [b &&& 0x0f, b >>> 4]

def decodeTBCD (payload : Bytes) : Bytes :=
  ((nibbles payload).takeWhile (· ≠ 0x0f)).map (· + 0x30)

def pairs : Bytes → Bytes
  | [] => []
  | [lo] => [lo ||| (0x0f : UInt8) <<< 4]
  | lo :: hi :: rest => (lo ||| hi <<< 4) :: pairs rest

theorem range_mapM_pairs (digits : Bytes) :
    ((List.range ((digits.length + 1) / 2)).mapM fun i => do
      let lo ← digits[2 * i]?
      let hi := (digits[2 * i + 1]?).getD 0x0f
      some (lo ||| hi <<< 4)) = some (pairs digits) := by
  induction digits using pairs.induct with
  | case1 => rfl
  | case2 lo =>
    have hone : List.range (([lo].length + 1) / 2) = [0] := by simp
    rw [hone, List.mapM_cons]
    rfl
  | case3 lo hi rest ih =>
    have hlen : ((lo :: hi :: rest).length + 1) / 2 = (rest.length + 1) / 2 + 1 := by grind
    rw [hlen, List.range_succ_eq_map, List.mapM_cons, List.mapM_map]
    have hrest : ∀ i, (lo :: hi :: rest)[2 * (i + 1)]? = rest[2 * i]? ∧
        (lo :: hi :: rest)[2 * (i + 1) + 1]? = rest[2 * i + 1]? := fun i => ⟨rfl, rfl⟩
    simp only [Function.comp_def, Nat.succ_eq_add_one, hrest, ih]
    rfl

theorem encodeTBCD_eq (value : Bytes) :
    encodeTBCD value = some (pairs ((value.filter isDigit).map (· - 0x30))) :=
  range_mapM_pairs _

theorem digit_bounds {d : UInt8} (h : d ≤ 9) : d ≤ 0x0f ∧ decide (d ≠ 0x0f) = true :=
  ⟨UInt8.le_trans h (by decide), decide_eq_true fun hd => absurd h (by rw [hd]; decide)⟩

theorem nibbles_pairs {digits : Bytes} (h : ∀ d ∈ digits, d ≤ 9) :
    (nibbles (pairs digits)).takeWhile (· ≠ 0x0f) = digits := by
  induction digits using pairs.induct with
  | case1 => rfl
  | case2 lo =>
    have hlo := digit_bounds (h lo List.mem_cons_self)
    have hhalf := halves hlo.1 (UInt8.le_refl 0x0f)
    rw [pairs, nibbles, List.flatMap_cons, hhalf.1, hhalf.2]
    simp_all
  | case3 lo hi rest ih =>
    simp only [List.forall_mem_cons] at h
    obtain ⟨hlo, hhi, hrest⟩ := h
    have hlo := digit_bounds hlo
    have hhi := digit_bounds hhi
    have hhalf := halves hlo.1 hhi.1
    rw [pairs, nibbles, List.flatMap_cons, hhalf.1, hhalf.2]
    simp only [List.cons_append, List.nil_append, List.takeWhile_cons, hlo.2, hhi.2, if_pos]
    exact congrArg (lo :: hi :: ·) (ih hrest)

theorem decodeTBCD_encodeTBCD {value : Bytes} (h : value.all isDigit = true) :
    ∃ payload, encodeTBCD value = some payload ∧ decodeTBCD payload = value := by
  have hdigits := List.all_eq_true.mp h
  refine ⟨_, encodeTBCD_eq value, ?_⟩
  rw [List.filter_eq_self.mpr hdigits, decodeTBCD, nibbles_pairs, List.map_map]
  · refine (List.map_congr_left fun c hc => ?_).trans (List.map_id value)
    simp_all
  · rw [List.forall_mem_map]
    intro c hc
    have hc := hdigits c hc
    simp only [isDigit, Bool.and_eq_true, decide_eq_true_eq, UInt8.le_iff_toNat_le] at hc ⊢
    rw [UInt8.toNat_sub_of_le _ _ hc.1]
    simp_all

end S2b

structure CarriedIMSI (imsi : Bytes) : Prop where
  length : 6 ≤ imsi.length ∧ imsi.length ≤ 15
  digits : ∀ c ∈ imsi, isDigit c = true
  carried : ∃ e, S2b.bcdIE S2b.ieIMSI imsi = some e ∧ S2b.decodeTBCD e.payload = imsi

theorem CarriedIMSI.of_digits {imsi : Bytes} (hlen : ¬ (imsi.length < 6 ∨ imsi.length > 15))
    (h : imsi.all isDigit = true) : CarriedIMSI imsi := by
  obtain ⟨payload, hpayload, hdecode⟩ := S2b.decodeTBCD_encodeTBCD h
  refine ⟨by omega, List.all_eq_true.mp h, ⟨S2b.ieIMSI, 0, payload⟩, ?_, hdecode⟩
  rw [S2b.bcdIE, hpayload]
  rfl

def isDigitRune (r : Nat) : Bool := !(r < 0x30 || r > 0x39)

theorem isDigitRune_toNat : isDigitRune ∘ UInt8.toNat = isDigit := by
  funext b
  rw [Bool.eq_iff_iff]
  simp [isDigitRune, isDigit, UInt8.le_iff_toNat_le]

theorem isDigitRune_long (r : Nat) (h : 0x80 ≤ r) : isDigitRune r = false := by
  simp [isDigitRune]
  omega

theorem carried_of_nai {raw imsi : Bytes} (h : Ikev2.permanentIMSIFromNAI raw = imsi)
    (hne : imsi ≠ []) : CarriedIMSI imsi := by
  unfold Ikev2.permanentIMSIFromNAI at h
  split at h
  · grind
  · split at h
    · grind
    · split at h
      · grind
      · rename_i hlen
        split at h
        · rename_i hdigits
          subst h
          exact .of_digits hlen hdigits
        · grind

theorem carried_of_userName {userName imsi : Bytes}
    (h : Swm.permanentIMSIFromUserName userName = some imsi) : CarriedIMSI imsi := by
  unfold Swm.permanentIMSIFromUserName at h
  dsimp only at h
  split at h
  · contradiction
  · rename_i hlen
    split at h
    · rename_i hdigits
      cases h
      exact .of_digits hlen hdigits
    · contradiction

/-- The loops over the runes of a text find its digits among the bytes. An IMSI taken from an IDi or
from the user name of a Diameter answer has six to fifteen decimal digits, which the IMSI element
carries; and `encodeTBCD` stays in range for every text. -/
theorem imsi_digits_carried :
    (∀ text : Bytes, (Utf8.runes text).all isDigitRune = text.all isDigit ∧
      (Utf8.runes text).filter isDigitRune = (text.filter isDigit).map UInt8.toNat) ∧
      (∀ raw imsi, Ikev2.permanentIMSIFromNAI raw = imsi → imsi ≠ [] → CarriedIMSI imsi) ∧
      (∀ userName imsi, Swm.permanentIMSIFromUserName userName = some imsi → CarriedIMSI imsi) ∧
      ∀ value, (S2b.encodeTBCD value).isSome = true := by
  refine ⟨fun text => ⟨?_, ?_⟩, fun _ _ => carried_of_nai, fun _ _ => carried_of_userName,
    S2b.encodeTBCD_isSome⟩
  · rw [Utf8.all_runes isDigitRune_long, List.all_map, isDigitRune_toNat]
  · rw [Utf8.filter_runes isDigitRune_long, List.filter_map, isDigitRune_toNat]

/-- A permanent identity of EAP-AKA. -/
theorem imsi_digits_carried_aka :
    Ikev2.permanentIMSIFromNAI (ascii "0310410123456789@nai.epc") = ascii "310410123456789" ∧
      CarriedIMSI (ascii "310410123456789") := by
  have himsi : Ikev2.permanentIMSIFromNAI (ascii "0310410123456789@nai.epc") =
      ascii "310410123456789" := by decide
  exact ⟨himsi, imsi_digits_carried.2.1 _ _ himsi (by decide)⟩

end Epdg
