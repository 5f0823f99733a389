import Epdg.Ikev2.Opening
import Epdg.Properties.RekeyDerivation

/-!
The opening of SK payloads stays within bounds. Nothing in it panics on any message, and a message
opens when its lengths, its checksum or tag and its padding are right.
-/
namespace Epdg.Ikev2
open Bytes

section Checks
variable (P : Primitives)

theorem decrypt_checked (key ciphertext : Bytes) :
    Checked.decrypt P key ciphertext = some (EncrAlg.decrypt P key ciphertext) := by
  rw [Checked.decrypt, EncrAlg.decrypt]
  split
  · rfl
  · split
    · rfl
    · have hcrypt : Checked.cryptBlocks P key (ciphertext.take 16) (ciphertext.drop 16) =
          some (P.cbcDecrypt key (ciphertext.take 16) (ciphertext.drop 16)) :=
        if_pos ⟨by rw [List.length_take]; omega, by rw [List.length_drop]; omega⟩
      rw [slice_front (by omega), slice_back (by omega)]
      dsimp only [Option.bind_eq_bind, Option.bind_some]
      rw [hcrypt, Option.bind_some]
      generalize P.cbcDecrypt key (ciphertext.take 16) (ciphertext.drop 16) = plain
      cases hlast : plain.getLast? with
      | none => simp_all
      | some last =>
        have hne : plain.length ≠ 0 := by grind
        rw [List.getLast?_eq_getElem?] at hlast
        rw [if_neg hne, hlast]
        dsimp only [Option.bind_some]
        split
        · rfl
        · have hcut : (plain.length : Int) - (last.toNat + 1 : Nat) =
              (plain.length - (last.toNat + 1) : Nat) := by omega
          rw [sliceInt_front hcut (Nat.sub_le _ _)]
          rfl

theorem aeadCipher_checked (key : Bytes) (saltLen : Nat) :
    Checked.aeadCipher key saltLen = some (aeadCipher key saltLen) := by
  rw [Checked.aeadCipher, aeadCipher]
  split
  · rfl
  · have hcut : (key.length : Int) - saltLen = (key.length - saltLen : Nat) := by omega
    rw [sliceInt_front hcut (Nat.sub_le _ _), sliceInt_back hcut (Nat.sub_le _ _)]
    grind

theorem decryptSKAEAD_checked {k : IkeSAKey} (hsalt : k.encr.saltLen ≤ 12) (msg : Bytes) :
    Checked.decryptSKAEAD P k msg = some (decryptSKAEAD P k msg) := by
  rw [Checked.decryptSKAEAD, decryptSKAEAD, aeadCipher_checked, aeadCipher]
  dsimp only [Option.bind_eq_bind, Option.bind_some]
  by_cases hlong : k.skEi.length ≤ k.encr.saltLen
  · simp_all
  rw [if_neg hlong, if_neg hlong]
  by_cases hok : ¬ aesKeyOK (k.skEi.take (k.skEi.length - k.encr.saltLen)) = true
  · simp_all
  rw [if_neg hok, if_neg hok]
  have hsaltLen : (k.skEi.drop (k.skEi.length - k.encr.saltLen)).length = k.encr.saltLen := by grind
  have hiv : (12 : Int) - k.encr.saltLen = (12 - k.encr.saltLen : Nat) := by omega
  dsimp only
  rw [hsaltLen, hiv]
  by_cases hshort : msg.length < 32 + (12 - k.encr.saltLen) + 16
  · grind
  have hexplicit : msg.sliceInt 32 (32 + (12 - k.encr.saltLen : Nat)) =
      some ((msg.drop 32).take (12 - k.encr.saltLen)) := by
    rw [List.take_drop, ← slice_eq (Nat.le_add_right 32 _) (by omega)]
    exact sliceInt_eq rfl rfl
  have hcipher : msg.sliceInt (32 + (12 - k.encr.saltLen : Nat)) msg.length =
      some (msg.drop (32 + (12 - k.encr.saltLen))) := sliceInt_back rfl (by omega)
  have hnonce : (k.skEi.drop (k.skEi.length - k.encr.saltLen) ++
      (msg.drop 32).take (12 - k.encr.saltLen)).length = 12 := by
    grind
  rw [if_neg hshort, if_neg (by omega), index_eq (by omega), hexplicit, slice_front (by omega),
    hcipher]
  dsimp only [Option.bind_some]
  rw [Checked.gcmOpen, if_pos hnonce, Option.bind_some]
  split <;> simp_all [byteAt]

theorem decryptSK_checked {k : IkeSAKey} (hinteg : k.encr.isAEAD = false → k.integ.isSome = true)
    (msg : Bytes) : Checked.decryptSK P k msg = some (decryptSK P k msg) := by
  rw [Checked.decryptSK, decryptSK]
  cases haead : k.encr.isAEAD with
  | true =>
    have hsalt : k.encr.saltLen ≤ 12 := by cases k.encr <;> decide
    exact decryptSKAEAD_checked P hsalt msg
  | false =>
    obtain ⟨integ, hk⟩ := Option.isSome_iff_exists.mp (hinteg haead)
    rw [if_neg Bool.false_ne_true, if_neg Bool.false_ne_true, hk]
    dsimp only [Option.bind_eq_bind, Option.bind_some]
    by_cases hshort : msg.length < 28 + 4 + integ.outputLen
    · simp_all
    have hmac : ∀ data, (P.hmac integ.hash k.skAi data).slice 0 integ.outputLen =
        some ((P.hmac integ.hash k.skAi data).take integ.outputLen) := by
      intro data
      apply slice_front
      rw [P.hmac_length]
      cases integ <;> decide
    have hcut : (msg.length : Int) - integ.outputLen = (msg.length - integ.outputLen : Nat) := by
      omega
    have hcipher : sliceInt (msg.drop 28) 4 ((msg.drop 28).length - integ.outputLen) =
        some ((msg.take (msg.length - integ.outputLen)).drop 32) := by
      have hlen := @List.length_drop _ 28 msg
      have hhi : ((msg.drop 28).length : Int) - integ.outputLen =
          (msg.length - integ.outputLen - 28 : Nat) := by omega
      have h4 : 4 ≤ msg.length - integ.outputLen - 28 := by omega
      have hcipher := slice_eq (b := msg.drop 28) h4 (by omega)
      rw [← List.drop_take, List.drop_drop] at hcipher
      rw [hhi]
      exact (sliceInt_eq rfl rfl).trans hcipher
    rw [if_neg hshort, if_neg hshort, sliceInt_front hcut (Nat.sub_le _ _)]
    dsimp only [Option.bind_some]
    rw [hmac, sliceInt_back hcut (Nat.sub_le _ _)]
    dsimp only [Option.bind_some]
    split
    · rfl
    · rw [index_eq (by omega), slice_back (by omega)]
      dsimp only [Option.bind_some]
      rw [hcipher, Option.bind_some, decrypt_checked]
      rfl

end Checks

def WellFormed (P : Primitives) (k : IkeSAKey) (msg : Bytes) : Prop :=
  match k.integ with
  | none =>
    let n := k.encr.keyBits / 8
    32 + 8 + 16 ≤ msg.length ∧
      (P.gcmOpen (k.skEi.take n) (k.skEi.drop n ++ (msg.drop 32).take 8) (msg.drop 40)
        (msg.take 32)).isSome = true
  | some integ =>
    let front := msg.take (msg.length - integ.outputLen)
    let plain := P.cbcDecrypt k.skEi ((front.drop 32).take 16) ((front.drop 32).drop 16)
    32 + integ.outputLen + 16 ≤ msg.length ∧
      (P.hmac integ.hash k.skAi front).take integ.outputLen =
        msg.drop (msg.length - integ.outputLen) ∧
      (msg.length - integ.outputLen - 32) % 16 = 0 ∧
      ∃ last, plain.getLast? = some last ∧ last.toNat < plain.length

section Opens
variable {P : Primitives} {k : IkeSAKey} {msg : Bytes}

theorem decryptSK_isSome_cbc {integ : IntegAlg} (haead : k.encr.isAEAD = false)
    (hinteg : k.integ = some integ) (hkey : k.skEi.length = k.encr.keyLen) :
    (decryptSK P k msg).isSome = true ↔ WellFormed P k msg := by
  have hok : ¬ ¬ aesKeyOK k.skEi = true := by
    rw [aesKeyOK, hkey]
    cases hencr : k.encr with
    | aesCbc128 | aesCbc256 => decide
    | aesGcm16_128 | aesGcm16_256 => rw [hencr] at haead; cases haead
  have hlen : ((msg.take (msg.length - integ.outputLen)).drop 32).length =
      msg.length - integ.outputLen - 32 := by simp
  rw [decryptSK, if_neg (by simp [haead]), WellFormed, hinteg]
  dsimp only
  rw [EncrAlg.decrypt, hlen, if_neg hok]
  by_cases hshort : msg.length < 28 + 4 + integ.outputLen
  · grind
  rw [if_neg hshort]
  split
  · simp_all
  split
  · grind
  dsimp only
  split
  · simp_all
  · split
    · grind
    · grind

theorem decryptSK_isSome_aead (haead : k.encr.isAEAD = true) (hinteg : k.integ = none)
    (hkey : k.skEi.length = k.encr.keyLen) :
    (decryptSK P k msg).isSome = true ↔ WellFormed P k msg := by
  have hlens : k.encr.saltLen = 4 ∧ k.skEi.length - k.encr.saltLen = k.encr.keyBits / 8 ∧
      k.encr.saltLen < k.skEi.length ∧ aesKeyOK (k.skEi.take (k.encr.keyBits / 8)) = true := by
    rw [aesKeyOK, List.length_take, hkey]
    cases hencr : k.encr with
    | aesCbc128 | aesCbc256 => rw [hencr] at haead; cases haead
    | aesGcm16_128 | aesGcm16_256 => decide
  obtain ⟨hsalt, hcut, hlong, hok⟩ := hlens
  rw [decryptSK, if_pos haead, decryptSKAEAD, WellFormed, hinteg]
  grind

end Opens

theorem supportedIKEProposals_integ :
    ∀ p ∈ supportedIKEProposals, p.integ = none ↔ p.encr.isAEAD = true := by decide

theorem expandKeys_skEi (P : Primitives) (k : IkeSAKey) (skeyseed nonces : Bytes)
    (spiI spiR : UInt64) :
    (expandKeys P k skeyseed nonces spiI spiR).skEi.length = k.encr.keyLen := by
  have hlens := (expandKeys_cut P k skeyseed nonces spiI spiR).lengths
  simp only [IkeSAKey.keys, IkeSAKey.lengths, List.map_cons, List.cons.injEq] at hlens
  exact hlens.2.2.2.1

/-- With the keys derived for a supported suite, from whatever SKEYSEED, no message makes
`decryptSK` panic, and it is an error that all messages but the well-formed ones lead to. -/
theorem decryptSK_within_bounds (P : Primitives) (k : IkeSAKey)
    (hsuite : ⟨k.dh, k.encr, k.integ, k.prf⟩ ∈ supportedIKEProposals) (skeyseed nonces : Bytes)
    (spiI spiR : UInt64) (msg : Bytes) :
    let derived := expandKeys P k skeyseed nonces spiI spiR
    ∃ r, Checked.decryptSK P derived msg = some r ∧ r = decryptSK P derived msg ∧
      (r.isSome = true ↔ WellFormed P derived msg) := by
  intro derived
  have hinteg : k.integ = none ↔ k.encr.isAEAD = true := supportedIKEProposals_integ _ hsuite
  have hkey : derived.skEi.length = derived.encr.keyLen := expandKeys_skEi ..
  cases hk : derived.integ with
  | none =>
    have haead : derived.encr.isAEAD = true := hinteg.mp hk
    refine ⟨_, decryptSK_checked P ?_ msg, rfl, decryptSK_isSome_aead haead hk hkey⟩
    rw [haead]
    nofun
  | some integ =>
    have haead : derived.encr.isAEAD = false :=
      Bool.eq_false_iff.mpr fun h => nomatch (hinteg.mpr h).symm.trans hk
    refine ⟨_, decryptSK_checked P ?_ msg, rfl, decryptSK_isSome_cbc haead hk hkey⟩
    rw [hk]
    exact fun _ => rfl

/-- A message that ends within the checksum, with the keys of a CBC suite. -/
theorem decryptSK_within_bounds_short :
    let k : IkeSAKey :=
      { dh := .modp2048, encr := .aesCbc128, integ := some .sha1_96, prf := .sha1 }
    let derived := expandKeys tagged k [] [] 0x11 0x21
    ⟨k.dh, k.encr, k.integ, k.prf⟩ ∈ supportedIKEProposals ∧
      ∃ r, Checked.decryptSK tagged derived (List.replicate 40 0) = some r ∧
        r = decryptSK tagged derived (List.replicate 40 0) ∧
        (r.isSome = true ↔ WellFormed tagged derived (List.replicate 40 0)) :=
  ⟨by decide, decryptSK_within_bounds tagged _ (by decide) [] [] 0x11 0x21 _⟩

end Epdg.Ikev2
