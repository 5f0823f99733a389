import Epdg.Ikev2.Proposal

/-!
The keys of a rekeyed IKE SA against RFC 7296, section 2.18.

SKEYSEED belongs to the old SA and is computed with its PRF; the seven keys are cut off prf+ with
the PRF of the new SA. The code cuts the keys as the RFC says and takes the new PRF for both.
-/
namespace Epdg.Ikev2
open Bytes
variable {size : Nat}

section PrfPlus
variable (h : Bytes → Bytes) (seed : Bytes)

def prfBlock : Nat → Bytes
  | 0 => []
  | n + 1 => h (prfBlock n ++ seed ++ [(n + 1).toUInt8])

def prfBlocks : Nat → Bytes
  | 0 => []
  | n + 1 => prfBlocks n ++ prfBlock h seed (n + 1)

variable {h seed}

theorem length_prfBlocks (hsize : ∀ b, (h b).length = size) (n : Nat) :
    (prfBlocks h seed n).length = n * size := by
  induction n with
  | zero => rw [prfBlocks, List.length_nil, Nat.zero_mul]
  | succ n ih => rw [prfBlocks, List.length_append, ih, prfBlock, hsize, Nat.succ_mul]

theorem prfBlocks_front {m n : Nat} (hmn : m ≤ n) : prfBlocks h seed m <+: prfBlocks h seed n := by
  induction hmn with
  | refl => exact List.prefix_refl _
  | step _ ih => exact ih.trans (List.prefix_append _ _)

variable (h seed) in
theorem prfPlusLoop_blocks (length fuel i : Nat) :
    ∃ n, prfPlusLoop h seed length fuel (i + 1) (prfBlock h seed i) (prfBlocks h seed i) =
        prfBlocks h seed n ∧
      (length ≤ (prfBlocks h seed n).length ∨ n = i + fuel) ∧
      (n = i ∨ ∃ m, n = m + 1 ∧ (prfBlocks h seed m).length < length) := by
  induction fuel generalizing i with
  | zero => exact ⟨i, rfl, .inr rfl, .inl rfl⟩
  | succ fuel ih =>
    rw [prfPlusLoop]
    by_cases hlen : (prfBlocks h seed i).length < length
    · rw [if_pos hlen]
      obtain ⟨n, hrun, hdone, hlast⟩ := ih (i + 1)
      refine ⟨n, hrun, ?_, .inr ?_⟩
      · grind
      · grind
    · grind

variable (seed) in
theorem prfPlus_blocks (hsize : ∀ b, (h b).length = size) (hpos : 0 < size) (length : Nat) :
    ∃ n, prfPlus h seed length = (prfBlocks h seed n).take length ∧ length ≤ n * size ∧
      n * size < length + size := by
  obtain ⟨n, hrun, hdone, hlast⟩ := prfPlusLoop_blocks h seed length length 0
  refine ⟨n, ?_, ?_, ?_⟩
  · rw [prfPlus, ← hrun]
    rfl
  · rw [length_prfBlocks hsize] at hdone
    rcases hdone with hle | rfl
    · exact hle
    · rw [Nat.zero_add]
      exact Nat.le_mul_of_pos_right length hpos
  · rcases hlast with rfl | ⟨m, rfl, hm⟩
    · omega
    rw [length_prfBlocks hsize] at hm
    grind

end PrfPlus

theorem takeKeys_spec (lens : List Nat) (keymat : Bytes) (hlen : lens.sum ≤ keymat.length) :
    (takeKeys lens keymat).flatten = keymat.take lens.sum ∧
      (takeKeys lens keymat).map List.length = lens := by
  induction lens generalizing keymat with
  | nil => exact ⟨rfl, rfl⟩
  | cons n ns ih =>
    rw [List.sum_cons] at hlen
    obtain ⟨hflat, hlens⟩ := ih (keymat.drop n) (by rw [List.length_drop]; omega)
    constructor
    · rw [takeKeys, List.flatten_cons, hflat, List.sum_cons, List.take_add]
    · rw [takeKeys, List.map_cons, hlens, List.length_take, Nat.min_eq_left (by omega)]

def IkeSAKey.keys (k : IkeSAKey) : List Bytes :=
  [k.skD, k.skAi, k.skAr, k.skEi, k.skEr, k.skPi, k.skPr]

def IkeSAKey.lengths (k : IkeSAKey) : List Nat :=
  [k.prf.keyLen, k.integKeyLen, k.integKeyLen, k.encr.keyLen, k.encr.keyLen, k.prf.keyLen,
    k.prf.keyLen]

structure CutFrom (P : Primitives) (skeyseed seed : Bytes) (k : IkeSAKey) : Prop where
  lengths : k.keys.map List.length = k.lengths
  slices : ∃ n, n ≤ 255 ∧ k.keys.flatten <+: prfBlocks (prf P k.prf skeyseed) seed n

section Expand
variable (P : Primitives)

theorem PrfAlg.keyLen_pos (alg : PrfAlg) : 20 ≤ alg.keyLen := by cases alg <;> decide

theorem IkeSAKey.lengths_sum_le (k : IkeSAKey) : k.lengths.sum ≤ 3 * k.prf.keyLen + 200 := by
  have hinteg : k.integKeyLen ≤ 64 := by
    rw [IkeSAKey.integKeyLen]
    cases k.integ with
    | none => exact Nat.zero_le 64
    | some a => cases a <;> decide
  have hencr : k.encr.keyLen ≤ 36 := by cases k.encr <;> decide
  simp only [IkeSAKey.lengths, List.sum_cons, List.sum_nil]
  omega

section
variable (k : IkeSAKey) (skeyseed nonces : Bytes) (spiI spiR : UInt64)
include k skeyseed nonces spiI spiR

theorem expandKeys_keys :
    (expandKeys P k skeyseed nonces spiI spiR).keys = takeKeys k.lengths
      (prfPlus (prf P k.prf skeyseed) (nonces ++ putUint64 spiI ++ putUint64 spiR)
        k.lengths.sum) := rfl

theorem expandKeys_algorithms : let k' := expandKeys P k skeyseed nonces spiI spiR
    k'.dh = k.dh ∧ k'.encr = k.encr ∧ k'.integ = k.integ ∧ k'.prf = k.prf :=
  ⟨rfl, rfl, rfl, rfl⟩

theorem expandKeys_cut :
    CutFrom P skeyseed (nonces ++ putUint64 spiI ++ putUint64 spiR)
      (expandKeys P k skeyseed nonces spiI spiR) := by
  have hsize : ∀ b, (prf P k.prf skeyseed b).length = k.prf.keyLen := fun b =>
    P.hmac_length _ _ _
  have h20 := k.prf.keyLen_pos
  obtain ⟨n, hplus, hle, hlt⟩ := prfPlus_blocks (nonces ++ putUint64 spiI ++ putUint64 spiR)
    hsize (by omega) k.lengths.sum
  have hlen : k.lengths.sum ≤ (prfPlus (prf P k.prf skeyseed)
      (nonces ++ putUint64 spiI ++ putUint64 spiR) k.lengths.sum).length := by
    rw [hplus, List.length_take, length_prfBlocks hsize]
    omega
  obtain ⟨hflat, hlens⟩ := takeKeys_spec _ _ hlen
  refine ⟨?_, n, ?_, ?_⟩
  · rw [expandKeys_keys]
    exact hlens
  · -- the keys take fewer than fifteen blocks, whatever the algorithms are
    have hsum := k.lengths_sum_le
    refine Nat.le_of_not_lt fun hn => ?_
    have hmul : 256 * k.prf.keyLen ≤ n * k.prf.keyLen := Nat.mul_le_mul_right _ hn
    omega
  · rw [expandKeys_keys, hflat, hplus]
    exact (List.take_prefix _ _).trans (List.take_prefix _ _)

end

variable {P} {s s' seed : Bytes} {k : IkeSAKey}

theorem CutFrom.skD_eq (h : CutFrom P s seed k) : k.skD = prf P k.prf s (seed ++ [1]) := by
  obtain ⟨n, -, hfront⟩ := h.slices
  have hlen : k.skD.length = k.prf.keyLen := (List.cons.inj h.lengths).1
  have hpos := k.prf.keyLen_pos
  have hD : k.skD <+: prfBlocks (prf P k.prf s) seed n := by
    rw [IkeSAKey.keys, List.flatten_cons] at hfront
    exact (List.prefix_append _ _).trans hfront
  have hn : 0 < n := by
    refine Nat.pos_of_ne_zero fun h0 => ?_
    rw [h0] at hD
    have hle := hD.length_le
    rw [prfBlocks, List.length_nil] at hle
    omega
  have hT : prfBlock (prf P k.prf s) seed 1 <+: prfBlocks (prf P k.prf s) seed n :=
    prfBlocks_front hn
  have hTlen : (prfBlock (prf P k.prf s) seed 1).length = k.prf.keyLen := P.hmac_length _ _ _
  exact (List.prefix_of_prefix_length_le hD hT (by omega)).eq_of_length (by omega)

end Expand

structure RekeyedPerRFC (P : Primitives) (oldKey : IkeSAKey) (newProp : NegotiatedProposal)
    (dhShared nonceI nonceR : Bytes) (spiI spiR : UInt64) (k : IkeSAKey) : Prop where
  algorithms : k.dh = newProp.dh ∧ k.encr = newProp.encr ∧ k.integ = newProp.integ ∧
    k.prf = newProp.prf
  keys : CutFrom P (prf P oldKey.prf oldKey.skD (dhShared ++ nonceI ++ nonceR))
    (nonceI ++ nonceR ++ putUint64 spiI ++ putUint64 spiR) k

section Rekey
variable {oldKey : IkeSAKey} {newProp : NegotiatedProposal}

theorem deriveIKERekeyKeys_cut (P : Primitives) (oldKey : IkeSAKey) (newProp : NegotiatedProposal)
    (dhShared nonceI nonceR : Bytes) (spiI spiR : UInt64) :
    CutFrom P (prf P newProp.prf oldKey.skD (dhShared ++ nonceI ++ nonceR))
      (nonceI ++ nonceR ++ putUint64 spiI ++ putUint64 spiR)
      (deriveIKERekeyKeys P oldKey newProp dhShared nonceI nonceR spiI spiR) :=
  expandKeys_cut P _ _ _ _ _

theorem RekeyedPerRFC.same_block {P : Primitives} {dhShared nonceI nonceR : Bytes}
    {spiI spiR : UInt64}
    (h : RekeyedPerRFC P oldKey newProp dhShared nonceI nonceR spiI spiR
      (deriveIKERekeyKeys P oldKey newProp dhShared nonceI nonceR spiI spiR)) :
    prf P newProp.prf (prf P oldKey.prf oldKey.skD (dhShared ++ nonceI ++ nonceR))
        (nonceI ++ nonceR ++ putUint64 spiI ++ putUint64 spiR ++ [1]) =
      prf P newProp.prf (prf P newProp.prf oldKey.skD (dhShared ++ nonceI ++ nonceR))
        (nonceI ++ nonceR ++ putUint64 spiI ++ putUint64 spiR ++ [1]) :=
  h.keys.skD_eq.symm.trans
    (deriveIKERekeyKeys_cut P oldKey newProp dhShared nonceI nonceR spiI spiR).skD_eq

def Hash.tag : Hash → UInt8
  | sha1 => 1
  | sha256 => 2
  | sha512 => 3

def tagged : Primitives where
  hmac h key _ := (h.tag :: key ++ List.replicate 64 0).take h.size
  hmac_length h _ _ := h.length_take_size (by simp)
  sha1 b := b
  cbcDecrypt _ _ c := c
  gcmOpen _ _ c _ := some c
  dhPublicKey _ priv := priv
  dhSharedKey _ priv peer := some (priv ++ peer)

theorem tagged_nested (h h' : Hash) (key data data' : Bytes) :
    (tagged.hmac h (tagged.hmac h' key data) data')[1]? = some h'.tag := by
  cases h <;> cases h' <;> simp [tagged, Hash.size, List.take_succ_cons]

theorem PrfAlg.eq_of_tag {a b : PrfAlg} (h : a.hash.tag = b.hash.tag) : a = b := by
  cases a <;> cases b <;> first | rfl | exact absurd h (by decide)

end Rekey

/-- Whatever the keyed functions, the DH secret, the nonces and the SPIs are, a rekey derives the
keys of the RFC: this holds exactly when the old and the new SA have the same PRF. -/
theorem rekey_keys_iff (oldKey : IkeSAKey) (newProp : NegotiatedProposal) :
    (∀ P dhShared nonceI nonceR spiI spiR,
      RekeyedPerRFC P oldKey newProp dhShared nonceI nonceR spiI spiR
        (deriveIKERekeyKeys P oldKey newProp dhShared nonceI nonceR spiI spiR)) ↔
      newProp.prf = oldKey.prf := by
  constructor
  · intro h
    have hblock := (h tagged [] [] [] 0 0).same_block
    have hbyte := congrArg (fun b : Bytes => b[1]?) hblock
    simp only [prf, tagged_nested, Option.some.injEq] at hbyte
    exact (PrfAlg.eq_of_tag hbyte).symm
  · intro hprf P dhShared nonceI nonceR spiI spiR
    refine ⟨expandKeys_algorithms P _ _ _ _ _, ?_⟩
    rw [← hprf]
    exact deriveIKERekeyKeys_cut P oldKey newProp dhShared nonceI nonceR spiI spiR

/-- An SA with HMAC-SHA-256 is rekeyed to a suite with HMAC-SHA-512: SKEYSEED is computed with the
new PRF, and the keys are not those of the RFC. -/
theorem rekey_to_other_prf :
    let oldKey : IkeSAKey :=
      { dh := .ecp256, encr := .aesGcm16_256, integ := none, prf := .sha256
        skD := List.replicate 32 7 }
    let newProp : NegotiatedProposal := ⟨.ecp384, .aesCbc256, some .sha512_256, .sha512⟩
    ¬ RekeyedPerRFC tagged oldKey newProp [1] [2] [3] 0x11 0x21
      (deriveIKERekeyKeys tagged oldKey newProp [1] [2] [3] 0x11 0x21) := by
  intro oldKey newProp h
  exact absurd (congrArg (fun b : Bytes => b[1]?) h.same_block) (by decide)

end Epdg.Ikev2
