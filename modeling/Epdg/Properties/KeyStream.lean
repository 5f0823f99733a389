import Epdg.Properties.RekeyDerivation

/-!
`prfPlus` as the stream of RFC 7296, section 2.13, and the keys cut off it.

The counter is one octet, so the stream has 255 blocks; up to there a longer request only adds to a
shorter one.
-/
namespace Epdg.Ikev2
open Bytes
variable {h : Bytes → Bytes} {size : Nat}

theorem take_prfBlocks {seed : Bytes} (hsize : ∀ b, (h b).length = size) {m n length : Nat}
    (hm : length ≤ m * size) (hmn : m ≤ n) :
    (prfBlocks h seed n).take length = (prfBlocks h seed m).take length := by
  obtain ⟨rest, hrest⟩ := @prfBlocks_front h seed _ _ hmn
  rw [← hrest, List.take_append_of_le_length]
  rw [length_prfBlocks hsize]
  exact hm

theorem prfPlus_eq_take (seed : Bytes) (hsize : ∀ b, (h b).length = size) (hpos : 0 < size)
    {blocks length : Nat} (hlen : length ≤ blocks * size) :
    prfPlus h seed length = (prfBlocks h seed blocks).take length := by
  obtain ⟨n, hplus, hn, -⟩ := prfPlus_blocks seed hsize hpos length
  rw [hplus]
  rcases Nat.le_total n blocks with hle | hle
  · exact (take_prfBlocks hsize hn hle).symm
  · exact take_prfBlocks hsize hlen hle

theorem length_prfPlus (seed : Bytes) (hsize : ∀ b, (h b).length = size) (hpos : 0 < size)
    (length : Nat) : (prfPlus h seed length).length = length := by
  have hlen : length ≤ length * size := Nat.le_mul_of_pos_right length hpos
  rw [prfPlus_eq_take seed hsize hpos hlen, List.length_take, length_prfBlocks hsize,
    Nat.min_eq_left hlen]

section Keys
variable (P : Primitives)

theorem takeKeys_prfPlus (alg : PrfAlg) (key seed : Bytes) (lens : List Nat) :
    let keys := takeKeys lens (prfPlus (prf P alg key) seed lens.sum)
    keys.flatten = prfPlus (prf P alg key) seed lens.sum ∧ keys.map List.length = lens := by
  have hsize : ∀ b, (prf P alg key b).length = alg.keyLen := P.hmac_length alg.hash key
  have hpos := alg.keyLen_pos
  have hlen := length_prfPlus seed hsize (by omega) lens.sum
  obtain ⟨hflat, hlens⟩ := takeKeys_spec lens _ (Nat.le_of_eq hlen.symm)
  grind

def ChildKeys.keys (c : ChildKeys) : List Bytes := [c.encrIn, c.integIn, c.encrOut, c.integOut]

theorem childKeysFromSeed_keys (k : IkeSAKey) (seed : Bytes) (encrKeyLen integKeyLen : Nat) :
    let c := childKeysFromSeed P k seed encrKeyLen integKeyLen
    c.keys.flatten = prfPlus (prf P k.prf k.skD) seed (2 * (encrKeyLen + integKeyLen)) ∧
      c.keys.map List.length = [encrKeyLen, integKeyLen, encrKeyLen, integKeyLen] := by
  have hsum : [encrKeyLen, integKeyLen, encrKeyLen, integKeyLen].sum =
      2 * (encrKeyLen + integKeyLen) := by
    grind
  have h := takeKeys_prfPlus P k.prf k.skD seed [encrKeyLen, integKeyLen, encrKeyLen, integKeyLen]
  rw [hsum] at h
  exact h

/-- `prfPlus` is the stream of the RFC up to its 255 blocks, and a shorter request is the beginning
of a longer one; the keys of `deriveKeys` put together are that stream, each of the length of its
algorithm; an empty DH secret makes no difference to the keys of a CHILD SA, which are cut off the
stream too. -/
theorem prfPlus_stream {h : Bytes → Bytes} {size : Nat} (hsize : ∀ b, (h b).length = size)
    (hpos : 0 < size) (seed : Bytes) (P : Primitives) (k : IkeSAKey)
    (nonces dhShared nonceI nonceR : Bytes) (spiI spiR : UInt64) (encrKeyLen integKeyLen : Nat) :
    (∀ n m, n ≤ m → m ≤ 255 * size → prfPlus h seed n <+: prfPlus h seed m) ∧
      (∀ n, n ≤ 255 * size → prfPlus h seed n = (prfBlocks h seed 255).take n) ∧
      (deriveKeys P k nonces dhShared spiI spiR).keys.flatten =
        prfPlus (prf P k.prf (prf P k.prf nonces dhShared))
          (nonces ++ putUint64 spiI ++ putUint64 spiR) k.lengths.sum ∧
      (deriveKeys P k nonces dhShared spiI spiR).keys.map List.length = k.lengths ∧
      deriveChildSAKeysPFS P k [] nonceI nonceR encrKeyLen integKeyLen =
        deriveChildSAKeys P k nonceI nonceR encrKeyLen integKeyLen ∧
      (let c := deriveChildSAKeys P k nonceI nonceR encrKeyLen integKeyLen
       c.keys.flatten =
          prfPlus (prf P k.prf k.skD) (nonceI ++ nonceR) (2 * (encrKeyLen + integKeyLen)) ∧
        c.keys.map List.length = [encrKeyLen, integKeyLen, encrKeyLen, integKeyLen]) := by
  have hkeys := takeKeys_prfPlus P k.prf (prf P k.prf nonces dhShared)
    (nonces ++ putUint64 spiI ++ putUint64 spiR) k.lengths
  have htake : ∀ n, n ≤ 255 * size → prfPlus h seed n = (prfBlocks h seed 255).take n :=
    fun n hn => prfPlus_eq_take seed hsize hpos hn
  refine ⟨?_, htake, ?_, ?_, ?_, childKeysFromSeed_keys P k _ _ _⟩
  · intro n m hnm hm
    rw [htake n (Nat.le_trans hnm hm), htake m hm]
    exact List.take_prefix_take_left hnm
  · rw [deriveKeys, expandKeys_keys]
    exact hkeys.1
  · rw [deriveKeys, expandKeys_keys]
    exact hkeys.2
  · rw [deriveChildSAKeysPFS, deriveChildSAKeys, List.nil_append]

end Keys

/-- A prf with one byte of output, and two bytes of the stream against three. -/
theorem prfPlus_stream_single :
    let h : Bytes → Bytes := fun b => [b.length.toUInt8]
    (∀ b, (h b).length = 1) ∧ 0 < 1 ∧ prfPlus h [7] 2 <+: prfPlus h [7] 3 := by
  intro h
  have hsize : ∀ b, (h b).length = 1 := fun _ => rfl
  obtain ⟨hfront, -⟩ := prfPlus_stream hsize Nat.one_pos [7] tagged
    { dh := .ecp256, encr := .aesGcm16_256, integ := none, prf := .sha256 } [] [] [] [] 0 0 0 0
  exact ⟨hsize, Nat.one_pos, hfront 2 3 (by decide) (by decide)⟩

end Epdg.Ikev2
