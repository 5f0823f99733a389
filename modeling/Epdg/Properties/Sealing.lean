import Epdg.Ikev2.Encrypt
import Epdg.System.Scenario

/-!
What the server seals, its peer opens. The length that goes into the IKE header before the
message is sealed is the length of the sealed message, and the SK payload says its own length
as long as sixteen bits hold it.
-/
namespace Epdg.Ikev2
open Bytes
variable {ciphertext : Bytes} {n : Nat}

structure IkeSAKey.CanSend (k : IkeSAKey) : Prop where
  integ : k.encr.isAEAD = false → k.integ.isSome = true
  key : k.skEr.length = k.encr.keyLen

structure IkeSAKey.ReceivesFrom (peer k : IkeSAKey) : Prop where
  encr : peer.encr = k.encr
  integ : peer.integ = k.integ
  skEi : peer.skEi = k.skEr
  skAi : peer.skAi = k.skAr

section Layout
variable {header rest : Bytes} {next : UInt8} {n : Nat}

theorem length_skHeader : (skHeader next n).length = 4 := rfl

theorem take_message (h : header.length = 28) :
    (header ++ skHeader next n ++ rest).take 32 = header ++ skHeader next n := by
  exact List.take_left' (by rw [List.length_append, h, length_skHeader])

theorem drop_message (h : header.length = 28) :
    (header ++ skHeader next n ++ rest).drop 32 = rest := by
  exact List.drop_left' (by rw [List.length_append, h, length_skHeader])

theorem byteAt_message (rest : Bytes) (next : UInt8) (n : Nat) (h : header.length = 28) (i : Nat) :
    (header ++ skHeader next n ++ rest).byteAt (28 + i) = (skHeader next n ++ rest).byteAt i := by
  rw [byteAt, byteAt, List.getD_eq_getElem?_getD, List.getD_eq_getElem?_getD, List.append_assoc,
    List.getElem?_append_right (by omega), h, Nat.add_sub_cancel_left]

theorem next_message (h : header.length = 28) :
    (header ++ skHeader next n ++ rest).getD 28 0 = next :=
  byteAt_message rest next n h 0

theorem length_field (h : header.length = 28) (hn : n < 2 ^ 16) :
    (header ++ skHeader next n ++ rest).uint16At 30 = n := by
  have h2 := byteAt_message rest next n h 2
  have h3 := byteAt_message rest next n h 3
  have hval : n.toUInt16.toNat = n := by
    simp
    omega
  rw [uint16At, h2, h3]
  exact (be16_putUint16 n.toUInt16).trans hval

end Layout

structure Sealed (P : Primitives) (peer : IkeSAKey) (next : UInt8) (plain header : Bytes)
    (n : Nat) (out : Bytes) : Prop where
  length : out.length = n
  header : out.take 28 = header
  payloadLength : n - 28 < 2 ^ 16 → out.uint16At 30 = n - 28
  opened : decryptSK P peer out = some (next, plain)

section
variable {P : Primitives} {E : Ciphers P} {k peer : IkeSAKey} {next : UInt8}
  {plain header : Bytes}

theorem Sealed.of_layout {body : Bytes} {skPayloadLen : Nat} (hheader : header.length = 28)
    (hlen : 4 + body.length = skPayloadLen)
    (hopen : decryptSK P peer (header ++ skHeader next skPayloadLen ++ body)
      = some (next, plain)) :
    Sealed P peer next plain header (28 + skPayloadLen)
      (header ++ skHeader next skPayloadLen ++ body) where
  length := by
    rw [List.length_append, List.length_append, hheader, length_skHeader]
    omega
  header := by simp_all
  payloadLength := by
    rw [Nat.add_sub_cancel_left]
    exact length_field hheader
  opened := hopen

theorem aeadCipher_of_keyLen {key : Bytes} {encr : EncrAlg} (haead : encr.isAEAD = true)
    (hkey : key.length = encr.keyLen) :
    ∃ aesKey salt, aeadCipher key encr.saltLen = some (aesKey, salt) ∧
      aesKeyOK aesKey = true ∧ salt.length = encr.saltLen ∧ encr.saltLen = 4 := by
  have hcases : encr.saltLen = 4 ∧ (key.length = 20 ∨ key.length = 36) := by
    cases encr with
    | aesCbc128 | aesCbc256 => cases haead
    | aesGcm16_128 => exact ⟨rfl, .inl hkey⟩
    | aesGcm16_256 => exact ⟨rfl, .inr hkey⟩
  obtain ⟨hsalt, hlen⟩ := hcases
  have hok : aesKeyOK (key.take (key.length - encr.saltLen)) = true := by
    simp only [aesKeyOK, List.length_take, hsalt]
    grind
  refine ⟨_, key.drop (key.length - encr.saltLen), ?_, hok, ?_, hsalt⟩
  · rw [aeadCipher, if_neg (by omega)]
    simp_all
  · grind

theorem decryptSK_aead {iv : Bytes} {aesKey salt : Bytes} (haead : peer.encr.isAEAD = true)
    (hcipher : aeadCipher peer.skEi peer.encr.saltLen = some (aesKey, salt))
    (hsalt : salt.length = peer.encr.saltLen) (hheader : header.length = 28)
    (hiv : iv.length = 12 - salt.length) (hct : 16 ≤ ciphertext.length)
    (hopen : P.gcmOpen aesKey (salt ++ iv) ciphertext (header ++ skHeader next n) = some plain) :
    decryptSK P peer (header ++ skHeader next n ++ (iv ++ ciphertext)) = some (next, plain) := by
  have hlen : ¬ (header ++ skHeader next n ++ (iv ++ ciphertext)).length
      < 32 + (12 - peer.encr.saltLen) + 16 := by
    simp only [List.length_append, hheader, length_skHeader, hiv, hsalt]
    omega
  rw [aeadCipher] at hcipher
  split at hcipher
  · cases hcipher
  rename_i hlong
  dsimp only at hcipher
  split at hcipher
  · cases hcipher
  rename_i hok
  injection hcipher with hpair
  injection hpair with haes hsalt'
  rw [decryptSK, if_pos haead, decryptSKAEAD]
  dsimp only
  rw [if_neg hlong, if_neg hok, if_neg hlen, take_message hheader, drop_message hheader,
    ← List.drop_drop, drop_message hheader, haes, hsalt', ← hsalt, ← hiv, List.take_left,
    List.drop_left, hopen]
  simp only [next_message hheader]

theorem sealed_aead (random : (n : Nat) → { b : Bytes // b.length = n }) (hk : k.CanSend)
    (hpeer : peer.ReceivesFrom k) (haead : k.encr.isAEAD = true) (hheader : header.length = 28) :
    ∃ n out, encryptedSKMessageLen k plain.length = some n ∧
      encryptSK E (fun n => some (random n)) k next plain header = some out ∧
      Sealed P peer next plain header n out := by
  obtain ⟨aesKey, salt, hcipher, hok, hsalt, hfour⟩ := aeadCipher_of_keyLen haead hk.key
  have hiv := (random (12 - salt.length)).2
  generalize hdraw : (random (12 - salt.length)).1 = iv at hiv
  have hlen : encryptedSKMessageLen k plain.length
      = some (28 + (4 + iv.length + plain.length + 16)) := by
    rw [encryptedSKMessageLen, if_pos haead, hcipher, hiv]
    rfl
  have hout : encryptSK E (fun n => some (random n)) k next plain header
      = some (header ++ skHeader next (4 + iv.length + plain.length + 16) ++
          (iv ++ E.gcmSeal aesKey (salt ++ iv) plain
            (header ++ skHeader next (4 + iv.length + plain.length + 16)))) := by
    rw [encryptSK, if_pos haead, encryptSKAEAD, hcipher]
    simp_all
  refine ⟨_, _, hlen, hout, Sealed.of_layout hheader ?_ ?_⟩
  · rw [List.length_append, E.length_gcmSeal]
    omega
  · rw [← hpeer.encr] at haead hcipher hsalt
    rw [← hpeer.skEi] at hcipher
    have hnonce : (salt ++ iv).length = 12 := by
      rw [List.length_append, hiv, hsalt, hpeer.encr, hfour]
    refine decryptSK_aead haead hcipher hsalt hheader hiv ?_
      (E.gcmOpen_gcmSeal plain _ hok hnonce)
    rw [E.length_gcmSeal]
    omega

theorem decryptSK_cbc {integ : IntegAlg} (haead : peer.encr.isAEAD = false)
    (hinteg : peer.integ = some integ) (hheader : header.length = 28)
    (hopen : EncrAlg.decrypt P peer.skEi ciphertext = some plain) :
    decryptSK P peer (header ++ skHeader next n ++ (ciphertext ++
      (P.hmac integ.hash peer.skAi (header ++ skHeader next n ++ ciphertext)).take
        integ.outputLen)) = some (next, plain) := by
  rw [← List.append_assoc]
  generalize hout : header ++ skHeader next n ++ ciphertext = out
  generalize hsum : (P.hmac integ.hash peer.skAi out).take integ.outputLen = sum
  have hsumLen : sum.length = integ.outputLen := by
    rw [← hsum, List.length_take, P.hmac_length]
    cases integ <;> rfl
  have hlen : ¬ (out ++ sum).length < 28 + 4 + integ.outputLen := by
    simp only [← hout, List.length_append, hheader, length_skHeader, hsumLen]
    omega
  have hbody : (out ++ sum).length - integ.outputLen = out.length := by simp_all
  have hnext : (out ++ sum).getD 28 0 = next := by
    rw [← hout, List.append_assoc]
    exact next_message hheader
  rw [decryptSK, haead, if_neg Bool.false_ne_true, hinteg]
  dsimp only
  rw [if_neg hlen, hbody, List.take_left, List.drop_left, hsum, if_neg (not_not_intro rfl), hnext,
    ← hout, drop_message hheader, hopen]
  rfl

section
variable (random : (n : Nat) → { b : Bytes // b.length = n }) (hk : k.CanSend)
  (hpeer : peer.ReceivesFrom k)
include random hk hpeer

theorem sealed_cbc (haead : k.encr.isAEAD = false) (hheader : header.length = 28) :
    ∃ n out, encryptedSKMessageLen k plain.length = some n ∧
      encryptSK E (fun n => some (random n)) k next plain header = some out ∧
      Sealed P peer next plain header n out := by
  obtain ⟨integ, hinteg⟩ := Option.isSome_iff_exists.mp (hk.integ haead)
  have hok : aesKeyOK k.skEr = true := by
    have hkey := hk.key
    cases hencr : k.encr with
    | aesCbc128 | aesCbc256 =>
      rw [hencr] at hkey
      simp [aesKeyOK, hkey, EncrAlg.keyLen, EncrAlg.keyBits, EncrAlg.saltLen]
    | aesGcm16_128 | aesGcm16_256 =>
      rw [hencr] at haead
      cases haead
  have hiv := (random 16).2
  generalize hdraw : (random 16).1 = iv at hiv
  generalize hct : iv ++ E.cbcEncrypt k.skEr iv (padded plain) = ciphertext
  have hctLen : ciphertext.length = 16 + plain.length + padLen plain.length := by
    rw [← hct, List.length_append, hiv, E.length_cbcEncrypt _ _ (length_padded_mod plain),
      length_padded, Nat.add_assoc]
  have hlen : encryptedSKMessageLen k plain.length
      = some (28 + (4 + ciphertext.length + integ.outputLen)) := by
    rw [encryptedSKMessageLen, haead, if_neg Bool.false_ne_true, hinteg, hctLen]
    rfl
  have hout : encryptSK E (fun n => some (random n)) k next plain header
      = some (header ++ skHeader next (4 + ciphertext.length + integ.outputLen) ++ (ciphertext ++
          (P.hmac integ.hash k.skAr (header ++
            skHeader next (4 + ciphertext.length + integ.outputLen) ++ ciphertext)).take
              integ.outputLen)) := by
    rw [encryptSK, haead, if_neg Bool.false_ne_true, hinteg]
    simp only [EncrAlg.encrypt, hok, not_true_eq_false, if_false, hdraw, hct, Option.map_some,
      List.append_assoc]
  refine ⟨_, _, hlen, hout, Sealed.of_layout hheader ?_ ?_⟩
  · rw [List.length_append, List.length_take, P.hmac_length]
    cases integ <;> simp [IntegAlg.outputLen, IntegAlg.hash, Hash.size] <;> omega
  · rw [← hpeer.skAi]
    refine decryptSK_cbc ?_ ?_ hheader ?_
    · rw [hpeer.encr]
      exact haead
    · rw [hpeer.integ]
      exact hinteg
    · rw [hpeer.skEi, ← hct]
      exact decrypt_encrypt plain hok hiv

theorem exists_sealed (next : UInt8) (plain : Bytes) (hheader : header.length = 28) :
    ∃ n out, encryptedSKMessageLen k plain.length = some n ∧
      encryptSK E (fun n => some (random n)) k next plain header = some out ∧
      Sealed P peer next plain header n out := by
  cases haead : k.encr.isAEAD with
  | true => exact sealed_aead random hk hpeer haead hheader
  | false => exact sealed_cbc random hk hpeer haead hheader

end

/-- Every suite seals a message of the announced length, which says the length of its SK payload
and opens, for a peer with the same keys, to the inner type and the plaintext. -/
theorem decryptSK_encryptSK (E : Ciphers P) (random : (n : Nat) → { b : Bytes // b.length = n })
    (hk : k.CanSend) (hpeer : peer.ReceivesFrom k) (next : UInt8) (plain : Bytes)
    (hheader : header.length = 28) :
    ∃ n out, encryptedSKMessageLen k plain.length = some n ∧
      encryptSK E (fun n => some (random n)) k next plain header = some out ∧
      out.length = n ∧ (n - 28 < 2 ^ 16 → out.uint16At 30 = n - 28) ∧
      decryptSK P peer out = some (next, plain) := by
  obtain ⟨n, out, hlen, hout, h⟩ := exists_sealed (E := E) random hk hpeer next plain hheader
  exact ⟨n, out, hlen, hout, h.length, h.payloadLength, h.opened⟩

theorem encryptedMessage_opens {sa : IkeSA} {exchType flags : UInt8} {msgID : UInt32}
    (random : (n : Nat) → { b : Bytes // b.length = n }) (hk : sa.saKey.CanSend)
    (hpeer : peer.ReceivesFrom sa.saKey) (next : UInt8) (plain : Bytes) :
    ∃ out, encryptedMessage E (fun n => some (random n)) sa exchType flags msgID next plain
        = some out ∧
      (out.length < 2 ^ 32 → (be32 (out.drop 24)).toNat = out.length) ∧
      decryptSK P peer out = some (next, plain) := by
  have hheader : ∀ n, (buildIKEHeaderBytes sa.spiI sa.spiR exchType flags msgID n).length = 28 :=
    fun _ => rfl
  obtain ⟨n, _, hlen, -, -⟩ := exists_sealed (E := E) random hk hpeer next plain (hheader 0)
  obtain ⟨n', out, hlen', hout, h⟩ :=
    exists_sealed (E := E) random hk hpeer next plain (hheader n)
  obtain rfl : n = n' := Option.some.inj (hlen.symm.trans hlen')
  refine ⟨out, ?_, fun hfits => ?_, h.opened⟩
  · rw [encryptedMessage, hlen]
    exact hout
  · have hfield : be32 (out.drop 24) = n.toUInt32 := by
      have hfour : (out.drop 24).take 4 = (putUint32 n.toUInt32).take 4 := by
        rw [List.take_drop, h.header]
        rfl
      have hvalue := be32_putUint32 n.toUInt32 []
      rw [List.append_nil] at hvalue
      rw [be32, hfour]
      exact hvalue
    rw [hfield, ← h.length]
    simp_all

end

end Epdg.Ikev2

namespace Epdg.Scenario
open Ikev2

def ciphers : Ciphers prims where
  cbcEncrypt _ _ data := data
  gcmSeal _ _ plain _ := plain ++ List.replicate 16 0
  length_cbcEncrypt _ _ _ _ := rfl
  cbcDecrypt_cbcEncrypt _ _ _ := rfl
  length_gcmSeal _ _ _ _ := by
    rw [List.length_append, List.length_replicate]
  gcmOpen_gcmSeal plain aad _ _ := by
    simp [prims]

def cbcKeys : IkeSAKey :=
  { dh := .ecp256, encr := .aesCbc256, integ := some .sha256_128, prf := .sha256
    skEi := List.replicate 32 7, skEr := List.replicate 32 7
    skAi := List.replicate 32 9, skAr := List.replicate 32 9 }

theorem decryptSK_encryptSK_cbc :
    ∃ n out, encryptedSKMessageLen cbcKeys 5 = some n ∧
      encryptSK ciphers (fun n => some ⟨List.replicate n 0, List.length_replicate⟩)
        cbcKeys typeN [1, 2, 3, 4, 5] (List.replicate 28 0) = some out ∧
      out.length = n ∧ (n - 28 < 2 ^ 16 → out.uint16At 30 = n - 28) ∧
      decryptSK prims cbcKeys out = some (typeN, [1, 2, 3, 4, 5]) :=
  decryptSK_encryptSK ciphers (fun n => ⟨List.replicate n 0, List.length_replicate⟩)
    ⟨fun _ => rfl, rfl⟩ ⟨rfl, rfl, rfl, rfl⟩ typeN [1, 2, 3, 4, 5] rfl

example : encryptedSKMessageLen cbcKeys 5 = some 80 := rfl

end Epdg.Scenario
