import Epdg.Ikev2.Sa

/-!
The sealing of SK payloads (`encryptedSKMessageLen`, `encryptSK` and `encryptSKAEAD` in
`internal/ikev2/crypto.go`) and the messages that carry them.

AES is a parameter like the other primitives; of each mode it is assumed that decryption undoes
encryption. Reading `rand.Reader` fills a buffer of the length asked for, or fails.
-/
namespace Epdg.Ikev2
open Bytes

structure Ciphers (P : Primitives) where
  /-- CBC encryption: key, IV, whole blocks. -/
  cbcEncrypt : Bytes → Bytes → Bytes → Bytes
  /-- GCM sealing: key, nonce, plaintext, additional data. -/
  gcmSeal : Bytes → Bytes → Bytes → Bytes → Bytes
  length_cbcEncrypt : ∀ key iv {data}, data.length % 16 = 0 →
    (cbcEncrypt key iv data).length = data.length
  cbcDecrypt_cbcEncrypt : ∀ {key iv data}, aesKeyOK key → iv.length = 16 →
    data.length % 16 = 0 → P.cbcDecrypt key iv (cbcEncrypt key iv data) = data
  length_gcmSeal : ∀ key nonce plain aad, (gcmSeal key nonce plain aad).length = plain.length + 16
  gcmOpen_gcmSeal : ∀ {key nonce} plain aad, aesKeyOK key → nonce.length = 12 →
    P.gcmOpen key nonce (gcmSeal key nonce plain aad) aad = some plain

abbrev Random := (n : Nat) → Option { b : Bytes // b.length = n }

def padLen (plainLen : Nat) : Nat := 16 - plainLen % 16

def padded (plain : Bytes) : Bytes :=
  plain ++ List.replicate (padLen plain.length - 1) 0 ++ [(padLen plain.length - 1).toUInt8]

def aeadCipher (key : Bytes) (saltLen : Nat) : Option (Bytes × Bytes) :=
  if key.length ≤ saltLen then none
  else
    let aesKey := key.take (key.length - saltLen)
    if ¬ aesKeyOK aesKey then none else some (aesKey, key.drop (key.length - saltLen))

def skHeader (innerNextPayload : UInt8) (skPayloadLen : Nat) : Bytes :=
  [innerNextPayload, 0] ++ putUint16 skPayloadLen.toUInt16

def encryptedSKMessageLen (k : IkeSAKey) (plainLen : Nat) : Option Nat :=
  if k.encr.isAEAD then
    (aeadCipher k.skEr k.encr.saltLen).map fun (_, salt) =>
      28 + (4 + (12 - salt.length) + plainLen + 16)
  else
    k.integ.map fun integ => 28 + (4 + (16 + plainLen + padLen plainLen) + integ.outputLen)

section
variable {P : Primitives} (E : Ciphers P) (random : Random)

def EncrAlg.encrypt (key plain : Bytes) : Option Bytes :=
  if ¬ aesKeyOK key then none
  else
    match random 16 with
    | none => none
    | some ⟨iv, _⟩ => some (iv ++ E.cbcEncrypt key iv (padded plain))

def encryptSKAEAD (k : IkeSAKey) (innerNextPayload : UInt8) (plain header : Bytes) :
    Option Bytes :=
  match aeadCipher k.skEr k.encr.saltLen with
  | none => none
  | some (aesKey, salt) =>
    match random (12 - salt.length) with
    | none => none
    | some ⟨explicitIV, _⟩ =>
      let skPayloadLen := 4 + explicitIV.length + plain.length + 16
      let aad := header ++ skHeader innerNextPayload skPayloadLen
      some (aad ++ explicitIV ++ E.gcmSeal aesKey (salt ++ explicitIV) plain aad)

def encryptSK (k : IkeSAKey) (innerNextPayload : UInt8) (plain header : Bytes) : Option Bytes :=
  if k.encr.isAEAD then encryptSKAEAD E random k innerNextPayload plain header
  else
    match k.integ with
    | none => none
    | some integ =>
      (EncrAlg.encrypt E random k.skEr plain).map fun ciphertext =>
        let skPayloadLen := 4 + ciphertext.length + integ.outputLen
        let out := header ++ skHeader innerNextPayload skPayloadLen ++ ciphertext
        out ++ (P.hmac integ.hash k.skAr out).take integ.outputLen

def buildIKEHeaderBytes (spiI spiR : UInt64) (exchType flags : UInt8) (msgID : UInt32)
    (totalLen : Nat) : Bytes :=
  putUint64 spiI ++ putUint64 spiR ++ [46, 0x20, exchType, flags] ++ putUint32 msgID ++
    putUint32 totalLen.toUInt32

def encryptedMessage (sa : IkeSA) (exchType flags : UInt8) (msgID : UInt32)
    (innerNextPayload : UInt8) (plain : Bytes) : Option Bytes :=
  match encryptedSKMessageLen sa.saKey plain.length with
  | none => none
  | some totalLen =>
    encryptSK E random sa.saKey innerNextPayload plain
      (buildIKEHeaderBytes sa.spiI sa.spiR exchType flags msgID totalLen)

end

/-! The padding. -/

theorem padLen_pos (n : Nat) : 0 < padLen n := by
  have := Nat.mod_lt n (show 0 < 16 by decide)
  unfold padLen
  omega

theorem padLen_le (n : Nat) : padLen n ≤ 16 := Nat.sub_le _ _

theorem length_padded (plain : Bytes) :
    (padded plain).length = plain.length + padLen plain.length := by
  have := padLen_pos plain.length
  simp only [padded, List.length_append, List.length_replicate, List.length_singleton]
  omega

theorem length_padded_mod (plain : Bytes) : (padded plain).length % 16 = 0 := by
  rw [length_padded]
  unfold padLen
  omega

theorem getLast?_padded (plain : Bytes) :
    (padded plain).getLast? = some (padLen plain.length - 1).toUInt8 := by
  rw [padded, List.getLast?_append]
  rfl

theorem take_padded (plain : Bytes) :
    (padded plain).take ((padded plain).length - ((padLen plain.length - 1).toUInt8.toNat + 1))
      = plain := by
  have hpos := padLen_pos plain.length
  have hle := padLen_le plain.length
  have hbyte : (padLen plain.length - 1).toUInt8.toNat = padLen plain.length - 1 := by
    simp
    omega
  rw [length_padded, hbyte, Nat.sub_add_cancel hpos, Nat.add_sub_cancel, padded,
    List.append_assoc]
  exact List.take_left

section
variable {P : Primitives} {E : Ciphers P}

theorem decrypt_encrypt {key iv : Bytes} (plain : Bytes) (hkey : aesKeyOK key)
    (hiv : iv.length = 16) :
    EncrAlg.decrypt P key (iv ++ E.cbcEncrypt key iv (padded plain)) = some plain := by
  have hmod := length_padded_mod plain
  have hlen : (iv ++ E.cbcEncrypt key iv (padded plain)).length = 16 + (padded plain).length := by
    rw [List.length_append, hiv, E.length_cbcEncrypt key iv hmod]
  have hshort : ¬ (16 + (padded plain).length < 16 ∨ (16 + (padded plain).length) % 16 ≠ 0) := by
    omega
  have hpad : ¬ (padLen plain.length - 1).toUInt8.toNat + 1 > (padded plain).length := by
    have hbyte : (padLen plain.length - 1).toUInt8.toNat ≤ padLen plain.length - 1 := by
      simp [Nat.mod_le]
    have hpos := padLen_pos plain.length
    rw [length_padded]
    omega
  rw [EncrAlg.decrypt, hlen, if_neg hshort, if_neg (not_not_intro hkey), List.take_left' hiv,
    List.drop_left' hiv, E.cbcDecrypt_cbcEncrypt hkey hiv hmod]
  simp only [getLast?_padded]
  rw [if_neg hpad, take_padded]

end
end Epdg.Ikev2
