import Mathlib.Algebra.GroupWithZero.Nat
import Epdg.Lib.Bytes

/-!
The crypto layer of the IKE server (`internal/ikev2/crypto.go`): negotiable
algorithms, key derivation and the opening of SK payloads.

HMAC, AES and the Diffie-Hellman operations are parameters. Of HMAC only the
output length of the hash is assumed. The four DH groups share one interface in
the source, and so they do here.
-/
namespace Epdg.Ikev2
open Bytes

inductive DhGroup where
  | modp2048 | modp3072 | ecp256 | ecp384
  deriving DecidableEq, Repr

def DhGroup.transformID : DhGroup → UInt16
  | modp2048 => 14
  | modp3072 => 15
  | ecp256 => 19
  | ecp384 => 20

inductive Hash where
  | sha1 | sha256 | sha512
  deriving DecidableEq, Repr

def Hash.size : Hash → Nat
  | sha1 => 20
  | sha256 => 32
  | sha512 => 64

theorem Hash.length_take_size (h : Hash) {b : Bytes} (hb : 64 ≤ b.length) :
    (b.take h.size).length = h.size := by
  have hsize : h.size ≤ 64 := by cases h <;> decide
  grind

inductive PrfAlg where
  | sha1 | sha256 | sha512
  deriving DecidableEq, Repr

namespace PrfAlg

def transformID : PrfAlg → UInt16
  | sha1 => 2
  | sha256 => 5
  | sha512 => 7

def hash : PrfAlg → Hash
  | sha1 => .sha1
  | sha256 => .sha256
  | sha512 => .sha512

def keyLen (p : PrfAlg) : Nat := p.hash.size

end PrfAlg

inductive IntegAlg where
  | sha1_96 | sha256_128 | sha512_256
  deriving DecidableEq, Repr

namespace IntegAlg

def transformID : IntegAlg → UInt16
  | sha1_96 => 2
  | sha256_128 => 12
  | sha512_256 => 14

def hash : IntegAlg → Hash
  | sha1_96 => .sha1
  | sha256_128 => .sha256
  | sha512_256 => .sha512

def keyLen (a : IntegAlg) : Nat := a.hash.size

def outputLen : IntegAlg → Nat
  | sha1_96 => 12
  | sha256_128 => 16
  | sha512_256 => 32

end IntegAlg

inductive EncrAlg where
  | aesCbc128 | aesCbc256 | aesGcm16_128 | aesGcm16_256
  deriving DecidableEq, Repr

namespace EncrAlg

def transformID : EncrAlg → UInt16
  | aesCbc128 | aesCbc256 => 12
  | aesGcm16_128 | aesGcm16_256 => 20

def keyBits : EncrAlg → Nat
  | aesCbc128 | aesGcm16_128 => 128
  | aesCbc256 | aesGcm16_256 => 256

def saltLen : EncrAlg → Nat
  | aesCbc128 | aesCbc256 => 0
  | aesGcm16_128 | aesGcm16_256 => 4

def keyLen (e : EncrAlg) : Nat := e.keyBits / 8 + e.saltLen

def isAEAD (e : EncrAlg) : Bool := e.saltLen > 0

end EncrAlg

structure Primitives where
  hmac : Hash → Bytes → Bytes → Bytes
  hmac_length : ∀ h key data, (hmac h key data).length = h.size
  sha1 : Bytes → Bytes
  /-- CBC decryption: key, IV, ciphertext. -/
  cbcDecrypt : Bytes → Bytes → Bytes → Bytes
  /-- GCM opening: key, nonce, ciphertext with tag, additional data. -/
  gcmOpen : Bytes → Bytes → Bytes → Bytes → Option Bytes
  dhPublicKey : DhGroup → Bytes → Bytes
  dhSharedKey : DhGroup → Bytes → Bytes → Option Bytes

structure IkeSAKey where
  dh : DhGroup
  encr : EncrAlg
  integ : Option IntegAlg
  prf : PrfAlg
  skD : Bytes := []
  skAi : Bytes := []
  skAr : Bytes := []
  skEi : Bytes := []
  skEr : Bytes := []
  skPi : Bytes := []
  skPr : Bytes := []
  deriving DecidableEq, Repr

def IkeSAKey.integKeyLen (k : IkeSAKey) : Nat := (k.integ.map IntegAlg.keyLen).getD 0

section
variable (P : Primitives)

def prf (alg : PrfAlg) (key data : Bytes) : Bytes := P.hmac alg.hash key data

def prfPlusLoop (h : Bytes → Bytes) (seed : Bytes) (length : Nat) :
    Nat → Nat → Bytes → Bytes → Bytes
  | 0, _, _, out => out
  | fuel + 1, i, prev, out =>
    if out.length < length then
      let block := h (prev ++ seed ++ [i.toUInt8])
      prfPlusLoop h seed length fuel (i + 1) block (out ++ block)
    else out

def prfPlus (h : Bytes → Bytes) (seed : Bytes) (length : Nat) : Bytes :=
  (prfPlusLoop h seed length length 1 [] []).take length

def takeKeys : List Nat → Bytes → List Bytes
  | [], _ => []
  | n :: ns, keymat => keymat.take n :: takeKeys ns (keymat.drop n)

def expandKeys (k : IkeSAKey) (skeyseed nonces : Bytes) (spiI spiR : UInt64) : IkeSAKey :=
  let seed := nonces ++ putUint64 spiI ++ putUint64 spiR
  let lens := [k.prf.keyLen, k.integKeyLen, k.integKeyLen, k.encr.keyLen, k.encr.keyLen,
    k.prf.keyLen, k.prf.keyLen]
  let keymat := prfPlus (prf P k.prf skeyseed) seed lens.sum
  match takeKeys lens keymat with
  | [skD, skAi, skAr, skEi, skEr, skPi, skPr] =>
    { k with skD, skAi, skAr, skEi, skEr, skPi, skPr }
  | _ => k

def deriveKeys (k : IkeSAKey) (nonces dhShared : Bytes) (spiI spiR : UInt64) : IkeSAKey :=
  expandKeys P k (prf P k.prf nonces dhShared) nonces spiI spiR

def aesKeyOK (key : Bytes) : Bool :=
  key.length = 16 || key.length = 24 || key.length = 32

def EncrAlg.decrypt (key ciphertext : Bytes) : Option Bytes :=
  if ciphertext.length < 16 ∨ ciphertext.length % 16 ≠ 0 then none
  else if ¬ aesKeyOK key then none
  else
    let plain := P.cbcDecrypt key (ciphertext.take 16) (ciphertext.drop 16)
    match plain.getLast? with
    | none => none
    | some last =>
      let padLen := last.toNat + 1
      if padLen > plain.length then none else some (plain.take (plain.length - padLen))

def decryptSKAEAD (k : IkeSAKey) (msg : Bytes) : Option (UInt8 × Bytes) :=
  let saltLen := k.encr.saltLen
  if k.skEi.length ≤ saltLen then none
  else
    let aesKey := k.skEi.take (k.skEi.length - saltLen)
    let salt := k.skEi.drop (k.skEi.length - saltLen)
    let explicitIVLen := 12 - saltLen
    if ¬ aesKeyOK aesKey then none
    else if msg.length < 32 + explicitIVLen + 16 then none
    else
      let iv := (msg.drop 32).take explicitIVLen
      match P.gcmOpen aesKey (salt ++ iv) (msg.drop (32 + explicitIVLen)) (msg.take 32) with
      | none => none
      | some plain => some (msg.getD 28 0, plain)

def decryptSK (k : IkeSAKey) (msg : Bytes) : Option (UInt8 × Bytes) :=
  if k.encr.isAEAD then decryptSKAEAD P k msg
  else
    match k.integ with
    | none => none
    | some integ =>
      let n := integ.outputLen
      if msg.length < 28 + 4 + n then none
      else
        let body := msg.take (msg.length - n)
        if (P.hmac integ.hash k.skAi body).take n ≠ msg.drop (msg.length - n) then none
        else
          (EncrAlg.decrypt P k.skEi (body.drop 32)).map fun plain => (msg.getD 28 0, plain)

theorem decryptSK_short {k : IkeSAKey} {msg : Bytes} (h : msg.length < 32) :
    decryptSK P k msg = none := by
  unfold decryptSK decryptSKAEAD
  split
  · grind
  · grind

end
end Epdg.Ikev2
