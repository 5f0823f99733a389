import Epdg.Ikev2.Encrypt
import Epdg.Ikev2.Proposal
import Epdg.Lib.Slices

/-!
The opening of SK payloads (`crypto.go`) with everything that can panic: index and slice
expressions, a nil integrity algorithm, and the length checks of Go's `cipher` package.

Of an outcome, `none` is the panic, `some none` the error and `some (some x)` the result.
-/
namespace Epdg.Ikev2.Checked
open Bytes
variable (P : Primitives)

def cryptBlocks (key iv blocks : Bytes) : Option Bytes :=
  if iv.length = 16 ∧ blocks.length % 16 = 0 then some (P.cbcDecrypt key iv blocks) else none

def decrypt (key ciphertext : Bytes) : Option (Option Bytes) :=
  if ciphertext.length < 16 ∨ ciphertext.length % 16 ≠ 0 then some none
  else if ¬ aesKeyOK key then some none
  else do
    let iv ← ciphertext.slice 0 16
    let blocks ← ciphertext.slice 16 ciphertext.length
    let plain ← cryptBlocks P key iv blocks
    if plain.length = 0 then return none
    let last ← plain[plain.length - 1]?
    let padLen := last.toNat + 1
    if padLen > plain.length then return none
    let front ← plain.sliceInt 0 (plain.length - padLen)
    return some front

def aeadCipher (key : Bytes) (saltLen : Nat) : Option (Option (Bytes × Bytes)) :=
  if key.length ≤ saltLen then some none
  else do
    let aesKey ← key.sliceInt 0 (key.length - saltLen)
    let salt ← key.sliceInt (key.length - saltLen) key.length
    if ¬ aesKeyOK aesKey then return none
    return some (aesKey, salt)

def gcmOpen (aesKey nonce ciphertext aad : Bytes) : Option (Option Bytes) :=
  if nonce.length = 12 then some (P.gcmOpen aesKey nonce ciphertext aad) else none

def decryptSKAEAD (k : IkeSAKey) (msg : Bytes) : Option (Option (UInt8 × Bytes)) := do
  match ← aeadCipher k.skEi k.encr.saltLen with
  | none => return none
  | some (aesKey, salt) =>
    let explicitIVLen : Int := 12 - salt.length
    if msg.length < 32 + explicitIVLen + 16 then return none
    let innerNextPayload ← msg[28]?
    let explicitIV ← msg.sliceInt 32 (32 + explicitIVLen)
    let aad ← msg.slice 0 32
    let ciphertext ← msg.sliceInt (32 + explicitIVLen) msg.length
    let plain ← gcmOpen P aesKey (salt ++ explicitIV) ciphertext aad
    return plain.map fun plain => (innerNextPayload, plain)

def decryptSK (k : IkeSAKey) (msg : Bytes) : Option (Option (UInt8 × Bytes)) :=
  if k.encr.isAEAD then decryptSKAEAD P k msg
  else do
    let integ ← k.integ
    let integLen := integ.outputLen
    if msg.length < 28 + 4 + integLen then return none
    let signed ← msg.sliceInt 0 (msg.length - integLen)
    let mac ← (P.hmac integ.hash k.skAi signed).slice 0 integLen
    let checksum ← msg.sliceInt (msg.length - integLen) msg.length
    if mac ≠ checksum then return none
    let innerNextPayload ← msg[28]?
    let skPayload ← msg.slice 28 msg.length
    let ciphertext ← skPayload.sliceInt 4 (skPayload.length - integLen)
    let plain ← decrypt P k.skEi ciphertext
    return plain.map fun plain => (innerNextPayload, plain)

end Epdg.Ikev2.Checked
