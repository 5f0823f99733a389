import Epdg.Ikev2.Payloads
import Epdg.Lib.Slices

/-!
The payload walkers as the source writes them: an offset into the decrypted bytes, the index and
slice expressions with their bounds checks, and a record of the payloads entered.

The loop stands three times in the source, in `parseAuthPayloads` (`auth.go`),
`parseChildSAPayloads` (`rekey.go`) and `parseInfoPayloads` (`inform.go`), and differs in its
`switch` and in what a malformed header leads to.
-/
namespace Epdg.Ikev2
open Bytes

inductive Exit where
  | finished
  /-- Less than a generic header is left at the offset. -/
  | truncated (off : Nat)
  /-- The length of the header does not cover it or runs past the end. -/
  | invalidLength (payloadLen off : Nat)
  /-- The `switch` returns an error. -/
  | refused
  | outOfRange
  /-- The rounds granted do not suffice. -/
  | running
  deriving DecidableEq

def Exit.malformed : Exit → Bool
  | .truncated _ | .invalidLength _ _ => true
  | _ => false

structure Walked (α : Type) where
  visited : List (UInt8 × Bytes)
  result : α
  exit : Exit
  deriving DecidableEq

def walkAt {α : Type} (visit : α → UInt8 → Bytes → Option (Option α)) (plain : Bytes) :
    Nat → UInt8 → Nat → α → Walked α
  | 0, _, _, result => ⟨[], result, .running⟩
  | rounds + 1, curType, off, result =>
    if ¬ (curType ≠ 0 ∧ off < plain.length) then ⟨[], result, .finished⟩
    else if off + 4 > plain.length then ⟨[], result, .truncated off⟩
    else
      match plain[off]?, (plain.slice (off + 2) (off + 4)).bind beUint16 with
      | some nextType, some payloadLen =>
        if payloadLen < 4 ∨ off + payloadLen > plain.length then
          ⟨[], result, .invalidLength payloadLen off⟩
        else
          match plain.slice (off + 4) (off + payloadLen) with
          | none => ⟨[], result, .outOfRange⟩
          | some body =>
            match visit result curType body with
            | none => ⟨[(curType, body)], result, .outOfRange⟩
            | some none => ⟨[(curType, body)], result, .refused⟩
            | some (some result) =>
              let w := walkAt visit plain rounds nextType (off + payloadLen) result
              { w with visited := (curType, body) :: w.visited }
      | _, _ => ⟨[], result, .outOfRange⟩

section
variable (C : Codec)

def switchAuth (r : AuthPayloads) (type : UInt8) (body : Bytes) : Option (Option AuthPayloads) :=
  if type = typeN then
    if body.length < 4 then some none
    else do
      let spiSize ← body[1]?
      if spiSize.toNat > body.length - 4 then return none
      return (C.unmarshalN body).map fun p => { r with notifies := r.notifies ++ [p] }
  else some (visitAuth C r type body)

def switchInfo (r : InfoPayloads) (type : UInt8) (body : Bytes) : Option (Option InfoPayloads) :=
  if type = typeN then
    if body.length ≥ 4 then do
      let spiSize ← body[1]?
      let notifyType ← (body.slice 2 4).bind beUint16
      let dataOff := 4 + spiSize.toNat
      if notifyType.toUInt16 = updateSAAddresses then return some { r with hasUpdateSA := true }
      else if notifyType.toUInt16 = cookie2Notify ∧ dataOff ≤ body.length then do
        let data ← body.slice dataOff body.length
        return some { r with cookie2 := data }
      else return some r
    else some (some r)
  else some (some (visitInfo C r type body))

def walk {α : Type} (visit : α → UInt8 → Bytes → Option (Option α)) (firstType : UInt8)
    (plain : Bytes) (result : α) : Walked α :=
  walkAt visit plain (plain.length + 1) firstType 0 result

def authWalk (firstType : UInt8) (plain : Bytes) : Walked AuthPayloads :=
  walk (switchAuth C) firstType plain {}

def childSAWalk (firstType : UInt8) (plain : Bytes) : Walked ChildSAPayloads :=
  walk (fun r type body => some (some (visitChildSA C r type body))) firstType plain {}

def infoWalk (firstType : UInt8) (plain : Bytes) : Walked InfoPayloads :=
  walk (switchInfo C) firstType plain {}

end

end Epdg.Ikev2
