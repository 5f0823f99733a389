import Epdg.Gtpu.Downlink

/-!
What `parseGTPU` reads, and where the payload of a GTP-U packet begins.

TS 29.281 has an optional word when one of the flags E, S and PN is set; the type of the next
extension header in it counts only with E. `parseGTPU` follows the chain whichever flag is set.
-/
namespace Epdg.Gtpu
open Bytes
variable {fuel i m n offset : Nat} {nextExt : UInt8}

def readIn (b : Bytes) (limit i : Nat) : Option UInt8 := if i < limit then b[i]? else none

def readUint16In (b : Bytes) (limit i : Nat) : Option Nat := do
  some (be16 (← readIn b limit i) (← readIn b limit (i + 1)))

def readUint32In (b : Bytes) (limit i : Nat) : Option UInt32 := do
  some (be32 [← readIn b limit i, ← readIn b limit (i + 1), ← readIn b limit (i + 2),
    ← readIn b limit (i + 3)])

def skipWithin (b : Bytes) (limit : Nat) : Nat → UInt8 → Nat → Option (Option Nat)
  | fuel, nextExt, offset =>
    if nextExt = 0 then some (some offset)
    else
      match fuel with
      | 0 => none
      | fuel + 1 =>
        if limit < offset + 1 then some none
        else do
          let len ← readIn b limit offset
          let extLen := len.toNat * 4
          if extLen = 0 ∨ limit < offset + extLen then some none
          else
            let next ← readIn b limit (offset + extLen - 1)
            skipWithin b limit fuel next (offset + extLen)

def parseWithin (b : Bytes) : Option (Option GtpuPacket) :=
  if b.length < 8 then some none
  else do
    let flags ← readIn b 8 0
    if flags &&& 0xe0 ≠ 0x20 ∨ flags &&& 0x10 = 0 then some none
    else
      let length ← readUint16In b 8 2
      if length > b.length - 8 then some none
      else
        let limit := 8 + length
        let messageType ← readIn b limit 1
        let teid ← readUint32In b limit 4
        if flags &&& 0x07 ≠ 0 then
          if limit < 12 then some none
          else
            let sequence := (← readUint16In b limit 8).toUInt16
            match ← skipWithin b limit b.length (← readIn b limit 11) 12 with
            | none => some none
            | some offset =>
              if offset > limit then some none
              else some (some { messageType, teid, sequence
                                payload := (b.take limit).drop offset })
        else some (some { messageType, teid, payload := (b.take limit).drop 8 })

section Reads
variable {b : Bytes} {limit : Nat}

theorem readIn_eq (hi : i < limit) (hlimit : limit ≤ b.length) :
    readIn b limit i = some (b.byteAt i) := by
  have hlt : i < b.length := Nat.lt_of_lt_of_le hi hlimit
  rw [readIn, if_pos hi, byteAt, List.getD_eq_getElem?_getD, List.getElem?_eq_getElem hlt]
  rfl

theorem skipWithin_eq (hlimit : limit ≤ b.length) (hoffset : offset ≤ limit)
    (hfuel : limit < offset + fuel) :
    skipWithin b limit fuel nextExt offset = some (skipExtensions b limit fuel nextExt offset) := by
  induction fuel generalizing nextExt offset with
  | zero => omega
  | succ fuel ih =>
    rw [skipWithin, skipExtensions]
    split
    · rfl
    split
    · rfl
    rw [readIn_eq (by omega) hlimit]
    simp only [Option.bind_eq_bind, Option.bind_some]
    split
    · rfl
    rw [readIn_eq (by omega) hlimit, Option.bind_some]
    grind

theorem readUint16In_eq (hi : i + 1 < limit) (hlimit : limit ≤ b.length) :
    readUint16In b limit i = some (b.uint16At i) := by
  rw [readUint16In, readIn_eq (by omega) hlimit, readIn_eq hi hlimit]
  rfl

theorem readUint32In_eq (hi : i + 3 < limit) (hlimit : limit ≤ b.length) :
    readUint32In b limit i = some (b.uint32At i) := by
  have hdrop : ∀ k, b.byteAt (i + k) = byteAt (b.drop i) k := by
    intro k
    simp only [byteAt, List.getD_eq_getElem?_getD, List.getElem?_drop]
  rw [readUint32In, readIn_eq (by omega) hlimit, readIn_eq (by omega) hlimit,
    readIn_eq (by omega) hlimit, readIn_eq hi hlimit, hdrop 1, hdrop 2, hdrop 3,
    show b.byteAt i = byteAt (b.drop i) 0 from hdrop 0, uint32At]
  have hfour : 4 ≤ (b.drop i).length := by grind
  obtain ⟨b0, b1, b2, b3, rest, hb⟩ := four_front hfour
  rw [hb]
  rfl

theorem parseWithin_eq (b : Bytes) : parseWithin b = some (parseGTPU b) := by
  rw [parseWithin, parseGTPU]
  split
  · rfl
  have hheader : 8 ≤ b.length := by omega
  simp only [readIn_eq (by decide : 0 < 8) hheader, readUint16In_eq (by decide : 2 + 1 < 8) hheader,
    Option.bind_eq_bind, Option.bind_some, Option.bind_none]
  split
  · rfl
  split
  · rfl
  have hlimit : 8 + b.uint16At 2 ≤ b.length := by omega
  rw [readIn_eq (by omega) hlimit, readUint32In_eq (by omega) hlimit]
  split
  · split
    · rfl
    rw [readUint16In_eq (by omega) hlimit, readIn_eq (by omega) hlimit]
    simp only [Option.bind_some]
    rw [skipWithin_eq hlimit (by omega) (by omega), Option.bind_some]
    grind
  · rfl

end Reads

section Payload
variable {b : Bytes} {limit : Nat}

inductive ExtensionChain (b : Bytes) (limit : Nat) : UInt8 → Nat → Nat → Prop where
  | stop (offset : Nat) : ExtensionChain b limit 0 offset offset
  | header {type : UInt8} {offset len n : Nat} (htype : type ≠ 0)
      (hlen : len = (b.byteAt offset).toNat * 4) (hpos : 0 < len) (hin : offset + len ≤ limit)
      (hrest : ExtensionChain b limit (b.byteAt (offset + len - 1)) (offset + len) n) :
      ExtensionChain b limit type offset n

theorem ExtensionChain.unique {type : UInt8} (h : ExtensionChain b limit type offset n)
    (h' : ExtensionChain b limit type offset m) : n = m := by
  induction h with
  | stop offset =>
    cases h' with
    | stop => rfl
    | header htype => exact absurd rfl htype
  | header htype hlen hpos hin hrest ih =>
    cases h' with
    | stop => exact absurd rfl htype
    | header htype' hlen' hpos' hin' hrest' => simp_all

theorem skipExtensions_chain (h : skipExtensions b limit fuel nextExt offset = some n) :
    ExtensionChain b limit nextExt offset n := by
  induction fuel generalizing nextExt offset with
  | zero =>
    rw [skipExtensions] at h
    split at h
    · rename_i hzero
      cases h
      rw [hzero]
      exact .stop _
    · cases h
  | succ fuel ih =>
    rw [skipExtensions] at h
    split at h
    · rename_i hzero
      cases h
      rw [hzero]
      exact .stop _
    rename_i hnext
    simp only at h
    split at h
    · cases h
    split at h
    · cases h
    · exact .header hnext rfl (by omega) (by omega) (ih h)

def SpecStart (b : Bytes) (n : Nat) : Prop :=
  if b.byteAt 0 &&& 0x07 = 0 then n = 8
  else if b.byteAt 0 &&& 0x04 = 0 then n = 12
  else ExtensionChain b (8 + b.uint16At 2) (b.byteAt 11) 12 n

def SpecPayload (b payload : Bytes) : Prop :=
  ∃ n, SpecStart b n ∧ payload = (b.take (8 + b.uint16At 2)).drop n

theorem SpecStart.unique (h : SpecStart b n) (h' : SpecStart b m) : n = m := by
  unfold SpecStart at h h'
  split at h
  · simp_all
  rw [if_neg ‹_›] at h'
  split at h
  · simp_all
  · rw [if_neg ‹_›] at h'
    exact h.unique h'

theorem SpecPayload.unique {payload payload' : Bytes} (h : SpecPayload b payload)
    (h' : SpecPayload b payload') : payload = payload' := by
  obtain ⟨n, hn, rfl⟩ := h
  obtain ⟨m, hm, rfl⟩ := h'
  rw [hn.unique hm]

/-- `parseGTPU` ends and reads only the header and the bytes that the packet declares. The payload
of a packet that it accepts is that of TS 29.281 exactly when E is set, or none of E, S and PN, or
the optional word names no extension header. -/
theorem parseGTPU_payload_iff (b : Bytes) :
    parseWithin b = some (parseGTPU b) ∧
    ∀ pkt, parseGTPU b = some pkt →
      (SpecPayload b pkt.payload ↔
        b.byteAt 0 &&& 0x04 ≠ 0 ∨ b.byteAt 0 &&& 0x07 = 0 ∨ b.byteAt 11 = 0) := by
  refine ⟨parseWithin_eq b, fun pkt h => ?_⟩
  obtain ⟨hlen, -, -, n, hn, hpayload, hstart⟩ := parseGTPU_spec h
  rcases hstart with ⟨hflags, rfl⟩ | ⟨hflags, hoptional, hchain⟩
  · refine iff_of_true ⟨8, ?_, hpayload⟩ (.inr (.inl hflags))
    rw [SpecStart, if_pos hflags]
  by_cases hext : b.byteAt 0 &&& 0x04 = 0
  · -- without E the payload is the one after the optional word
    have hspec : SpecPayload b pkt.payload ↔ n = 12 := by
      simp only [SpecPayload, SpecStart, if_neg hflags, if_pos hext, exists_eq_left, hpayload]
      constructor
      · intro heq
        have := congrArg List.length heq
        rw [List.length_drop, List.length_drop, List.length_take, Nat.min_eq_left hlen] at this
        omega
      · rintro rfl
        rfl
    rw [hspec, (skipExtensions_spec hchain).2]
    simp [hext, hflags]
  · refine iff_of_true ⟨n, ?_, hpayload⟩ (.inl hext)
    rw [SpecStart, if_neg hflags, if_neg hext]
    exact skipExtensions_chain hchain

def sequencedGPdu (next : UInt8) : Bytes :=
  [0x32, 0xff, 0, 9] ++ putUint32 0x2001 ++ [0, 7, 0, next] ++ [1, 2, 3, 0, 9]

theorem chain_without_flag :
    parseGTPU (sequencedGPdu 0x85) = some ⟨0xff, 0x2001, 7, [9]⟩ ∧
    SpecPayload (sequencedGPdu 0x85) [1, 2, 3, 0, 9] ∧ ¬SpecPayload (sequencedGPdu 0x85) [9] := by
  have hspec : SpecPayload (sequencedGPdu 0x85) [1, 2, 3, 0, 9] := by
    refine ⟨12, ?_, by decide⟩
    rw [SpecStart, if_neg (by decide), if_pos (by decide)]
  exact ⟨by decide +kernel, hspec, fun h => absurd (h.unique hspec) (by decide)⟩

theorem sequenced_payload : SpecPayload (sequencedGPdu 0) [1, 2, 3, 0, 9] := by
  have h : parseGTPU (sequencedGPdu 0) = some ⟨0xff, 0x2001, 7, [1, 2, 3, 0, 9]⟩ := by
    decide +kernel
  exact ((parseGTPU_payload_iff (sequencedGPdu 0)).2 _ h).mpr (.inr (.inr (by decide)))

end Payload
end Epdg.Gtpu
