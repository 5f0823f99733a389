import Epdg.S2b.Codec

/-!
What the client encodes, a GTPv2-C peer decodes back.
-/
namespace Epdg.S2b
open Bytes
variable {m : Message} {b rest : Bytes} {ies : List Ie} {flags l0 l1 type : UInt8} {fuel : Nat}

theorem read24_put24 {seq : UInt32} (h : ¬seq > maxSequence) :
    read24 (seq >>> 16).toUInt8 (seq >>> 8).toUInt8 seq.toUInt8 = seq := by
  have hle : seq.toNat ≤ 0xffffff := UInt32.le_iff_toNat_le.mp (UInt32.not_lt.mp h)
  rw [read24, be24_shifts (by omega)]
  exact UInt32.ofNat_toNat

theorem decodeTail_encode (m : Message) (hmin : ¬m.sequence < minSequence)
    (hmax : ¬m.sequence > maxSequence) :
    decodeTail m.type m.teid m.hasTEID (put24 m.sequence ++ [0] ++ m.payload) = some m := by
  simp only [put24, List.cons_append, List.nil_append, decodeTail, read24_put24 hmax, hmin, hmax,
    or_self, if_false]

theorem decodeMessage_withTEID (hver : flags &&& 0xe0 = gtpv2VersionFlag)
    (hteid : flags &&& gtpv2TEIDFlag ≠ 0) (hlen : be16 l0 l1 = rest.length)
    (hrest : 8 ≤ rest.length) : decodeMessage (flags :: type :: l0 :: l1 :: rest) =
      decodeTail type (be32 rest) true (rest.drop 4) := by
  have h8 : ¬rest.length + 1 + 1 + 1 + 1 < 8 := by omega
  have h12 : ¬rest.length + 1 + 1 + 1 + 1 < 12 := by omega
  have hl : ¬be16 l0 l1 ≠ rest.length + 1 + 1 + 1 + 1 - 4 := by omega
  simp only [decodeMessage, List.length_cons, if_neg h8, hver, ne_eq, not_true_eq_false, if_false,
    if_neg hl, hteid, not_false_eq_true, if_true, if_neg h12]

theorem decodeMessage_withoutTEID (hver : flags &&& 0xe0 = gtpv2VersionFlag)
    (hteid : ¬flags &&& gtpv2TEIDFlag ≠ 0) (hlen : be16 l0 l1 = rest.length)
    (hrest : 4 ≤ rest.length) :
    decodeMessage (flags :: type :: l0 :: l1 :: rest) = decodeTail type 0 false rest := by
  have h8 : ¬rest.length + 1 + 1 + 1 + 1 < 8 := by omega
  have hl : ¬be16 l0 l1 ≠ rest.length + 1 + 1 + 1 + 1 - 4 := by omega
  simp only [decodeMessage, List.length_cons, if_neg h8, hver, ne_eq, not_true_eq_false, if_false,
    if_neg hl]
  rw [if_neg hteid]

theorem be16_length {n : Nat} (h : ¬n > 0xffff) :
    be16 (n.toUInt16 >>> 8).toUInt8 n.toUInt16.toUInt8 = n := by
  rw [be16_putUint16]
  exact Nat.mod_eq_of_lt (by omega)

theorem encode_eq_some (h : m.encode = some b) :
    ¬m.sequence < minSequence ∧ ¬m.sequence > maxSequence ∧
      ¬(if m.hasTEID then 8 else 4) + m.payload.length > 0xffff ∧
      b = [if m.hasTEID then gtpv2VersionFlag ||| gtpv2TEIDFlag else gtpv2VersionFlag, m.type] ++
        putUint16 ((if m.hasTEID then 8 else 4) + m.payload.length).toUInt16 ++
        (if m.hasTEID then putUint32 m.teid else []) ++ put24 m.sequence ++ [0] ++ m.payload := by
  simp only [Message.encode, Option.ite_none_left_eq_some, Option.some.injEq, not_or] at h
  simp_all

theorem decodeMessage_encode (h : m.encode = some b) :
    decodeMessage b = some { m with teid := if m.hasTEID then m.teid else 0 } := by
  obtain ⟨hmin, hmax, hlen, rfl⟩ := encode_eq_some h
  have hl := be16_length hlen
  cases hteid : m.hasTEID with
  | true =>
    have htail := decodeTail_encode m hmin hmax
    simp only [hteid, if_true] at hlen hl htail ⊢
    have hrest : (putUint32 m.teid ++ (put24 m.sequence ++ [0] ++ m.payload)).length =
        8 + m.payload.length := by
      simp [putUint32_eq, put24]
      omega
    have hdrop : (putUint32 m.teid ++ (put24 m.sequence ++ [0] ++ m.payload)).drop 4 =
        put24 m.sequence ++ [0] ++ m.payload := List.drop_left' rfl
    have hdec : decodeMessage ((gtpv2VersionFlag ||| gtpv2TEIDFlag) :: m.type ::
        ((8 + m.payload.length).toUInt16 >>> 8).toUInt8 ::
        (8 + m.payload.length).toUInt16.toUInt8 ::
        (putUint32 m.teid ++ (put24 m.sequence ++ [0] ++ m.payload))) = some m := by
      rw [decodeMessage_withTEID (by decide) (by decide) (hl.trans hrest.symm) (by omega),
        be32_putUint32, hdrop, htail]
    rw [← hteid]
    simpa only [putUint16, List.cons_append, List.nil_append, List.append_assoc] using hdec
  | false =>
    simp only [hteid, Bool.false_eq_true, if_false] at hlen hl ⊢
    have hrest : (put24 m.sequence ++ [0] ++ m.payload).length = 4 + m.payload.length := by
      simp [put24]
      omega
    have htail0 : decodeTail m.type 0 false (put24 m.sequence ++ [0] ++ m.payload) =
        some { m with teid := 0, hasTEID := false } :=
      decodeTail_encode { m with teid := 0, hasTEID := false } hmin hmax
    have hdec : decodeMessage (gtpv2VersionFlag :: m.type ::
        ((4 + m.payload.length).toUInt16 >>> 8).toUInt8 ::
        (4 + m.payload.length).toUInt16.toUInt8 ::
        (put24 m.sequence ++ [0] ++ m.payload)) =
          some { m with teid := 0, hasTEID := false } := by
      rw [decodeMessage_withoutTEID (by decide) (by decide) (hl.trans hrest.symm) (by omega),
        htail0]
    simpa only [putUint16, List.cons_append, List.nil_append, List.append_assoc,
      List.append_nil] using hdec

theorem decode_encode (hteid : m.hasTEID = true) (h : m.encode = some b)
    : decodeMessage b = some m := by
  rw [decodeMessage_encode h, if_pos hteid]

theorem decodeTail_form {teid : UInt32} {hasTEID : Bool}
    (h : decodeTail type teid hasTEID rest = some m) :
    m.type = type ∧ m.teid = teid ∧ m.hasTEID = hasTEID ∧
      ∃ spare, rest = put24 m.sequence ++ [spare] ++ m.payload := by
  simp only [decodeTail] at h
  split at h
  · rename_i s0 s1 s2 spare payload
    split at h
    · cases h
    cases h
    refine ⟨rfl, rfl, rfl, spare, ?_⟩
    have hseq : put24 (read24 s0 s1 s2) = [s0, s1, s2] := shifts_be24 s0 s1 s2
    rw [hseq]
    rfl
  · cases h

theorem decodeMessage_form (h : decodeMessage b = some m) :
    ∃ flags spare, flags &&& 0xe0 = gtpv2VersionFlag ∧
      (flags &&& gtpv2TEIDFlag ≠ 0 ↔ m.hasTEID = true) ∧ (m.hasTEID = false → m.teid = 0) ∧
      (if m.hasTEID then 8 else 4) + m.payload.length ≤ 0xffff ∧
      b = [flags, m.type] ++ putUint16 ((if m.hasTEID then 8 else 4) + m.payload.length).toUInt16 ++
        (if m.hasTEID then putUint32 m.teid else []) ++ put24 m.sequence ++ [spare] ++
        m.payload := by
  simp only [decodeMessage] at h
  split at h
  · rename_i flags type l0 l1 rest
    have hlt := be16_lt l0 l1
    have hput := putUint16_be16 l0 l1
    simp only [Option.ite_none_left_eq_some] at h
    obtain ⟨hshort, hver, hlen, h⟩ := h
    simp only [List.length_cons, ne_eq, Decidable.not_not] at hshort hver hlen
    split at h
    · rename_i hteid
      split at h
      · cases h
      rename_i hlong
      simp only [List.length_cons] at hlong
      obtain ⟨t0, t1, t2, t3, tail, rfl⟩ := four_front (x := rest) (by omega)
      obtain ⟨rfl, hid, hhas, spare, hrest⟩ := decodeTail_form h
      obtain rfl : tail = put24 m.sequence ++ [spare] ++ m.payload := hrest
      have hn : 8 + m.payload.length = be16 l0 l1 := by
        simp [put24] at hlen
        omega
      refine ⟨flags, spare, hver, iff_of_true hteid hhas, ?_, ?_, ?_⟩
      · simp_all
      · grind
      · rw [hhas, if_pos rfl, if_pos rfl, hn, hput, hid, putUint32_be32]
        simp
    · rename_i hteid
      obtain ⟨rfl, hid, hhas, spare, rfl⟩ := decodeTail_form h
      have hn : 4 + m.payload.length = be16 l0 l1 := by
        simp [put24] at hlen
        omega
      grind
  · cases h

def Ie.Fits (e : Ie) : Prop := e.payload.length < 2 ^ 16 ∧ e.inst &&& 0x0f = e.inst

theorem decodeIEsLoop_encode (h : ∀ e ∈ ies, e.Fits) (hf : ies.length ≤ fuel)
    : decodeIEsLoop fuel (encodeIEs ies) = some ies := by
  induction ies generalizing fuel with
  | nil =>
    cases fuel <;> rfl
  | cons e ies ih =>
    obtain ⟨hlen, hinst⟩ := h e (by simp)
    have hl : be16 (e.payload.length.toUInt16 >>> 8).toUInt8
        e.payload.length.toUInt16.toUInt8 = e.payload.length := by
      rw [be16_putUint16]
      simp_all
    cases fuel with
    | zero => simp at hf
    | succ fuel =>
      have hrest := ih (fun e' he' => h e' (by simp [he'])) (Nat.le_of_succ_le_succ hf)
      have henc : encodeIEs (e :: ies) = e.type ::
          (e.payload.length.toUInt16 >>> 8).toUInt8 ::
          e.payload.length.toUInt16.toUInt8 :: (e.inst &&& 0x0f) ::
          (e.payload ++ encodeIEs ies) := by
        simp [encodeIEs, Ie.encode, putUint16]
      rw [henc]
      simp only [decodeIEsLoop, hl, List.length_append, List.drop_left, List.take_left, hrest,
        hinst, Option.map_some]
      rw [if_neg (by omega)]

theorem decodeIEs_encodeIEs (h : ∀ e ∈ ies, e.Fits) : decodeIEs (encodeIEs ies) = some ies := by
  apply decodeIEsLoop_encode h
  have hlen : ∀ l : List Ie, l.length ≤ (encodeIEs l).length := by
    intro l
    induction l with
    | nil => simp
    | cons e l ih =>
      have hcons : encodeIEs (e :: l) = e.encode ++ encodeIEs l := rfl
      have he : 4 ≤ e.encode.length := by simp [Ie.encode, putUint16]
      grind
  exact hlen ies

theorem decodeMessage_spec (h : decodeMessage b = some m) :
    ¬m.sequence < minSequence ∧ ¬m.sequence > maxSequence ∧ m.payload.length ≤ b.length := by
  have htail : ∀ {type teid hasTEID rest}, decodeTail type teid hasTEID rest = some m →
      ¬m.sequence < minSequence ∧ ¬m.sequence > maxSequence ∧
        m.payload.length ≤ rest.length := by
    intro type teid hasTEID rest h
    simp only [decodeTail] at h
    grind
  simp only [decodeMessage] at h
  split at h
  · rename_i flags type l0 l1 rest
    have hrest : rest.length ≤ (flags :: type :: l0 :: l1 :: rest).length := by grind
    grind
  · cases h

theorem decodeIEsLoop_length (h : decodeIEsLoop fuel b = some ies) : 4 * ies.length ≤ b.length := by
  fun_induction decodeIEsLoop fuel b generalizing ies with
  | case1 =>
    cases h
    simp
  | case2 | case3 | case5 => cases h
  | case4 fuel type l0 l1 inst rest hlen ih =>
    obtain ⟨tail, htail, rfl⟩ := Option.map_eq_some_iff.mp h
    grind

theorem decodeIEs_length (h : decodeIEs b = some ies) :
    4 * ies.length ≤ b.length := decodeIEsLoop_length h

theorem length_encode (e : Ie) : e.encode.length = 4 + e.payload.length := by
  simp [Ie.encode, putUint16]
  omega

@[simp] theorem encodeIEs_nil : encodeIEs [] = [] := rfl

@[simp] theorem encodeIEs_cons (e : Ie) (ies : List Ie) :
    encodeIEs (e :: ies) = e.encode ++ encodeIEs ies := rfl

theorem encodeIEs_append (ies ies' : List Ie) :
    encodeIEs (ies ++ ies') = encodeIEs ies ++ encodeIEs ies' := List.flatMap_append

theorem length_encodeIEs_le {k : Nat} (h : ∀ e ∈ ies, e.payload.length ≤ k) :
    (encodeIEs ies).length ≤ (4 + k) * ies.length := by
  induction ies with
  | nil => simp [encodeIEs]
  | cons e ies ih =>
    have he := h e (by simp)
    have hrest := ih fun e' he' => h e' (by simp [he'])
    rw [encodeIEs_cons, List.length_append, length_encode, List.length_cons, Nat.mul_succ]
    omega

theorem encode_isSome (hmin : ¬m.sequence < minSequence) (hmax : ¬m.sequence > maxSequence)
    (hlen : m.payload.length ≤ 0xfff0) : ∃ b, m.encode = some b := by
  have hl : ¬(if m.hasTEID then 8 else 4) + m.payload.length > 0xffff := by
    split <;> omega
  simp only [Message.encode, hmin, hmax, or_self, if_false, if_neg hl]
  exact ⟨_, rfl⟩

end Epdg.S2b
