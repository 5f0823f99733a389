import Epdg.S2b.RoundTrip

/-!
GTPv2-C messages through `message.encode` and `decodeMessage`, and the trees of information
elements in them.
-/
namespace Epdg.S2b
open Bytes
variable {m : Message} {e : Ie} {ts : List IeTree}

/-! ### Messages -/

def clearSpare (b : Bytes) : Bytes :=
  (b.modify 0 (· &&& 0xe8)).set (if b.byteAt 0 &&& gtpv2TEIDFlag ≠ 0 then 11 else 7) 0

theorem flags_withTEID (f : UInt8) :
    f &&& 0xe0 = gtpv2VersionFlag ∧ f &&& gtpv2TEIDFlag ≠ 0 →
      f &&& 0xe8 = gtpv2VersionFlag ||| gtpv2TEIDFlag := by
  revert f
  exact forall_byte (by decide +kernel)

theorem flags_withoutTEID (f : UInt8) :
    f &&& 0xe0 = gtpv2VersionFlag ∧ ¬f &&& gtpv2TEIDFlag ≠ 0 →
      f &&& 0xe8 = gtpv2VersionFlag := by
  revert f
  exact forall_byte (by decide +kernel)

theorem encode_of_fits (hmin : ¬m.sequence < minSequence) (hmax : ¬m.sequence > maxSequence)
    (hlen : (if m.hasTEID then 8 else 4) + m.payload.length ≤ 0xffff) :
    m.encode = some ([if m.hasTEID then gtpv2VersionFlag ||| gtpv2TEIDFlag else gtpv2VersionFlag,
      m.type] ++ putUint16 ((if m.hasTEID then 8 else 4) + m.payload.length).toUInt16 ++
      (if m.hasTEID then putUint32 m.teid else []) ++ put24 m.sequence ++ [0] ++ m.payload) := by
  simp only [Message.encode]
  simp_all

theorem encode_decodeMessage {b : Bytes} (h : decodeMessage b = some m) :
    m.encode = some (clearSpare b) := by
  obtain ⟨hmin, hmax, -⟩ := decodeMessage_spec h
  obtain ⟨flags, spare, hver, hteid, -, hlen, rfl⟩ := decodeMessage_form h
  rw [encode_of_fits hmin hmax hlen]
  cases hhas : m.hasTEID with
  | true =>
    have hflag := hteid.mpr hhas
    have hf := flags_withTEID flags ⟨hver, hflag⟩
    simp [clearSpare, byteAt, putUint16, putUint32_eq, put24, hflag, hf]
  | false =>
    have hflag : ¬flags &&& gtpv2TEIDFlag ≠ 0 := by simp_all
    have hf := flags_withoutTEID flags ⟨hver, hflag⟩
    simp [clearSpare, byteAt, putUint16, put24, hflag, hf]

/-- Both round trips. -/
theorem gtpv2_round_trip :
    (∀ m : Message, 1 ≤ m.sequence.toNat → m.sequence.toNat ≤ 0xffffff →
      (m.hasTEID = false → m.teid = 0) →
      (if m.hasTEID then 8 else 4) + m.payload.length ≤ 0xffff →
      ∃ b, m.encode = some b ∧ decodeMessage b = some m) ∧
    ∀ (b : Bytes) (m : Message), decodeMessage b = some m →
      m.encode = some (clearSpare b) ∧ decodeMessage (clearSpare b) = some m := by
  have hback : ∀ (m : Message) (b : Bytes), (m.hasTEID = false → m.teid = 0) →
      m.encode = some b → decodeMessage b = some m := by
    intro m b hteid hb
    rw [decodeMessage_encode hb]
    cases hhas : m.hasTEID with
    | true => simp [← hhas]
    | false => simp [← hhas, ← hteid hhas]
  constructor
  · intro m hmin hmax hteid hlen
    have hmin' : ¬m.sequence < minSequence := by
      exact Nat.not_lt.mpr hmin
    have hmax' : ¬m.sequence > maxSequence := by
      exact Nat.not_lt.mpr hmax
    have henc := encode_of_fits hmin' hmax' hlen
    exact ⟨_, henc, hback m _ hteid henc⟩
  · intro b m h
    obtain ⟨-, -, -, -, hteid, -, -⟩ := decodeMessage_form h
    have henc := encode_decodeMessage h
    exact ⟨henc, hback m _ hteid henc⟩

/-- An Echo Request with the piggyback flag, spare bits and a spare octet set. -/
theorem echo_round_trip :
    (∃ b, (Message.mk msgEchoRequest 0 false 1 [3]).encode = some b ∧
      decodeMessage b = some ⟨msgEchoRequest, 0, false, 1, [3]⟩) ∧
    (Message.mk msgEchoRequest 0 false 1 [3]).encode =
        some (clearSpare [0x57, 1, 0, 5, 0, 0, 1, 0xff, 3]) ∧
      decodeMessage (clearSpare [0x57, 1, 0, 5, 0, 0, 1, 0xff, 3]) =
        some ⟨msgEchoRequest, 0, false, 1, [3]⟩ :=
  ⟨gtpv2_round_trip.1 _ (by decide) (by decide) (by decide) (by decide),
    gtpv2_round_trip.2 _ _ (by decide +kernel)⟩

/-! ### Trees of information elements -/

inductive IeTree where
  | leaf (type inst : UInt8) (payload : Bytes)
  | group (type inst : UInt8) (children : List IeTree)

inductive Shape where
  | leaf
  | group (children : List Shape)

namespace IeTree

mutual

def ie : IeTree → Ie
  | .leaf type inst payload => { type, inst, payload }
  | .group type inst children => { type, inst, payload := encodeIEs (ies children) }

def ies : List IeTree → List Ie
  | [] => []
  | t :: ts => ie t :: ies ts

end

mutual

def shape : IeTree → Shape
  | .leaf _ _ _ => .leaf
  | .group _ _ children => .group (shapes children)

def shapes : List IeTree → List Shape
  | [] => []
  | t :: ts => shape t :: shapes ts

end

mutual

def Instances : IeTree → Prop
  | .leaf _ inst _ => inst < 16
  | .group _ inst children => inst < 16 ∧ AllInstances children

def AllInstances : List IeTree → Prop
  | [] => True
  | t :: ts => Instances t ∧ AllInstances ts

end

end IeTree

mutual

def decodeTree : Shape → Ie → Option IeTree
  | .leaf, e => some (.leaf e.type e.inst e.payload)
  | .group shapes, e =>
    match decodeIEs e.payload with
    | some ies => (decodeForest shapes ies).map (.group e.type e.inst ·)
    | none => none

def decodeForest : List Shape → List Ie → Option (List IeTree)
  | [], [] => some []
  | s :: shapes, e :: ies =>
    match decodeTree s e, decodeForest shapes ies with
    | some t, some ts => some (t :: ts)
    | _, _ => none
  | _, _ => none

end

theorem payload_lt_encodeIEs {ies : List Ie} (he : e ∈ ies) :
    e.payload.length < (encodeIEs ies).length := by
  obtain ⟨before, after, rfl⟩ := List.append_of_mem he
  simp only [encodeIEs, List.flatMap_append, List.flatMap_cons, List.length_append, Ie.encode,
    putUint16, List.length_cons, List.length_nil]
  omega

theorem inst_and_of_lt (i : UInt8) : i < 16 → i &&& 0x0f = i := by
  revert i
  exact forall_byte (by decide +kernel)

theorem ies_inst (h : IeTree.AllInstances ts) (he : e ∈ IeTree.ies ts)
    : e.inst &&& 0x0f = e.inst := by
  induction ts with
  | nil => cases he
  | cons t ts ih =>
    rw [IeTree.ies, List.mem_cons] at he
    obtain rfl | he := he
    · cases t with
      | leaf type inst payload => exact inst_and_of_lt inst h.1
      | group type inst children => exact inst_and_of_lt inst h.1.1
    · exact ih h.2 he

theorem decodeIEs_ies (h : IeTree.AllInstances ts)
    (hlen : (encodeIEs (IeTree.ies ts)).length < 2 ^ 16) :
    decodeIEs (encodeIEs (IeTree.ies ts)) = some (IeTree.ies ts) := by
  apply decodeIEs_encodeIEs
  intro e he
  have hlt := payload_lt_encodeIEs he
  exact ⟨by omega, ies_inst h he⟩

mutual

theorem decodeTree_ie : ∀ (t : IeTree), t.Instances → t.ie.payload.length < 2 ^ 16 →
    decodeTree t.shape t.ie = some t
  | .leaf type inst payload, _, _ => rfl
  | .group type inst children, h, hlen => by
      have hopen := decodeIEs_ies h.2 hlen
      have hbelow := decodeForest_ies children h.2 hlen
      simp only [IeTree.shape, IeTree.ie, decodeTree, hopen, hbelow, Option.map_some]

theorem decodeForest_ies : ∀ (ts : List IeTree), IeTree.AllInstances ts →
    (encodeIEs (IeTree.ies ts)).length < 2 ^ 16 →
    decodeForest (IeTree.shapes ts) (IeTree.ies ts) = some ts
  | [], _, _ => rfl
  | t :: ts, h, hlen => by
      have hsplit : encodeIEs (IeTree.ies (t :: ts)) =
          t.ie.encode ++ encodeIEs (IeTree.ies ts) := rfl
      have hhead : t.ie.payload.length ≤ t.ie.encode.length := by
        simp only [Ie.encode, List.length_append]
        omega
      rw [hsplit, List.length_append] at hlen
      have ht := decodeTree_ie t h.1 (by omega)
      have hts := decodeForest_ies ts h.2 (by omega)
      simp only [IeTree.shapes, IeTree.ies, decodeForest, ht, hts]

end

/-- What can be sent is read back as it was built, at every depth. -/
theorem trees_survive_encoding (m : Message) (ts : List IeTree) (b : Bytes)
    (hinst : IeTree.AllInstances ts) (hpayload : m.payload = encodeIEs (IeTree.ies ts))
    (hb : m.encode = some b) :
    ∃ m' ies, decodeMessage b = some m' ∧ decodeIEs m'.payload = some ies ∧
      decodeForest (IeTree.shapes ts) ies = some ts := by
  obtain ⟨-, -, hlen, -⟩ := encode_eq_some hb
  have hshort : (encodeIEs (IeTree.ies ts)).length < 2 ^ 16 := by
    rw [← hpayload]
    omega
  refine ⟨_, IeTree.ies ts, decodeMessage_encode hb, ?_, decodeForest_ies ts hinst hshort⟩
  rw [hpayload]
  exact decodeIEs_ies hinst hshort

def bearerTrees : List IeTree :=
  [.leaf ieCause 0 [16, 0],
    .group ieBearerContext 1 [.leaf ieEBI 0 [5], .group ieBearerContext 0 [.leaf ieEBI 2 []]]]

def bearerMessage : Message :=
  { type := msgCreateBearerResp, teid := 7, hasTEID := true, sequence := 1,
    payload := encodeIEs (IeTree.ies bearerTrees) }

theorem bearer_trees_survive :
    bearerMessage.encode.isSome ∧
      ∃ b m' ies, bearerMessage.encode = some b ∧ decodeMessage b = some m' ∧
        decodeIEs m'.payload = some ies ∧
        decodeForest (IeTree.shapes bearerTrees) ies = some bearerTrees := by
  have hsome : bearerMessage.encode.isSome := by decide +kernel
  refine ⟨hsome, ?_⟩
  obtain ⟨b, hb⟩ := Option.isSome_iff_exists.mp hsome
  have hinst : IeTree.AllInstances bearerTrees := by
    simp only [bearerTrees, IeTree.AllInstances, IeTree.Instances]
    decide
  obtain ⟨m', ies, hm', hies, hforest⟩ := trees_survive_encoding bearerMessage bearerTrees b
    hinst rfl hb
  exact ⟨b, m', ies, hb, hm', hies, hforest⟩

end Epdg.S2b
