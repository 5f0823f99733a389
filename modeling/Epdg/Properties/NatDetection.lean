import Epdg.System.Scenario
import Mathlib.Logic.Function.Basic

/-!
NAT detection in IKE_SA_INIT.

The initiator hashes its address with the SPIs of its header, in which the responder SPI is zero.
The handler compares every hash with one over the responder SPI that it has just drawn, and takes
any difference for a NAT.
-/
namespace Epdg.Ikev2
open Bytes
variable {P : Primitives}

def sourceHashes (notifies : List Notification) : List Bytes :=
  (notifies.filter fun n => n.notifyMessageType = natDetectionSourceIP).map
    Notification.notificationData

def initiatorHash (P : Primitives) (spiI : UInt64) (addr : UDPAddr) : Bytes :=
  natHash P spiI 0 addr

def BehindNAT (P : Primitives) (notifies : List Notification) (remote : UDPAddr) (spiI : UInt64) :
    Prop :=
  sourceHashes notifies ≠ [] ∧ initiatorHash P spiI remote ∉ sourceHashes notifies

theorem detectNAT_iff (P : Primitives) (notifies : List Notification) (remote : UDPAddr)
    (spiI spiR : UInt64) :
    detectNAT P notifies remote spiI spiR = true ↔
      ∃ h ∈ sourceHashes notifies, h ≠ natHash P spiI spiR remote := by
  simp only [detectNAT, sourceHashes, List.any_eq_true, Bool.and_eq_true, decide_eq_true_eq,
    List.mem_map, List.mem_filter]
  grind

theorem natHash_injective (hinj : Function.Injective P.sha1) {spiI r r' : UInt64} {addr : UDPAddr}
    (h : natHash P spiI r addr = natHash P spiI r' addr) : r = r' := by
  have hbytes := hinj h
  rw [List.append_left_inj, List.append_left_inj, List.append_right_inj] at hbytes
  exact putUint64_injective hbytes

def DecidesRightly (P : Primitives) (notifies : List Notification) (remote : UDPAddr)
    (spiI spiR : UInt64) : Prop :=
  sourceHashes notifies = [] ∨
  (spiR = 0 ∧ ((∀ h ∈ sourceHashes notifies, h = initiatorHash P spiI remote) ∨
    initiatorHash P spiI remote ∉ sourceHashes notifies)) ∨
  (spiR ≠ 0 ∧ initiatorHash P spiI remote ∉ sourceHashes notifies ∧
    ∃ h ∈ sourceHashes notifies, h ≠ natHash P spiI spiR remote)

theorem detectNAT_right_iff (hinj : Function.Injective P.sha1) (notifies : List Notification)
    (remote : UDPAddr) (spiI spiR : UInt64) :
    (detectNAT P notifies remote spiI spiR = true ↔ BehindNAT P notifies remote spiI) ↔
      DecidesRightly P notifies remote spiI spiR := by
  rw [detectNAT_iff, BehindNAT, DecidesRightly]
  generalize sourceHashes notifies = hashes
  cases hashes with
  | nil => exact iff_of_true (iff_of_false (fun ⟨_, h, _⟩ => nomatch h) fun h => h.1 rfl) (.inl rfl)
  | cons h0 hashes =>
    simp only [reduceCtorEq, ne_eq, not_false_eq_true, true_and, false_or]
    by_cases hr : spiR = 0
    · subst hr
      -- the handler computes the hash of the initiator
      simp only [not_true_eq_false, false_and, or_false, true_and]
      constructor
      · grind
      · rintro (hall | hnot)
        · refine iff_of_false (fun ⟨h, hmem, hne⟩ => hne (hall h hmem)) fun hnot => hnot ?_
          simp_all
        · refine iff_of_true ⟨h0, List.mem_cons_self, fun heq => hnot ?_⟩ hnot
          rw [initiatorHash, ← heq]
          grind
    · simp only [hr, false_and, false_or, not_false_eq_true, true_and]
      have hdiff : natHash P spiI spiR remote ≠ initiatorHash P spiI remote := fun heq =>
        hr (natHash_injective hinj heq)
      grind

/-- On port 500 the SA that a request creates is marked as behind a NAT exactly when the hashes of
the initiator say so, under the condition of `DecidesRightly` and not otherwise. -/
theorem nat_detected_iff {S : Server} {w : World} {env : Env} {remote : UDPAddr} {pkt : Bytes}
    {hdr : IKEHeader} {req : InitRequest} {sa : SecurityAssociation} {ke : KeyExchange}
    {prop : NegotiatedProposal} {propNum : UInt8} {nonceI nonceR priv shared : Bytes}
    {spiR : UInt64} {resp : Bytes} (hinj : Function.Injective S.prims.sha1)
    (hp : InitPasses S w env remote pkt hdr req sa ke prop propNum nonceI nonceR priv shared
      spiR resp) :
    ∃ stored, (handleIKESAInit S w env remote pkt hdr false).lookupSA hdr.initiatorSPI =
        some stored ∧
      ((stored.natT = true ↔ BehindNAT S.prims req.notifies remote hdr.initiatorSPI) ↔
        DecidesRightly S.prims req.notifies remote hdr.initiatorSPI spiR) := by
  refine ⟨initSA S (touchCookies S w env) env remote pkt hdr false req prop nonceI nonceR shared
    spiR resp, ?_, ?_⟩
  · rw [handleIKESAInit_of_passes hp]
    simp only [World.lookupSA_emit, World.lookupSA_allocRef, World.lookupSA_storeSA]
    exact if_pos rfl
  · rw [← detectNAT_right_iff hinj]
    simp only [initSA, Bool.false_or]

section Runs
open Scenario Wire

def hashing : Server := { server with prims := { prims with sha1 := fun b => b } }

def hashedMessage (hashes : List Bytes) : Bytes :=
  let chain : Chain :=
    [(typeSA, encodeSA (offerIKE [])), (typeKE, encodeKE (keOf 1)), (typeNiNr, nonceOf 1)] ++
      hashes.map fun h => (typeN, encodeN ⟨natDetectionSourceIP, h⟩)
  message (initHeader 0x11) (encodeChain chain)

def hashedRequest (hashes : List Bytes) : InitRequest :=
  { sa := some (offerIKE []), ke := some (keOf 1), nonce := some (nonceOf 1)
    notifies := hashes.map (⟨natDetectionSourceIP, ·⟩) }

def ueHash : Bytes := natHash hashing.prims 0x11 0 ue

def privateHash : Bytes := natHash hashing.prims 0x11 0 ⟨.v4 0x0a000001, 500⟩

theorem hashed_passes (hashes : List Bytes)
    (h : (decodeInit (initHeader 0x11) ((hashedMessage hashes).drop ikeHeaderLen)).map
      collectInit = some (hashedRequest hashes)) :
    InitPasses hashing (World.initial [1] 0) draws ue (hashedMessage hashes) (initHeader 0x11)
      (hashedRequest hashes) (offerIKE []) (keOf 1) ⟨.ecp256, .aesGcm16_256, none, .sha256⟩ 1
      (nonceOf 1) (nonceOf 4) (nonceOf 5) (nonceOf 5 ++ List.replicate 16 1) 0x29
      (encodeInit 0x11 0x29 0 [buildIKESAPayload ⟨.ecp256, .aesGcm16_256, none, .sha256⟩ 1 []]
        ⟨19, nonceOf 5⟩ (nonceOf 4) (natNotifies hashing.prims draws ue 0x11 0x29)) where
  flags := by decide
  notRetransmit _ hl := nomatch hl
  decoded := h
  payloads := ⟨rfl, rfl, rfl⟩
  cookie := rfl
  load := by decide
  proposal := by decide
  group := rfl
  draws := ⟨rfl, rfl, rfl⟩
  dh := rfl
  encoded := rfl

/-- A UE behind a NAT is taken for one. -/
theorem natted_detected :
    ∃ stored, (handleIKESAInit hashing (World.initial [1] 0) draws ue
        (hashedMessage [privateHash]) (initHeader 0x11) false).lookupSA 0x11 = some stored ∧
      (stored.natT = true ↔
        BehindNAT hashing.prims (hashedRequest [privateHash]).notifies ue 0x11) := by
  obtain ⟨stored, hl, hiff⟩ := nat_detected_iff (S := hashing) Function.injective_id
    (hashed_passes [privateHash] (by decide +kernel))
  refine ⟨stored, hl, hiff.mpr (.inr (.inr ⟨by decide, by decide +kernel, ?_⟩))⟩
  exact ⟨privateHash, by decide +kernel, by decide +kernel⟩

/-- A UE that is not behind a NAT hashes its address with responder SPI zero, as it must, and is
taken to be behind one. -/
theorem unnatted_detected :
    ((handleIKESAInit hashing (World.initial [1] 0) draws ue (hashedMessage [ueHash])
        (initHeader 0x11) false).lookupSA 0x11).map IkeSA.natT = some true ∧
      (initHeader 0x11).responderSPI = 0 ∧
      ¬ BehindNAT hashing.prims (hashedRequest [ueHash]).notifies ue 0x11 := by
  refine ⟨by decide +kernel, rfl, fun h => h.2 ?_⟩
  decide +kernel

end Runs
end Epdg.Ikev2
