import Epdg.System.Invariants
import Epdg.System.Scenario

/-!
What a packet that does not decrypt leaves behind on the SA it names.

All three handlers write to the SA before they decrypt: the time of the last message,
for IKE_AUTH also the peer address, and for INFORMATIONAL the outstanding probe. The
answer to a probe is never decrypted at all.
-/
namespace Epdg
open Ikev2

section
variable {S : Server} {w : World} {env : Env} {remote : UDPAddr} {pkt : Bytes}
  {hdr : IKEHeader} {sa : IkeSA}

private theorem stored_unchanged_iff {sa' : IkeSA} (hspi : sa'.spiI = sa.spiI) :
    (w.storeSA sa').lookupSA sa.spiI = some sa ↔ sa' = sa := by
  simp_all

private theorem heard_eq_iff : sa.heard remote env.now = sa ↔
    remote = sa.remoteAddr ∧ env.now = sa.lastSeen := by
  constructor
  · intro h
    exact ⟨congrArg IkeSA.remoteAddr h, congrArg IkeSA.lastSeen h⟩
  · rintro ⟨rfl, hnow⟩
    unfold IkeSA.heard
    rw [hnow]

private theorem refreshed_eq_iff : sa.refreshed env.now = sa ↔ env.now = sa.lastSeen := by
  constructor
  · intro h
    exact congrArg IkeSA.lastSeen h
  · intro hnow
    unfold IkeSA.refreshed
    rw [hnow]

private theorem seen_eq_iff : sa.seen env.now = sa ↔
    sa.dpdSentAt = none ∧ env.now = sa.lastSeen := by
  unfold IkeSA.seen
  cases hd : sa.dpdSentAt with
  | none => simp [refreshed_eq_iff]
  | some t => grind

theorem handleIKEAuth_undecrypted (natt : Bool) (hl : w.lookupSA sa.spiI = some sa)
    (hsel : hdr.initiatorSPI = sa.spiI) (hfail : decryptSK S.prims sa.saKey pkt = none) :
    (handleIKEAuth S w env remote pkt hdr natt).lookupSA sa.spiI = some sa ↔
      hdr.initiatorBit = false ∨ hdr.responseBit = true ∨ sa.mu = true ∨ sa.state ≠ .auth ∨
        (remote = sa.remoteAddr ∧ env.now = sa.lastSeen) := by
  have hopen : openAuth S (sa.heard remote env.now).saKey pkt = none := by
    unfold openAuth
    rw [show (sa.heard remote env.now).saKey = sa.saKey from rfl, hfail]
    rfl
  unfold handleIKEAuth
  split
  · grind
  rename_i hflags
  rw [hsel, hl]
  dsimp only
  unfold handleIKEAuthOn
  split
  · grind
  rename_i hst
  dsimp only
  rw [hopen]
  dsimp only
  have hspi : (sa.heard remote env.now).spiI = sa.spiI := rfl
  rw [stored_unchanged_iff hspi, heard_eq_iff]
  simp_all

section
variable (hl : w.lookupSA sa.spiI = some sa) (hsel : hdr.initiatorSPI = sa.spiI)
  (hfail : decryptSK S.prims sa.saKey pkt = none)
include hl hsel hfail

theorem handleInformational_undecrypted :
    (handleInformational S w env remote pkt hdr).lookupSA sa.spiI = some sa ↔
      (hdr.responseBit = true ∧
        (hdr.initiatorBit = false ∨ sa.mu = true ∨
          ¬ (sa.dpdSentAt.isSome = true ∧ hdr.messageID = sa.dpdMsgID))) ∨
      (hdr.responseBit = false ∧
        (sa.mu = true ∨ sa.state = .deleting ∨
          (sa.dpdSentAt = none ∧ env.now = sa.lastSeen))) := by
  have hid := SameIdentity.of_core (seen_core sa env.now)
  have hopen : openInfo S (sa.seen env.now).saKey pkt = none := by
    unfold openInfo
    rw [hid.saKey, hfail]
    rfl
  unfold handleInformational
  split
  · simp_all
  rename_i hflags
  rw [hsel, hl]
  dsimp only
  unfold handleInformationalOn
  split
  · simp_all
  rename_i hmu
  split
  · rename_i hresp
    split
    · rename_i hprobe
      have hsome : sa.dpdSentAt ≠ none := by grind
      rw [stored_unchanged_iff hid.spiI, seen_eq_iff]
      simp_all
    · simp_all
  · rename_i hresp
    split
    · simp_all
    rename_i hdel
    dsimp only
    rw [hopen]
    dsimp only
    rw [stored_unchanged_iff hid.spiI, seen_eq_iff]
    grind

theorem handleCreateChildSA_undecrypted :
    (handleCreateChildSA S w env remote pkt hdr).lookupSA sa.spiI = some sa ↔
      sa.mu = true ∨ sa.state ≠ .established ∨ env.now = sa.lastSeen := by
  have hopen : openChild S (sa.refreshed env.now).saKey pkt = none := by
    unfold openChild
    rw [show (sa.refreshed env.now).saKey = sa.saKey from rfl, hfail]
    rfl
  unfold handleCreateChildSA
  rw [hsel, hl]
  dsimp only
  unfold handleCreateChildSAOn
  split
  · grind
  rename_i hst
  dsimp only
  rw [hopen]
  dsimp only
  have hspi : (sa.refreshed env.now).spiI = sa.spiI := rfl
  rw [stored_unchanged_iff hspi, refreshed_eq_iff]
  simp_all

end

/-- A packet that does not decrypt leaves the SA it names as it is exactly when the handler
returns before it writes: on flags or states it does not accept, or when what it writes
(peer address, time, no outstanding probe) is there already. -/
theorem undecrypted_unchanged_iff (natt : Bool) (hl : w.lookupSA sa.spiI = some sa)
    (hsel : hdr.initiatorSPI = sa.spiI) (hfail : decryptSK S.prims sa.saKey pkt = none) :
    ((handleIKEAuth S w env remote pkt hdr natt).lookupSA sa.spiI = some sa ↔
      hdr.initiatorBit = false ∨ hdr.responseBit = true ∨ sa.mu = true ∨ sa.state ≠ .auth ∨
        (remote = sa.remoteAddr ∧ env.now = sa.lastSeen)) ∧
    ((handleInformational S w env remote pkt hdr).lookupSA sa.spiI = some sa ↔
      (hdr.responseBit = true ∧
        (hdr.initiatorBit = false ∨ sa.mu = true ∨
          ¬ (sa.dpdSentAt.isSome = true ∧ hdr.messageID = sa.dpdMsgID))) ∨
      (hdr.responseBit = false ∧
        (sa.mu = true ∨ sa.state = .deleting ∨
          (sa.dpdSentAt = none ∧ env.now = sa.lastSeen)))) ∧
    ((handleCreateChildSA S w env remote pkt hdr).lookupSA sa.spiI = some sa ↔
      sa.mu = true ∨ sa.state ≠ .established ∨ env.now = sa.lastSeen) :=
  ⟨handleIKEAuth_undecrypted natt hl hsel hfail, handleInformational_undecrypted hl hsel hfail,
    handleCreateChildSA_undecrypted hl hsel hfail⟩

end

section Runs
open Scenario

def bare (exch : UInt8) (flags : UInt8) : IKEHeader := ⟨0x11, 0x21, 46, exch, flags, 7⟩

def probed : List Input := attached ++ [⟨.dpd 0x11, { now := 40 * Config.second }⟩]

/-- On an established SA a bare header for IKE_AUTH is ignored, and so are an unsolicited
answer to a probe and, at the very time of the last message, a CREATE_CHILD_SA request. -/
theorem undecrypted_unchanged_attached :
    (handleIKEAuth server (after attached) draws ueMoved [] (bare exchIKEAuth 0x08)
      false).lookupSA 0x11 = some attachedSA ∧
    (handleInformational server (after attached) draws ueMoved []
      (bare exchInformational 0x28)).lookupSA 0x11 = some attachedSA ∧
    (handleCreateChildSA server (after attached) { draws with now := 4 } ueMoved []
      (bare exchCreateChildSA 0x08)).lookupSA 0x11 = some attachedSA := by
  have hl : (after attached).lookupSA attachedSA.spiI = some attachedSA := by decide +kernel
  have hspi : (0x11 : UInt64) = attachedSA.spiI := by decide +kernel
  have hfail : decryptSK server.prims attachedSA.saKey [] = none :=
    decryptSK_short server.prims (by decide)
  rw [hspi]
  refine ⟨(undecrypted_unchanged_iff false hl hspi hfail).1.mpr ?_,
    (undecrypted_unchanged_iff false hl hspi hfail).2.1.mpr ?_,
    (undecrypted_unchanged_iff false hl hspi hfail).2.2.mpr ?_⟩
  · exact .inr (.inr (.inr (.inl (by decide +kernel))))
  · exact .inl (by decide +kernel)
  · exact .inr (.inr (by decide +kernel))

/-- Bytes that decrypt under no key move a half-open SA to the sender's address, make a dead
UE look alive, and take away the outstanding probe of DPD. -/
theorem undecrypted_changes_sa :
    (∀ k, decryptSK server.prims k [] = none) ∧
    ((handleIKEAuth server (after (Attach.authenticated {})) draws ueMoved []
        (bare exchIKEAuth 0x08) false).lookupSA 0x11).map IkeSA.remoteAddr ≠
      ((after (Attach.authenticated {})).lookupSA 0x11).map IkeSA.remoteAddr ∧
    ((handleInformational server (after probed) draws ueMoved []
        (bare exchInformational 0x08)).lookupSA 0x11).map IkeSA.dpdSentAt ≠
      ((after probed).lookupSA 0x11).map IkeSA.dpdSentAt ∧
    ((handleCreateChildSA server (after attached) draws ueMoved []
        (bare exchCreateChildSA 0x08)).lookupSA 0x11).map IkeSA.lastSeen ≠
      ((after attached).lookupSA 0x11).map IkeSA.lastSeen := by
  refine ⟨fun k => decryptSK_short server.prims (by decide), ?_, ?_, ?_⟩ <;> decide +kernel

end Runs
end Epdg
