import Epdg.Properties.Mobike

/-!
What a MOBIKE migration leaves behind when it fails.

The CHILD SA at the old address is removed before the one at the new address is installed. A failed
install undoes what it added, but nothing puts the old states and policies back; the SA still has
the old address.
-/
namespace Epdg

namespace Xfrm
variable {faults : Nat → Bool} {new old : ChildSAParams}

structure Absent (k : Kernel) (p : ChildSAParams) : Prop where
  inState : k.states.lookup p.pair.inKey = none
  outState : k.states.lookup p.pair.outKey = none
  inPol : k.policies.lookup p.inPol = none
  fwdPol : k.policies.lookup p.fwdPol = none
  outPol : k.policies.lookup p.outPol = none

variable {k k' : Kernel} {p : ChildSAParams}

theorem Kernel.SameEntries.right_iff {k0 : Kernel} (h : k.SameEntries k') :
    k0.SameEntries k' ↔ k0.SameEntries k :=
  ⟨fun h0 => ⟨fun key => (h.1 key).symm.trans (h0.1 key), fun key =>
    (h.2 key).symm.trans (h0.2 key)⟩, fun h0 => h0.trans h⟩

theorem removeChildSA_same_iff (hfam : sameFamily p.localIP p.remoteIP = true) :
    k.SameEntries (removeChildSA k p) ↔ Absent k p := by
  obtain ⟨hstates, hpolicies⟩ := removeChildSA_lookup (k := k) hfam
  constructor
  · rintro ⟨hs, hp⟩
    have hstate : ∀ key, key = p.pair.inKey ∨ key = p.pair.outKey →
        k.states.lookup key = none := by
      grind
    have hpolicy : ∀ key, key = p.inPol ∨ key = p.fwdPol ∨ key = p.outPol →
        k.policies.lookup key = none := by
      grind
    exact ⟨hstate _ (.inl rfl), hstate _ (.inr rfl), hpolicy _ (.inl rfl),
      hpolicy _ (.inr (.inl rfl)), hpolicy _ (.inr (.inr rfl))⟩
  · intro h
    refine ⟨fun key => ?_, fun key => ?_⟩
    · rw [hstates key]
      split
      · rename_i heq
        rw [heq, h.inState]
      split
      · rename_i heq
        rw [heq, h.outState]
      · rfl
    · rw [hpolicies key]
      split
      · rename_i hkey
        rcases hkey with rfl | rfl | rfl
        · exact h.inPol.symm
        · exact h.fwdPol.symm
        · exact h.outPol.symm
      · rfl

theorem migrateChildSA_fail (h : migrateChildSA k faults old new = (k', false))
    : (removeChildSA k old).SameEntries k' :=
  installChildSA_fail h

theorem migrateChildSA_fail_iff (h : migrateChildSA k faults old new = (k', false)) :
    k.SameEntries k' ↔ sameFamily old.localIP old.remoteIP = false ∨ Absent k old := by
  rw [(migrateChildSA_fail h).right_iff]
  cases hfam : sameFamily old.localIP old.remoteIP with
  | false =>
    have hsame : removeChildSA k old = k := by simp [removeChildSA, hfam]
    rw [hsame]
    exact iff_of_true (.refl k) (.inl rfl)
  | true =>
    rw [removeChildSA_same_iff hfam]
    simp_all

end Xfrm

namespace Ikev2
open Xfrm
variable {S : Server} {w : World} {env : Env} {remote : UDPAddr} {sa : IkeSA}
  {prop : ChildProposal} {localIP : IP} {incoming expected : Bytes}

def NothingRemoved (P : Primitives) (w : World) (sa : IkeSA) (prop : ChildProposal) (localIP : IP)
    (remote : UDPAddr) : Prop :=
  sa.remoteAddr.ip.isV4 ≠ remote.ip.isV4 ∨ sameFamily localIP sa.remoteAddr.ip = false ∨
    Absent w.xfrm (mobikeParams P w sa prop localIP sa.remoteAddr)

theorem migrateMobikeXFRM_fail
    (h : (migrateMobikeXFRM S.prims w env sa prop localIP remote).2 = false) :
    (∀ spi, (migrateMobikeXFRM S.prims w env sa prop localIP remote).1.lookupSA spi =
      w.lookupSA spi) ∧
    (w.xfrm.SameEntries (migrateMobikeXFRM S.prims w env sa prop localIP remote).1.xfrm ↔
      NothingRemoved S.prims w sa prop localIP remote) := by
  unfold migrateMobikeXFRM at h ⊢
  by_cases hcross : sa.remoteAddr.ip.isV4 ≠ remote.ip.isV4
  · rw [if_pos hcross]
    exact ⟨fun _ => rfl, iff_of_true (.refl _) (.inl hcross)⟩
  rw [if_neg hcross] at h ⊢
  cases hm : migrateChildSA w.xfrm env.xfrmFaults
      (mobikeParams S.prims w sa prop localIP sa.remoteAddr)
      (mobikeParams S.prims w sa prop localIP remote) with
  | mk k ok =>
    simp only [hm] at h ⊢
    cases ok with
    | true => cases h
    | false =>
      refine ⟨fun _ => rfl, ?_⟩
      rw [NothingRemoved, or_iff_right hcross]
      exact migrateChildSA_fail_iff hm

/-- A migration that fails leaves the SA as it is, with its address; the states and policies at the
old address are still there exactly when the kernel was not touched. -/
theorem failed_migration_iff (S : Server) (env : Env) (remote : UDPAddr) (msgID : UInt32)
    (hl : w.lookupSA sa.spiI = some sa) (hprop : sa.espProp = some prop)
    (hlocal : sa.localIP = some localIP) (hcookie : sa.cookie2 = some expected)
    (hecho : incoming ≠ []) (heq : Bytes.constEqual incoming expected = true)
    (hfail : (migrateMobikeXFRM S.prims w env sa prop localIP remote).2 = false) :
    (handleUpdateSA S w env remote sa msgID incoming).lookupSA sa.spiI = some sa ∧
      (w.xfrm.SameEntries (handleUpdateSA S w env remote sa msgID incoming).xfrm ↔
        NothingRemoved S.prims w sa prop localIP remote) := by
  obtain ⟨hsas, hkernel⟩ := migrateMobikeXFRM_fail hfail
  have hrun : handleUpdateSA S w env remote sa msgID incoming = respondEmpty
      (migrateMobikeXFRM S.prims w env sa prop localIP remote).1 env remote sa msgID := by
    simp only [handleUpdateSA, hprop, hlocal, hcookie, if_neg hecho, heq, mobikeMigrate]
    cases hm : migrateMobikeXFRM S.prims w env sa prop localIP remote with
    | mk w1 ok =>
      rw [hm] at hfail
      simp only at hfail
      simp [hfail]
  rw [hrun, respondEmpty]
  refine ⟨?_, ?_⟩
  · rw [lookupSA_respond, hsas, hl]
  · rw [respond_xfrm]
    exact hkernel

section Runs
open Scenario

def movingSA : IkeSA := ((after announcedMove).lookupSA 0x11).get (by decide +kernel)


def gcmProposal : ChildProposal := ⟨.aesGcm16_256, none, none⟩

theorem movingSA_fields : movingSA.spiI = 0x11 ∧ movingSA.espProp = some gcmProposal ∧
    movingSA.localIP = some gateway ∧ movingSA.cookie2 = some (nonceOf 12) := by
  decide +kernel

theorem lookupSA_movingSA : (after announcedMove).lookupSA movingSA.spiI = some movingSA := by
  rw [movingSA_fields.1]
  simp [movingSA]

def firstAddFails : Env := { now := 11, xfrmFaults := fun i => i = 0 }

def ueV6 : UDPAddr := ⟨.v6 0x20010db800000000 1, 500⟩

/-- A move to another address family is refused and leaves the kernel as it was. -/
theorem cross_family_kept :
    (handleUpdateSA server (after announcedMove) firstAddFails ueV6 movingSA 8
        (nonceOf 12)).lookupSA movingSA.spiI = some movingSA ∧
      (after announcedMove).xfrm.SameEntries
        (handleUpdateSA server (after announcedMove) firstAddFails ueV6 movingSA 8
          (nonceOf 12)).xfrm := by
  obtain ⟨-, hprop, hlocal, hcookie⟩ := movingSA_fields
  have h := failed_migration_iff server firstAddFails ueV6 8 lookupSA_movingSA hprop hlocal hcookie
    (show nonceOf 12 ≠ [] by decide) (by decide) (by decide +kernel)
  exact ⟨h.1, h.2.mpr (.inl (by decide +kernel))⟩

/-- The first add at the new address fails: the inbound state at the old address is gone. -/
theorem failed_migration_removes :
    Reachable server (after announcedMove) ∧
      (migrateMobikeXFRM server.prims (after announcedMove) firstAddFails movingSA gcmProposal
        gateway ueMoved).2 = false ∧
      ¬ (after announcedMove).xfrm.SameEntries
        (handleUpdateSA server (after announcedMove) firstAddFails ueMoved movingSA 8
          (nonceOf 12)).xfrm := by
  refine ⟨after_reachable _, by decide +kernel, fun h => ?_⟩
  have hgone : ((after announcedMove).xfrm.states.lookup
        ⟨ue.ip, gateway, movingSA.localESPSPI⟩).isSome = true ∧
      ((handleUpdateSA server (after announcedMove) firstAddFails ueMoved movingSA 8
        (nonceOf 12)).xfrm.states.lookup ⟨ue.ip, gateway, movingSA.localESPSPI⟩).isSome =
        false := by
    decide +kernel
  rw [h.1, hgone.1] at hgone
  cases hgone.2

end Runs
end Ikev2
end Epdg
