import Epdg.Lib.Ledger
import Epdg.System.Invariants

/-!
CHILD SAs as resources: the states in the kernel, and the SAs that record them.

An SA has room for two CHILD SAs, its current one and a pending one. The ledger below
relates what the SAs record in these two places to the states in the kernel.
-/
namespace Epdg
open Ikev2
variable {key : Xfrm.StateKey} {st : Xfrm.XfrmState} {r : ChildRecord} {s s0 : Slot}
  {k : Xfrm.Kernel} {p : Xfrm.ChildSAParams} {strOpen : Bool} {k0 : UInt64} {new : IkeSA}

inductive Slot where
  | current | pending
  deriving DecidableEq, Repr

structure ChildRecord where
  home : Option IP
  pair : Xfrm.EspPair
  deriving DecidableEq, Repr

namespace Ikev2.IkeSA

def pairAt (sa : IkeSA) : Slot → IP → Xfrm.EspPair
  | .current => sa.currentPair
  | .pending => sa.pendingPair

def hasSlot (sa : IkeSA) : Slot → Bool
  | .current => sa.espProp.isSome && sa.localESPSPI != 0
  | .pending => sa.pendingESPProp.isSome

def slot (sa : IkeSA) (s : Slot) : Option ChildRecord :=
  if sa.hasSlot s then some ⟨sa.localIP, sa.pairAt s (sa.localIP.getD IP.ipv4zero)⟩ else none

theorem slot_eq_some {sa : IkeSA} {s : Slot} {r : ChildRecord} :
    sa.slot s = some r ↔
      sa.hasSlot s = true ∧ r = ⟨sa.localIP, sa.pairAt s (sa.localIP.getD IP.ipv4zero)⟩ := by
  simp only [slot]
  grind

end Ikev2.IkeSA

def childLedger (w : World) : Ledger (UInt64 × Slot) ChildRecord Xfrm.StateKey where
  holds h r := ∃ sa, w.lookupSA h.1 = some sa ∧ sa.slot h.2 = some r
  inPlace key := (w.xfrm.states.lookup key).map fun st => ⟨some st.child.localIP, st.child⟩

def Sits (r : ChildRecord) (key : Xfrm.StateKey) : Prop :=
  Xfrm.sameFamily r.pair.localIP r.pair.remoteIP = true ∧
    (key = r.pair.inKey ∨ key = r.pair.outKey)

def Apart (r r' : ChildRecord) : Prop :=
  r.pair.inboundSPI ≠ r'.pair.inboundSPI ∧ r.pair.outKey ≠ r'.pair.outKey ∧
    r.pair.inKey ≠ r'.pair.outKey ∧ r.pair.outKey ≠ r'.pair.inKey

theorem Apart.symm (r r' : ChildRecord) (h : Apart r r') : Apart r' r :=
  ⟨h.1.symm, h.2.1.symm, h.2.2.2.symm, h.2.2.1.symm⟩

theorem Apart.irrefl (r : ChildRecord) : ¬ Apart r r := fun h => h.1 rfl

theorem Apart.not_sits (r r' : ChildRecord) (key : Xfrm.StateKey) (h : Apart r r')
    (hr : Sits r key) : ¬ Sits r' key := by
  have hin : r.pair.inKey ≠ r'.pair.inKey := fun he =>
    h.1 (congrArg Xfrm.StateKey.spi he)
  rintro ⟨-, hr'⟩
  rcases hr.2 with rfl | rfl
  · rcases hr' with he | he
    · exact hin he
    · exact h.2.2.1 he
  · rcases hr' with he | he
    · exact h.2.2.2 he
    · exact h.2.1 he

def SlotsOk (sa : IkeSA) : Prop :=
  (sa.state = .auth → sa.localESPSPI = 0 ∧ sa.pendingESPProp = none) ∧
    (sa.state ≠ .auth → sa.espProp.isSome = true → sa.localESPSPI ≠ 0) ∧
    (sa.pendingESPProp.isSome = true → sa.pendingLocalESPSPI ≠ 0)

structure PairInv (w : World) : Prop where
  base : Base w
  slots : ∀ k sa, w.lookupSA k = some sa → SlotsOk sa
  exact : (childLedger w).Exact Apart Sits

section
variable {S : Server} {P : Primitives} {env : Env} {allowed : Triggers}
  {w w' : World} {sa sa' : IkeSA}

theorem SlotsOk.slot_auth (h : SlotsOk sa) (hs : sa.state = .auth) (s : Slot) :
    sa.slot s = none := by
  obtain ⟨hspi, hpend⟩ := h.1 hs
  cases s with
  | current => simp [IkeSA.slot, IkeSA.hasSlot, hspi]
  | pending => simp [IkeSA.slot, IkeSA.hasSlot, hpend]

theorem SlotsOk.of_auth (hs : sa.state = .auth) (hspi : sa.localESPSPI = 0)
    (hpend : sa.pendingESPProp = none) : SlotsOk sa :=
  ⟨fun _ => ⟨hspi, hpend⟩, fun h => (h hs).elim, fun h => by rw [hpend] at h; cases h⟩

theorem slot_installed {c : Xfrm.EspPair} (h : sa.slot s = some ⟨some c.localIP, c⟩) :
    sa.hasSlot s = true ∧ sa.localIP = some c.localIP ∧ c = sa.pairAt s c.localIP := by
  obtain ⟨hs, hr⟩ := IkeSA.slot_eq_some.mp h
  grind

theorem removeStates_frees (pair : IP → Xfrm.EspPair)
    (h : (removeStates w sa pair).xfrm.states.lookup key = some st) :
    w.xfrm.states.lookup key = some st ∧
      ∀ ip, sa.localIP = some ip → ¬ Sits ⟨some ip, pair ip⟩ key := by
  simp only [removeStates] at h
  cases hip : sa.localIP with
  | none => simp_all
  | some ip =>
    rw [hip] at h
    refine ⟨Xfrm.removeChildSAStates_le h, ?_⟩
    rintro ip' he ⟨hfam, hkey⟩
    cases he
    have hl : (Xfrm.removeChildSAStates w.xfrm (sa.stateParams (pair ip))).states.lookup key =
        some st := h
    rw [Xfrm.lookup_removeChildSAStates key hfam] at hl
    rcases hkey with rfl | rfl
    · simp at hl
    · simp at hl

theorem removeXFRMChildSA_frees (h : (removeXFRMChildSA P w sa).xfrm.states.lookup key = some st) :
    w.xfrm.states.lookup key = some st ∧ ∀ ip, sa.localIP = some ip →
      sa.hasSlot .current = true → ¬ Sits ⟨some ip, sa.currentPair ip⟩ key := by
  simp only [removeXFRMChildSA] at h
  cases hprop : sa.espProp with
  | none =>
    rw [hprop] at h
    exact ⟨h, fun ip _ hs => by simp [IkeSA.hasSlot, hprop] at hs⟩
  | some prop =>
    cases hip : sa.localIP with
    | none => simp_all
    | some ip =>
      rw [hprop, hip] at h
      dsimp only at h
      split at h
      · rename_i hz
        exact ⟨h, fun ip _ hs => by simp [IkeSA.hasSlot, hz] at hs⟩
      refine ⟨(Xfrm.removeChildSA_le _ _).1 key st h, ?_⟩
      rintro ip' he - ⟨hfam, hkey⟩
      cases he
      rw [World.setKernel_xfrm, (Xfrm.removeChildSA_lookup hfam).1, childParams_pair] at h
      simp_all

theorem removePendingStates_frees
    (h : (removePendingStates w sa).xfrm.states.lookup key = some st) :
    w.xfrm.states.lookup key = some st ∧ ∀ ip, sa.localIP = some ip →
      sa.hasSlot .pending = true → ¬ Sits ⟨some ip, sa.pendingPair ip⟩ key := by
  cases hpend : sa.pendingESPProp with
  | none =>
    simp only [removePendingStates, hpend] at h
    exact ⟨h, fun ip _ hs => by simp [IkeSA.hasSlot, hpend] at hs⟩
  | some prop =>
    have he : removePendingStates w sa = removeStates w sa sa.pendingPair := by
      cases hip : sa.localIP <;> simp [removePendingStates, removeStates, hpend, hip]
    rw [he] at h
    obtain ⟨hl, hno⟩ := removeStates_frees _ h
    simp_all

theorem fullTeardown_frees (h : (fullTeardown P strOpen w sa).xfrm.states.lookup key = some st) :
    w.xfrm.states.lookup key = some st ∧
      ∀ s, sa.slot s = some ⟨some st.child.localIP, st.child⟩ →
        ¬ Sits ⟨some st.child.localIP, st.child⟩ key := by
  obtain ⟨w1, ha, he⟩ := fullTeardown_frame P strOpen w sa
  rw [he, World.deleteSA_xfrm, ha.xfrm] at h
  obtain ⟨h1, hpend⟩ := removePendingStates_frees h
  obtain ⟨h2, hcur⟩ := removeXFRMChildSA_frees h1
  refine ⟨h2, ?_⟩
  intro s hs
  obtain ⟨hhas, hip, hc⟩ := slot_installed hs
  rw [hc]
  cases s with
  | current => exact hcur _ hip hhas
  | pending => exact hpend _ hip hhas

theorem removeChildSAStates_keeps (h : ¬ Sits ⟨some p.localIP, p.pair⟩ key) :
    (Xfrm.removeChildSAStates k p).states.lookup key = k.states.lookup key := by
  by_cases hfam : Xfrm.sameFamily p.localIP p.remoteIP = true
  · rw [Xfrm.lookup_removeChildSAStates key hfam, if_neg, if_neg]
    · exact fun he => h ⟨hfam, .inr he⟩
    · exact fun he => h ⟨hfam, .inl he⟩
  · simp [Xfrm.removeChildSAStates, hfam]

theorem removeChildSA_keeps (h : ¬ Sits ⟨some p.localIP, p.pair⟩ key) :
    (Xfrm.removeChildSA k p).states.lookup key = k.states.lookup key := by
  by_cases hfam : Xfrm.sameFamily p.localIP p.remoteIP = true
  · rw [(Xfrm.removeChildSA_lookup hfam).1, if_neg, if_neg]
    · exact fun he => h ⟨hfam, .inr he⟩
    · exact fun he => h ⟨hfam, .inl he⟩
  · simp [Xfrm.removeChildSA, hfam]

theorem fullTeardown_keeps (h : ∀ s r, sa.slot s = some r → ¬ Sits r key) :
    (fullTeardown P strOpen w sa).xfrm.states.lookup key = w.xfrm.states.lookup key := by
  obtain ⟨w1, ha, he⟩ := fullTeardown_frame P strOpen w sa
  rw [he, World.deleteSA_xfrm, ha.xfrm]
  have hrecorded {ip : IP} (s : Slot) (hip : sa.localIP = some ip) (hhas : sa.hasSlot s = true) :
      ¬ Sits ⟨some ip, sa.pairAt s ip⟩ key :=
    h s _ (IkeSA.slot_eq_some.mpr ⟨hhas, by rw [hip]; rfl⟩)
  have hcur : (removeXFRMChildSA P w sa).xfrm.states.lookup key =
      w.xfrm.states.lookup key := by
    simp only [removeXFRMChildSA]
    split
    · rename_i prop ip hprop hip
      split
      · rfl
      rename_i hspi
      have hhas : sa.hasSlot .current = true := by simp [IkeSA.hasSlot, hprop, hspi]
      exact removeChildSA_keeps (hrecorded .current hip hhas)
    · rfl
  rw [← hcur]
  simp only [removePendingStates]
  split
  · rename_i prop ip hprop hip
    have hhas : sa.hasSlot .pending = true := by simp [IkeSA.hasSlot, hprop]
    exact removeChildSAStates_keeps (hrecorded .pending hip hhas)
  · rfl

theorem inPlace_some (h : (childLedger w).inPlace key = some r) :
    ∃ st, w.xfrm.states.lookup key = some st ∧ r = ⟨some st.child.localIP, st.child⟩ := by
  obtain ⟨st, hst, he⟩ := Option.map_eq_some_iff.mp h
  simp_all

theorem inPlace_of_lookup (h : w.xfrm.states.lookup key = some st) :
    (childLedger w).inPlace key = some ⟨some st.child.localIP, st.child⟩ := by
  simp [childLedger, h]

structure KeepsChildren (w w' : World) : Prop where
  slotsOk : ∀ k sa, w'.lookupSA k = some sa → SlotsOk sa
  back : ∀ k sa' s r, w'.lookupSA k = some sa' → sa'.slot s = some r →
    ∃ sa, w.lookupSA k = some sa ∧ sa.slot s = some r ∧ sa'.sessionID = sa.sessionID
  forth : ∀ k sa s r, w.lookupSA k = some sa → sa.slot s = some r →
    ∃ sa', w'.lookupSA k = some sa' ∧ sa'.slot s = some r
  states : ∀ key st, w'.xfrm.states.lookup key = some st → w.xfrm.states.lookup key = some st

section
variable (hi : PairInv w)
include hi

theorem slots_write (hok : SlotsOk sa')
    (hl : ∀ k, w'.lookupSA k = if k = k0 then some sa' else w.lookupSA k) :
    ∀ k sa, w'.lookupSA k = some sa → SlotsOk sa := by
  intro k sa hk
  rw [hl] at hk
  split at hk
  · cases hk
    exact hok
  · exact hi.slots k sa hk

theorem KeepsChildren.rewrite (h : w.lookupSA sa.spiI = some sa)
    (hl : ∀ k, w'.lookupSA k = if k = sa.spiI then some sa' else w.lookupSA k) (hok : SlotsOk sa')
    (hslot : ∀ s, sa'.slot s = sa.slot s) (hsid : sa'.sessionID = sa.sessionID)
    (hx : ∀ key st, w'.xfrm.states.lookup key = some st → w.xfrm.states.lookup key = some st) :
    KeepsChildren w w' where
  slotsOk := slots_write hi hok hl
  back k sa1 s r hl1 hs1 := by grind
  forth k sa1 s r hl1 hs1 := by grind
  states := hx

theorem KeepsChildren.touch (h : w.lookupSA sa.spiI = some sa) (hc : sa'.core = sa.core) :
    KeepsChildren w (w.storeSA sa') := by
  have hok : SlotsOk sa' = SlotsOk sa := IkeSA.eq_of_core hc SlotsOk fun _ => rfl
  have hspi := (SameIdentity.of_core hc).spiI
  exact .rewrite hi h (fun k => hspi ▸ World.lookupSA_storeSA w sa' k)
    (hok ▸ hi.slots _ sa h) (fun s => congrFun (IkeSA.eq_of_core hc IkeSA.slot fun _ => rfl) s)
    (IkeSA.eq_of_core hc IkeSA.sessionID fun _ => rfl) fun _ _ hst => hst

theorem KeepsChildren.fewer (hl : ∀ k, w'.lookupSA k = w.lookupSA k)
    (hx : ∀ key st, w'.xfrm.states.lookup key = some st → w.xfrm.states.lookup key = some st) :
    KeepsChildren w w' where
  slotsOk k sa h := hi.slots k sa (hl k ▸ h)
  back k sa _ _ h hs := ⟨sa, hl k ▸ h, hs, rfl⟩
  forth k sa _ _ h hs := ⟨sa, (hl k).trans h, hs⟩
  states := hx

theorem KeepsChildren.overwrite
    (hl : ∀ k, w'.lookupSA k = if k = k0 then some sa' else w.lookupSA k) (hok : SlotsOk sa')
    (hnone : ∀ s, sa'.slot s = none) (hold : ∀ sa, w.lookupSA k0 = some sa → ∀ s, sa.slot s = none)
    (hx : ∀ key, w'.xfrm.states.lookup key = w.xfrm.states.lookup key) : KeepsChildren w w' where
  slotsOk := slots_write hi hok hl
  back k sa1 s r hl1 hs1 := by grind
  forth k sa1 s r hl1 hs1 := by grind
  states key st h := (hx key).symm.trans h

theorem PairInv.keep (hb : Base w') (h : KeepsChildren w w') : PairInv w' where
  base := hb
  slots := h.slotsOk
  exact := by
    refine hi.exact.shrink ?_ ?_
    · rintro ⟨k, s⟩ r ⟨sa', hl', hs'⟩
      obtain ⟨sa, hl, hs, -⟩ := h.back k sa' s r hl' hs'
      exact ⟨sa, hl, hs⟩
    · intro key r hr
      obtain ⟨st, hst, rfl⟩ := inPlace_some hr
      have hin := inPlace_of_lookup (h.states key st hst)
      obtain ⟨⟨k, s⟩, sa, hl, hs⟩ := hi.exact.held key _ hin
      obtain ⟨sa', hl', hs'⟩ := h.forth k sa s _ hl hs
      exact ⟨hin, (k, s), sa', hl', hs'⟩

theorem PairInv.congr (hb : Base w') (hl : ∀ k, w'.lookupSA k = w.lookupSA k)
    (hx : ∀ key, w'.xfrm.states.lookup key = w.xfrm.states.lookup key) : PairInv w' :=
  hi.keep hb (.fewer hi hl fun key _ h => (hx key).symm.trans h)

end

theorem holds_storeSA (hs : sa'.spiI = sa.spiI) (h : UInt64 × Slot) (r : ChildRecord) :
    (childLedger (w.storeSA sa')).holds h r ↔
      h.1 = sa.spiI ∧ sa'.slot h.2 = some r ∨ h.1 ≠ sa.spiI ∧ (childLedger w).holds h r := by
  simp only [childLedger, World.lookupSA_storeSA, hs]
  grind

theorem PairInv.drop (hi : PairInv w) (hb : Base w') {k : UInt64} (h : w.lookupSA k = some sa)
    (hl : ∀ k', w'.lookupSA k' = if k' = k then none else w.lookupSA k')
    (hx : ∀ key st, w'.xfrm.states.lookup key = some st → w.xfrm.states.lookup key = some st ∧
      ∀ s, sa.slot s = some ⟨some st.child.localIP, st.child⟩ →
        ¬ Sits ⟨some st.child.localIP, st.child⟩ key) : PairInv w' where
  base := hb
  slots k' sa' hl' := by
    rw [hl] at hl'
    split at hl'
    · cases hl'
    · exact hi.slots k' sa' hl'
  exact := by
    have hiff (p : UInt64 × Slot) (r : ChildRecord) :
        (childLedger w').holds p r ↔ p.1 ≠ k ∧ (childLedger w).holds p r := by
      simp only [childLedger, hl]
      grind
    refine hi.exact.shrink (fun p r hr => ((hiff p r).mp hr).2) ?_
    intro key r hr
    obtain ⟨st, hst, rfl⟩ := inPlace_some hr
    obtain ⟨hst0, hfree⟩ := hx key st hst
    have hin := inPlace_of_lookup hst0
    obtain ⟨p, hp⟩ := hi.exact.held key _ hin
    refine ⟨hin, p, (hiff p _).mpr ⟨?_, hp⟩⟩
    intro he
    obtain ⟨sa1, hl1, hs1⟩ := hp
    rw [he, h] at hl1
    cases hl1
    exact hfree p.2 hs1 (hi.exact.sits key _ hin)

theorem PairInv.vacate (hi : PairInv w) {w1 : World} (hb : Base (w1.storeSA sa'))
    (h : w.lookupSA sa.spiI = some sa) (hl : ∀ k, w1.lookupSA k = w.lookupSA k)
    (hs : sa'.spiI = sa.spiI) (hok : SlotsOk sa') (s0 s1 : Slot)
    (hx : ∀ key st, w1.xfrm.states.lookup key = some st → w.xfrm.states.lookup key = some st ∧
      (sa.slot s0 = some ⟨some st.child.localIP, st.child⟩ →
        ¬ Sits ⟨some st.child.localIP, st.child⟩ key))
    (hslot : ∀ s r, sa'.slot s = some r ↔ s = s1 ∧ ∃ s', s' ≠ s0 ∧ sa.slot s' = some r) :
    PairInv (w1.storeSA sa') where
  base := hb
  slots := slots_write hi hok fun k => by rw [World.lookupSA_storeSA, hl]
  exact := by
    -- `other` is the place that is not vacated; its CHILD SA is found at `s1` afterwards.
    obtain ⟨other, hother⟩ : ∃ other, ∀ s, s ≠ s0 ↔ s = other := by
      cases s0 with
      | current => exact ⟨.pending, fun s => by cases s <;> simp⟩
      | pending => exact ⟨.current, fun s => by cases s <;> simp⟩
    refine hi.exact.relabel (Equiv.swap (sa.spiI, s1) (sa.spiI, other)) ?_ ?_
    · rintro ⟨k, s⟩ r hr
      rw [holds_storeSA hs] at hr
      rcases hr with ⟨hk, hr⟩ | ⟨hk, sa1, hl1, hr⟩
      · obtain ⟨hs1, s', hne, hr'⟩ := (hslot _ r).mp hr
        obtain rfl : k = sa.spiI := hk
        obtain rfl : s = s1 := hs1
        rw [Equiv.swap_apply_left]
        exact ⟨sa, h, (hother s').mp hne ▸ hr'⟩
      · have hk' : k ≠ sa.spiI := hk
        rw [Equiv.swap_apply_of_ne_of_ne (by simp [hk']) (by simp [hk'])]
        exact ⟨sa1, (hl k) ▸ hl1, hr⟩
    · intro key r hr
      obtain ⟨st, hst, rfl⟩ := inPlace_some hr
      obtain ⟨hst0, hfree⟩ := hx key st hst
      have hin := inPlace_of_lookup hst0
      obtain ⟨⟨k, s⟩, sa1, hl1, hs1⟩ := hi.exact.held key _ hin
      refine ⟨hin, ?_⟩
      by_cases he : k = sa.spiI
      · subst he
        rw [h] at hl1
        cases hl1
        have hne : s ≠ s0 := by
          rintro rfl
          exact hfree hs1 (hi.exact.sits key _ hin)
        refine ⟨(sa.spiI, s1), (holds_storeSA hs _ _).mpr (.inl ⟨rfl, ?_⟩)⟩
        simp_all
      · exact ⟨(k, s), (holds_storeSA hs _ _).mpr (.inr ⟨he, sa1, (hl k).trans hl1, hs1⟩)⟩

theorem slot_promotePending (hok : SlotsOk sa) (hp : sa.pendingESPProp.isSome = true) (s : Slot)
    (r : ChildRecord) :
    sa.promotePending.slot s = some r ↔
      s = .current ∧ ∃ s', s' ≠ .current ∧ sa.slot s' = some r := by
  have hne := hok.2.2 hp
  cases s with
  | current =>
    have he : sa.promotePending.slot .current = sa.slot .pending := by
      simp [IkeSA.slot, IkeSA.hasSlot, IkeSA.promotePending, IkeSA.clearPending, hp, hne,
        IkeSA.pairAt, IkeSA.currentPair, IkeSA.pendingPair]
    rw [he]
    constructor
    · grind
    · rintro ⟨-, s', hs', hr⟩
      cases s' with
      | current => exact (hs' rfl).elim
      | pending => exact hr
  | pending => simp [IkeSA.slot, IkeSA.hasSlot, IkeSA.promotePending, IkeSA.clearPending]

theorem slot_clearPending (s : Slot) (r : ChildRecord) :
    sa.clearPending.slot s = some r ↔
      s = .current ∧ ∃ s', s' ≠ .pending ∧ sa.slot s' = some r := by
  cases s with
  | current =>
    constructor
    · intro hr
      exact ⟨rfl, .current, by simp, hr⟩
    · rintro ⟨-, s', hs', hr⟩
      cases s' with
      | current => exact hr
      | pending => exact (hs' rfl).elim
  | pending => simp [IkeSA.slot, IkeSA.hasSlot, IkeSA.clearPending]

theorem removeStates_slot (s : Slot)
    (h : (removeStates w sa (sa.pairAt s)).xfrm.states.lookup key = some st) :
    w.xfrm.states.lookup key = some st ∧
      (sa.slot s = some ⟨some st.child.localIP, st.child⟩ →
        ¬ Sits ⟨some st.child.localIP, st.child⟩ key) := by
  obtain ⟨hst, hfree⟩ := removeStates_frees _ h
  refine ⟨hst, fun hs => ?_⟩
  obtain ⟨-, hip, hc⟩ := slot_installed hs
  grind

theorem deleteESP_pairInv (hi : PairInv w) (h : w.lookupSA sa.spiI = some sa) (spi : UInt32)
    (hb : Base (deleteESP P w sa spi).1) : PairInv (deleteESP P w sa spi).1 := by
  have hok := hi.slots _ sa h
  simp only [deleteESP] at hb ⊢
  split
  · rename_i hcur
    rw [if_pos hcur] at hb
    split
    · rename_i hp
      rw [if_pos hp] at hb
      -- the pending CHILD SA takes the place of the current one
      have hok' : SlotsOk sa.promotePending := by
        refine ⟨fun hs => ?_, fun _ _ => hok.2.2 hp, fun hp' => by cases hp'⟩
        rw [(hok.1 hs).2] at hp
        cases hp
      have hb' : Base ((removeStates w sa (sa.pairAt .current)).storeSA sa.promotePending) :=
        hb.congr (fun k => (World.lookupSA_updateSession _ _ _ k).symm)
          (Nat.le_of_eq (World.updateSession_nextRef _ _ _))
      have hi' := hi.vacate hb' h (lookupSA_removeStates _) rfl hok' .current .current
        (fun key st => removeStates_slot .current) (slot_promotePending hok hp)
      exact hi'.congr hb (World.lookupSA_updateSession _ _ _) (fun key => by simp; rfl)
    · rename_i hp
      rw [if_neg hp] at hb
      obtain ⟨x, hx⟩ := removeXFRMChildSA_eq P w sa
      exact hi.keep hb (.fewer hi (fun k => by simp [hx])
        fun key st hst => (removeXFRMChildSA_frees hst).1)
  · rename_i hcur
    rw [if_neg hcur] at hb
    split
    · rename_i hp
      rw [if_pos hp] at hb
      have hok' : SlotsOk sa.clearPending :=
        ⟨fun hs => ⟨(hok.1 hs).1, rfl⟩, hok.2.1, fun hp' => by cases hp'⟩
      exact hi.vacate hb h (lookupSA_removeStates (sa.pairAt .pending)) rfl hok' .pending
        .current (fun key st => removeStates_slot .pending) slot_clearPending
    · exact hi

theorem Quiet.pairInv (h : Quiet S env allowed w w') (hi : PairInv w) : PairInv w' := by
  have hb := h.base hi.base
  -- Before it is established an SA has no CHILD SA, whatever else changes on it.
  have hauth {w : World} {sa sa' : IkeSA} (hi : PairInv w) (hb : Base (w.storeSA sa'))
      (h : w.lookupSA sa.spiI = some sa) (hs : sa.state = .auth) (hk : sa'.spiI = sa.spiI)
      (hstate : sa'.state = sa.state) (hspi : sa'.localESPSPI = sa.localESPSPI)
      (hpend : sa'.pendingESPProp = sa.pendingESPProp) : PairInv (w.storeSA sa') := by
    have hok := hi.slots _ sa h
    have hok' : SlotsOk sa' := .of_auth (hstate.trans hs) (hspi.trans (hok.1 hs).1)
      (hpend.trans (hok.1 hs).2)
    refine hi.keep hb (.overwrite hi (World.lookupSA_storeSA w sa') hok'
      (hok'.slot_auth (hstate.trans hs)) ?_ fun _ => rfl)
    intro sa1 hl1
    rw [hk, h] at hl1
    cases hl1
    exact hok.slot_auth hs
  cases h with
  | sent | derSent | deaReceived | completed | cookies | pgwTable | gtpu | verified | s2bCreate =>
    exact hi.congr hb (fun _ => rfl) fun _ => rfl
  | kernel k hk => exact hi.congr hb (fun _ => rfl) hk.1
  | session id f hf => exact hi.congr hb (fun k => by simp) fun key => by simp
  | touch sa sa' h hc => exact hi.keep hb (.touch hi h hc)
  | auth sa sa' h hs hc =>
    have hid := SameIdentity.of_authCore hc
    exact hauth hi hb h hs hid.spiI hid.state
      (IkeSA.eq_of_authCore hc IkeSA.localESPSPI fun _ => rfl)
      (IkeSA.eq_of_authCore hc IkeSA.pendingESPProp fun _ => rfl)
  | openSession sa sa' h hs hc =>
    have hid := SameIdentity.of_openSession hc
    have hspi : sa'.localESPSPI = sa.withSession.localESPSPI :=
      IkeSA.eq_of_authCore hc IkeSA.localESPSPI fun _ => rfl
    have hpend : sa'.pendingESPProp = sa.withSession.pendingESPProp :=
      IkeSA.eq_of_authCore hc IkeSA.pendingESPProp fun _ => rfl
    have hi' : PairInv (round1Session w sa') :=
      hi.congr (hi.base.congr (fun _ => rfl) (Nat.le_refl _)) (fun _ => rfl) fun _ => rfl
    exact hauth hi' hb h hs hid.spiI hid.state hspi hpend
  | success sa sid req avps h hs hdea => exact hauth hi hb h hs rfl rfl rfl rfl
  | teardown sa h =>
    have hslot (s : Slot) : sa.closing.slot s = sa.slot s := by cases s <;> rfl
    have hspi : sa.closing.spiI = sa.spiI := rfl
    refine hi.drop hb h ?_ ?_
    · intro k
      simp_all
    · intro key st hst
      obtain ⟨hst0, hfree⟩ := fullTeardown_frees hst
      exact ⟨hst0, fun s hs => hfree s ((hslot s).trans hs)⟩
  | expire sa h hs hx hold =>
    refine hi.drop hb h (fun k => by simp) ?_
    intro key st hst
    refine ⟨hst, fun s hslot => ?_⟩
    rw [(hi.slots _ sa h).slot_auth hs] at hslot
    cases hslot
  | pgw ev hev =>
    have ha := handlePGW_aside w env ev
    exact hi.congr hb ha.lookupSA fun key => by rw [ha.xfrm]
  | deleteESP sa spi h => exact deleteESP_pairInv hi h spi hb

theorem Quiets.pairInv (h : Quiets S env allowed w w') (hi : PairInv w) : PairInv w' := by
  induction h with
  | refl => exact hi
  | tail _ hq ih => exact hq.pairInv ih

theorem Evolve.slot {t : List Event} (h : Evolve S t sa sa') (hok : SlotsOk sa)
    (hr : sa'.slot s = some r) : ∃ s', sa.slot s' = some r := by
  have hauth (hs : sa.state = .auth) (hspi : sa'.localESPSPI = sa.localESPSPI)
      (hpend : sa'.pendingESPProp = sa.pendingESPProp) : ∃ s', sa.slot s' = some r := by
    have hok' : SlotsOk sa' := .of_auth (h.sameIdentity.state.trans hs)
      (hspi.trans (hok.1 hs).1) (hpend.trans (hok.1 hs).2)
    rw [hok'.slot_auth (h.sameIdentity.state.trans hs)] at hr
    cases hr
  cases h with
  | touch _ hc =>
    refine ⟨s, ?_⟩
    rw [← congrFun (IkeSA.eq_of_core hc IkeSA.slot fun _ => rfl) s]
    exact hr
  | auth _ hs hc =>
    exact hauth hs (IkeSA.eq_of_authCore hc IkeSA.localESPSPI fun _ => rfl)
      (IkeSA.eq_of_authCore hc IkeSA.pendingESPProp fun _ => rfl)
  | openSession _ hs hc =>
    have hspi : sa'.localESPSPI = sa.withSession.localESPSPI :=
      IkeSA.eq_of_authCore hc IkeSA.localESPSPI fun _ => rfl
    have hpend : sa'.pendingESPProp = sa.withSession.pendingESPProp :=
      IkeSA.eq_of_authCore hc IkeSA.pendingESPProp fun _ => rfl
    exact hauth hs hspi hpend
  | success sid req avps hs hdea => exact hauth hs rfl rfl
  | promote he hp =>
    obtain ⟨-, s', -, hr'⟩ := (slot_promotePending hok hp s r).mp hr
    exact ⟨s', hr'⟩
  | clear =>
    obtain ⟨-, s', -, hr'⟩ := (slot_clearPending s r).mp hr
    exact ⟨s', hr'⟩

theorem Quiets.holds (h : Quiets S env allowed w w') (hi : PairInv w) {k : UInt64}
    (hr : (childLedger w').holds (k, s) r) : ∃ s', (childLedger w).holds (k, s') r := by
  induction h generalizing s with
  | refl => exact ⟨s, hr⟩
  | tail hqs hq ih =>
    obtain ⟨sa', hl, hslot⟩ := hr
    obtain ⟨sa, hl0, hev⟩ := hq.evolve hl
    obtain ⟨s', hs'⟩ := hev.slot ((Quiets.pairInv hqs hi).slots k sa hl0) hslot
    have hholds : (childLedger _).holds (k, s') r := ⟨sa, hl0, hs'⟩
    exact ih hholds

def Free (w : World) (h0 : UInt64 × Slot) (r : ChildRecord) : Prop :=
  ∀ h r', h ≠ h0 → (childLedger w).holds h r' → Apart r r'

structure Acquires (w w' : World) (sa sa' : IkeSA) (s0 : Slot) (r : ChildRecord) : Prop where
  found : w.lookupSA sa.spiI = some sa
  table : ∀ k, w'.lookupSA k = if k = sa.spiI then some sa' else w.lookupSA k
  slotsOk : SlotsOk sa'
  session : sa'.sessionID = sa.sessionID
  filled : sa'.slot s0 = some r
  others : ∀ s, s ≠ s0 → sa'.slot s = sa.slot s
  free : Free w (sa.spiI, s0) r
  states : ∀ key st, w'.xfrm.states.lookup key = some st →
    (r = ⟨some st.child.localIP, st.child⟩ ∧ Sits r key ∧ st.owner = sa.sessionID) ∨
    w.xfrm.states.lookup key = some st ∧
      (sa.slot s0 = some ⟨some st.child.localIP, st.child⟩ →
        ¬ Sits ⟨some st.child.localIP, st.child⟩ key)

structure PassesChild (w w' : World) (sa new : IkeSA) : Prop where
  found : w.lookupSA sa.spiI = some sa
  vacant : w.lookupSA new.spiI = none
  table : ∀ k, w'.lookupSA k =
    if k = new.spiI then some new else if k = sa.spiI then some sa.replaced else w.lookupSA k
  slotsOk : SlotsOk new ∧ SlotsOk sa.replaced
  session : new.sessionID = sa.sessionID
  current : new.slot .current = sa.slot .current
  pending : new.slot .pending = none
  states : ∀ key, w'.xfrm.states.lookup key = w.xfrm.states.lookup key

inductive ChildrenCase (rekeyed : IkeSA → Prop) (w w' : World) : Prop
  | kept (h : KeepsChildren w w')
  | acquired (sa sa' : IkeSA) (s0 : Slot) (r : ChildRecord) (h : Acquires w w' sa sa' s0 r)
  | passed (sa new : IkeSA) (hr : rekeyed sa) (h : PassesChild w w' sa new)

theorem Acquires.holds_iff (h : Acquires w w' sa sa' s0 r) (p : UInt64 × Slot) (r' : ChildRecord)
    : (childLedger w').holds p r' ↔
      p = (sa.spiI, s0) ∧ r' = r ∨ p ≠ (sa.spiI, s0) ∧ (childLedger w).holds p r' := by
  obtain ⟨k, s⟩ := p
  simp only [childLedger, h.table]
  by_cases hk : k = sa.spiI
  · subst hk
    by_cases hs : s = s0
    · subst hs
      simp [h.filled, eq_comm]
    · simp [hs, h.found, h.others s hs]
  · simp [hk]

theorem PassesChild.holds_iff (h : PassesChild w w' sa new) (p : UInt64 × Slot) (r : ChildRecord)
    : (childLedger w').holds p r ↔
      (childLedger w).holds (Equiv.swap (new.spiI, .current) (sa.spiI, .current) p) r := by
  obtain ⟨k, s⟩ := p
  by_cases hk : k = new.spiI
  · subst hk
    cases s with
    | current =>
      simp [childLedger, h.table, h.found, h.current]
    | pending =>
      rw [Equiv.swap_apply_of_ne_of_ne (by simp) (by simp)]
      simp [childLedger, h.table, h.vacant, h.pending]
  · by_cases hk' : k = sa.spiI
    · subst hk'
      cases s with
      | current =>
        simp [childLedger, h.table, hk, h.vacant, IkeSA.slot, IkeSA.hasSlot, IkeSA.replaced]
      | pending =>
        have hpend : sa.replaced.slot .pending = sa.slot .pending := rfl
        rw [Equiv.swap_apply_of_ne_of_ne (by simp) (by simp)]
        simp [childLedger, h.table, hk, h.found, hpend]
    · rw [Equiv.swap_apply_of_ne_of_ne (by simp [hk]) (by simp [hk'])]
      simp [childLedger, h.table, hk, hk']

theorem PairInv.acquire (hi : PairInv w) (hb : Base w') (h : Acquires w w' sa sa' s0 r)
    : PairInv w' where
  base := hb
  slots := slots_write hi h.slotsOk h.table
  exact := by
    refine hi.exact.acquire Apart.symm (sa.spiI, s0) r h.free
      (fun p r' => (h.holds_iff p r').mp) ?_
    intro key r' hr'
    obtain ⟨st, hst, rfl⟩ := inPlace_some hr'
    rcases h.states key st hst with ⟨rfl, hsits, -⟩ | ⟨hst0, hgone⟩
    · exact ⟨⟨(sa.spiI, s0), (h.holds_iff _ _).mpr (.inl ⟨rfl, rfl⟩)⟩, .inr hsits⟩
    have hin := inPlace_of_lookup hst0
    obtain ⟨p, hp⟩ := hi.exact.held key _ hin
    refine ⟨⟨p, (h.holds_iff _ _).mpr (.inr ⟨?_, hp⟩)⟩, .inl hin⟩
    rintro rfl
    obtain ⟨sa1, hl1, hs1⟩ := hp
    rw [h.found] at hl1
    cases hl1
    exact hgone hs1 (hi.exact.sits key _ hin)

theorem PairInv.pass (hi : PairInv w) (hb : Base w') (h : PassesChild w w' sa new)
    : PairInv w' where
  base := hb
  slots k sa1 hl := by
    rw [h.table] at hl
    split at hl
    · cases hl
      exact h.slotsOk.1
    split at hl
    · cases hl
      exact h.slotsOk.2
    · exact hi.slots k sa1 hl
  exact := by
    refine hi.exact.relabel (Equiv.swap (new.spiI, .current) (sa.spiI, .current))
      (fun p r => (h.holds_iff p r).mp) ?_
    intro key r hr
    obtain ⟨st, hst, rfl⟩ := inPlace_some hr
    have hin := inPlace_of_lookup ((h.states key).symm.trans hst)
    obtain ⟨p, hp⟩ := hi.exact.held key _ hin
    refine ⟨hin, Equiv.swap (new.spiI, .current) (sa.spiI, .current) p, ?_⟩
    rw [h.holds_iff, Equiv.swap_apply_self]
    exact hp

theorem PairInv.of_case {rekeyed : IkeSA → Prop} (hi : PairInv w) (hb : Base w')
    (h : ChildrenCase rekeyed w w') : PairInv w' := by
  cases h with
  | kept h => exact hi.keep hb h
  | acquired sa sa' s0 r h => exact hi.acquire hb h
  | passed sa new _ h => exact hi.pass hb h

theorem statesAdded_lookup {k' : Xfrm.Kernel} (ha : Xfrm.StatesAdded k k' p)
    (h : k'.states.lookup key = some st) :
    ((⟨some p.localIP, p.pair⟩ : ChildRecord) = ⟨some st.child.localIP, st.child⟩ ∧
        Sits ⟨some p.localIP, p.pair⟩ key ∧ st.owner = p.owner) ∨
      k.states.lookup key = some st := by
  rw [ha.states] at h
  split at h
  · rename_i he
    cases h
    exact .inl ⟨rfl, ⟨ha.family, .inr he⟩, rfl⟩
  split at h
  · rename_i he
    cases h
    exact .inl ⟨rfl, ⟨ha.family, .inl he⟩, rfl⟩
  · exact .inr h

end
end Epdg
