import Epdg.System.Children
import Epdg.System.References

/-!
Who has policies in the kernel.

The selectors of a CHILD SA are not recorded: whoever removes the policies computes them
again, from the session of the SA. The view of an SA collects what that computation uses. The
inversions below say what every effect does to the views and to the policies.
-/
namespace Epdg
open Ikev2
variable {key : Xfrm.PolicyKey} {k k0 : UInt64} {pol : Xfrm.XfrmPolicy} {prop : ChildProposal}
  {allowed : Triggers} {id : Session.ID} {v : PolicyView} {c : Xfrm.EspPair} {port : UInt16}
  {remoteTS : IPNet} {spi : UInt32} {remote : UDPAddr}

def policyKeys (net : IPNet) : List Xfrm.PolicyKey :=
  [⟨net, IPNet.all, .dirIn⟩, ⟨net, IPNet.all, .dirFwd⟩, ⟨IPNet.all, net, .dirOut⟩]

structure PolicyView where
  owner : Option Session.ID
  paa : Option IP
  /-- The endpoints are known and of one family. -/
  ready : Bool

def PolicyView.keys (v : PolicyView) : List Xfrm.PolicyKey := policyKeys (IPNet.host v.paa)

def Ikev2.IkeSA.policyView (sa : IkeSA) (context : Session.ID → Option Session.S2BContext) :
    Option PolicyView :=
  if sa.hasSlot .current then
    some ⟨sa.sessionID, (sa.sessionID.bind context).map Session.S2BContext.paa,
      sa.localIP.any (Xfrm.sameFamily · sa.remoteAddr.ip)⟩
  else none

def World.policyView (w : World) (k : UInt64) : Option PolicyView :=
  (w.lookupSA k).bind fun sa => sa.policyView w.context

def PolicyView.Covers (v : PolicyView) (key : Xfrm.PolicyKey) (pol : Xfrm.XfrmPolicy) : Prop :=
  v.ready = true ∧ pol.owner = v.owner ∧ key ∈ v.keys

structure Repoliced (w w' : World) (k0 : UInt64) (v : Option PolicyView) : Prop where
  views : ∀ k, w'.policyView k = if k = k0 then v else w.policyView k
  policies : ∀ key pol, w'.xfrm.policies.lookup key = some pol →
    (∃ v1, v = some v1 ∧ v1.Covers key pol) ∨
    w.xfrm.policies.lookup key = some pol ∧
      ∀ v0, w.policyView k0 = some v0 → v0.ready = true → key ∉ v0.keys

inductive PolicyCase (w w' : World) : Prop
  | same (h : ∀ k, w'.policyView k = w.policyView k)
      (hx : ∀ key pol, w'.xfrm.policies.lookup key = some pol →
        w.xfrm.policies.lookup key = some pol)
  | changed (k0 : UInt64) (v : Option PolicyView)
      (hpaa : ∀ v1, v = some v1 → v1.paa.isSome = true) (h : Repoliced w w' k0 v)
  | passed (k0 k1 : UInt64) (hnew : w.policyView k1 = none)
      (h : ∀ k, w'.policyView k =
        if k = k1 then w.policyView k0 else if k = k0 then none else w.policyView k)
      (hx : ∀ key, w'.xfrm.policies.lookup key = w.xfrm.policies.lookup key)

structure Policed (w : World) : Prop where
  covered : ∀ key pol, w.xfrm.policies.lookup key = some pol →
    ∃ k v, w.policyView k = some v ∧ v.Covers key pol
  bound : ∀ k v, w.policyView k = some v → v.paa.isSome = true

theorem policyKeys_disjoint {net net' : IPNet} (hne : net ≠ net') (h : key ∈ policyKeys net)
    : key ∉ policyKeys net' := by
  intro h'
  simp only [policyKeys, List.mem_cons, List.not_mem_nil, or_false] at h h'
  grind

section
variable {S : Server} {P : Primitives} {env : Env} {w w' : World} {sa sa' : IkeSA}

theorem Policed.of_case (hp : Policed w) (h : PolicyCase w w') : Policed w' := by
  cases h with
  | same h hx =>
    refine ⟨fun key pol hl => ?_, fun k v hv => hp.bound k v (h k ▸ hv)⟩
    obtain ⟨k, v, hv, hc⟩ := hp.covered key pol (hx key pol hl)
    grind
  | changed k0 v0 hpaa h =>
    refine ⟨fun key pol hl => ?_, fun k v hv => ?_⟩
    · rcases h.policies key pol hl with ⟨v1, rfl, hc⟩ | ⟨hl0, hgone⟩
      · exact ⟨k0, v1, by rw [h.views, if_pos rfl], hc⟩
      obtain ⟨k, v, hv, hc⟩ := hp.covered key pol hl0
      refine ⟨k, v, ?_, hc⟩
      rw [h.views, if_neg, hv]
      rintro rfl
      exact hgone v hv hc.1 hc.2.2
    · rw [h.views] at hv
      split at hv
      · exact hpaa v hv
      · exact hp.bound k v hv
  | passed k0 k1 hnew h hx =>
    refine ⟨fun key pol hl => ?_, fun k v hv => ?_⟩
    · obtain ⟨k, v, hv, hc⟩ := hp.covered key pol ((hx key).symm.trans hl)
      grind
    · rw [h] at hv
      split at hv
      · exact hp.bound k0 v hv
      split at hv
      · cases hv
      · exact hp.bound k v hv

theorem policyView_of_lookup (h : w.lookupSA k = some sa) :
    w.policyView k = sa.policyView w.context := by
  simp [World.policyView, h]

theorem policyView_none (h : w.lookupSA k = none) : w.policyView k = none := by
  simp [World.policyView, h]

theorem SlotsOk.policyView_auth (hok : SlotsOk sa) (hs : sa.state = .auth)
    (context : Session.ID → Option Session.S2BContext) : sa.policyView context = none := by
  simp [IkeSA.policyView, IkeSA.hasSlot, (hok.1 hs).1]

theorem policyView_context {c c' : Session.ID → Option Session.S2BContext}
    (h : ∀ id, sa.sessionID = some id → c' id = c id) : sa.policyView c' = sa.policyView c := by
  simp only [IkeSA.policyView]
  cases hid : sa.sessionID with
  | none => rfl
  | some id => rw [Option.bind_some, Option.bind_some, h id hid]

theorem policyView_eq_some {context : Session.ID → Option Session.S2BContext} :
    sa.policyView context = some v ↔ sa.hasSlot .current = true ∧
      v = ⟨sa.sessionID, (sa.sessionID.bind context).map Session.S2BContext.paa,
        sa.localIP.any (Xfrm.sameFamily · sa.remoteAddr.ip)⟩ := by
  simp only [IkeSA.policyView]
  grind

theorem PolicyView.keys_eq (h : sa.policyView w.context = some v) :
    v.keys = policyKeys (w.remoteTS sa.sessionID) := by
  obtain ⟨-, rfl⟩ := policyView_eq_some.mp h
  rw [World.remoteTS_eq]
  rfl

theorem mem_policyKeys_childParams {keys : ChildKeys} :
    key ∈ policyKeys remoteTS ↔ key = (childParams sa prop keys c port remoteTS).inPol ∨
      key = (childParams sa prop keys c port remoteTS).fwdPol ∨
        key = (childParams sa prop keys c port remoteTS).outPol := by
  simp [policyKeys, Xfrm.ChildSAParams.inPol, Xfrm.ChildSAParams.fwdPol,
    Xfrm.ChildSAParams.outPol, childParams]

theorem removeXFRMChildSA_policies
    (h : (removeXFRMChildSA P w sa).xfrm.policies.lookup key = some pol) :
    w.xfrm.policies.lookup key = some pol ∧
      ∀ v, sa.policyView w.context = some v → v.ready = true → key ∉ v.keys := by
  have hnone (hs : sa.hasSlot .current = false) {A : Prop} {v : PolicyView}
      (hv : sa.policyView w.context = some v) : A := by
    simp [IkeSA.policyView, hs] at hv
  simp only [removeXFRMChildSA] at h
  cases hprop : sa.espProp with
  | none =>
    rw [hprop] at h
    exact ⟨h, fun v => hnone (by simp [IkeSA.hasSlot, hprop])⟩
  | some prop =>
    cases hip : sa.localIP with
    | none =>
      rw [hprop, hip] at h
      refine ⟨h, fun v hv hr => ?_⟩
      obtain ⟨-, rfl⟩ := policyView_eq_some.mp hv
      simp [hip] at hr
    | some ip =>
      rw [hprop, hip] at h
      dsimp only at h
      split at h
      · rename_i hz
        exact ⟨h, fun v => hnone (by simp [IkeSA.hasSlot, hz])⟩
      refine ⟨(Xfrm.removeChildSA_le _ _).2 key pol h, fun v hv hr hmem => ?_⟩
      rw [PolicyView.keys_eq hv] at hmem
      obtain ⟨-, rfl⟩ := policyView_eq_some.mp hv
      have hfam : Xfrm.sameFamily ip sa.remoteAddr.ip = true := by simpa [hip] using hr
      rw [World.setKernel_xfrm, (Xfrm.removeChildSA_lookup hfam).2,
        if_pos (mem_policyKeys_childParams.mp hmem)] at h
      cases h

theorem removeXFRMChildSA_policies_kept (h : ∀ v, sa.policyView w.context = some v → key ∉ v.keys) :
    (removeXFRMChildSA P w sa).xfrm.policies.lookup key = w.xfrm.policies.lookup key := by
  simp only [removeXFRMChildSA]
  split
  · rename_i prop ip hprop hip
    split
    · rfl
    rename_i hspi
    have hhas : sa.hasSlot .current = true := by simp [IkeSA.hasSlot, hprop, hspi]
    obtain ⟨v, hv⟩ : ∃ v, sa.policyView w.context = some v :=
      ⟨_, policyView_eq_some.mpr ⟨hhas, rfl⟩⟩
    have hmem := h v hv
    rw [PolicyView.keys_eq hv] at hmem
    by_cases hfam : Xfrm.sameFamily ip sa.remoteAddr.ip = true
    · rw [World.setKernel_xfrm, (Xfrm.removeChildSA_lookup hfam).2,
        if_neg fun hk => hmem (mem_policyKeys_childParams.mpr hk)]
    · simp [Xfrm.removeChildSA, childParams, IkeSA.currentPair, hfam]
  · rfl

theorem fullTeardown_policies (strOpen : Bool) (key : Xfrm.PolicyKey) :
    (fullTeardown P strOpen w sa).xfrm.policies.lookup key =
      (removeXFRMChildSA P w sa).xfrm.policies.lookup key := by
  obtain ⟨w1, ha, he⟩ := fullTeardown_frame P strOpen w sa
  rw [he, World.deleteSA_xfrm, ha.xfrm]
  simp only [removePendingStates]
  split
  · simp
  · rfl

theorem removeStates_policies (pair : IP → Xfrm.EspPair) :
    (removeStates w sa pair).xfrm.policies = w.xfrm.policies := by
  simp only [removeStates]
  split
  · rfl
  · simp

theorem deleteESP_policies (h : (deleteESP P w sa spi).1.xfrm.policies.lookup key = some pol) :
    w.xfrm.policies.lookup key = some pol := by
  simp only [deleteESP] at h
  split at h
  · split at h
    · have hx : (((removeStates w sa sa.currentPair).storeSA sa.promotePending).updateSession
          sa.promotePending.sessionID (sessionPromoted sa.promotePending)).xfrm.policies =
          w.xfrm.policies := by
        rw [World.updateSession_xfrm]
        exact removeStates_policies _
      grind
    · exact (removeXFRMChildSA_policies h).1
  · split at h
    · have hx : (removeStates w sa sa.pendingPair).xfrm.policies = w.xfrm.policies :=
        removeStates_policies _
      rw [← hx]
      exact h
    · exact h

theorem Quiet.context_kept (hq : Quiet S env allowed w w') (hk : w.sessions.Keyed)
    (hrefs : RefInv w)
    (hno : ∀ ev, allowed.pgw ev → ∀ id c, w.context id = some c → ¬ ev.releases c)
    (hr : Refers w' k id) : w'.context id = w.context id := by
  cases hq.links hk with
  | same h | expired _ _ _ _ _ h => simp only [World.context, h]
  | opened sa sa' hl hs hid _ hl' h =>
    simp only [World.context, h]
    split
    · cases w.links id <;> rfl
    · rfl
  | torn sa hl _ hno h =>
    obtain ⟨sa', hl', hid⟩ := hr
    rw [hno] at hl'
    split at hl'
    · cases hl'
    rename_i hne
    simp only [World.context, h]
    rw [if_neg fun he => hne (hrefs.uniq k sa.spiI id ⟨sa', hl', hid⟩ ⟨sa, hl, he⟩)]
  | pgw ev hev _ hl h => exact (h id).context_kept (hno ev hev id)

theorem Evolve.policyView {t : List Event} (h : Evolve S t sa sa') (hok : SlotsOk sa)
    (context : Session.ID → Option Session.S2BContext) :
    sa'.policyView context = sa.policyView context := by
  have hauth (hs : sa.state = .auth) (hspi : sa'.localESPSPI = sa.localESPSPI) :
      sa'.policyView context = sa.policyView context := by
    simp [IkeSA.policyView, IkeSA.hasSlot, hspi, (hok.1 hs).1]
  cases h with
  | touch _ hc => exact congrFun (IkeSA.eq_of_core hc IkeSA.policyView fun _ => rfl) context
  | auth _ hs hc => exact hauth hs (IkeSA.eq_of_authCore hc IkeSA.localESPSPI fun _ => rfl)
  | openSession _ hs hc =>
    have hspi : sa'.localESPSPI = sa.withSession.localESPSPI :=
      IkeSA.eq_of_authCore hc IkeSA.localESPSPI fun _ => rfl
    exact hauth hs hspi
  | success sid req avps hs hdea => exact hauth hs rfl
  | promote he hp =>
    have hs : sa.state ≠ .auth := by
      intro hs
      rw [(hok.1 hs).2] at hp
      cases hp
    simp [IkeSA.policyView, IkeSA.hasSlot, IkeSA.promotePending, IkeSA.clearPending, he, hp,
      hok.2.1 hs he, hok.2.2 hp]
  | clear => rfl

theorem Quiet.policies_le (hq : Quiet S env allowed w w')
    (h : w'.xfrm.policies.lookup key = some pol) : w.xfrm.policies.lookup key = some pol := by
  cases hq with
  | sent | derSent | deaReceived | completed | cookies | pgwTable | gtpu | verified | s2bCreate |
    touch | auth | openSession | success | expire => exact h
  | kernel k hk => exact (hk.2 key).symm.trans h
  | session id f hf => simpa using h
  | teardown sa hl =>
    rw [fullTeardown_policies] at h
    exact (removeXFRMChildSA_policies h).1
  | pgw ev hev =>
    rw [(handlePGW_aside w env ev).xfrm] at h
    exact h
  | deleteESP sa spi hl => exact deleteESP_policies h

theorem Quiet.policyCase (hq : Quiet S env allowed w w') (hk : w.sessions.Keyed) (hi : PairInv w)
    (hrefs : RefInv w)
    (hno : ∀ ev, allowed.pgw ev → ∀ id c, w.context id = some c → ¬ ev.releases c) :
    PolicyCase w w' := by
  -- an SA that stays keeps its view
  have hstay {k : UInt64} {sa' : IkeSA} (hl' : w'.lookupSA k = some sa') :
      w'.policyView k = w.policyView k := by
    obtain ⟨sa, hl, he⟩ := hq.evolve hl'
    rw [policyView_of_lookup hl', policyView_of_lookup hl, ← he.policyView (hi.slots k sa hl)]
    exact policyView_context fun id hid => hq.context_kept hk hrefs hno ⟨sa', hl', hid⟩
  have hgone {k : UInt64} (hl' : w'.lookupSA k = none) (h : w.policyView k = none) :
      w'.policyView k = w.policyView k := by
    rw [policyView_none hl', h]
  have hsome {k : UInt64} (h : w'.lookupSA k = none → w.policyView k = none) :
      w'.policyView k = w.policyView k := by
    cases hl' : w'.lookupSA k with
    | none => exact hgone hl' (h hl')
    | some sa' => exact hstay hl'
  have hle : ∀ key pol, w'.xfrm.policies.lookup key = some pol →
      w.xfrm.policies.lookup key = some pol := fun key pol => hq.policies_le
  cases hq.links hk with
  | same h hids =>
    refine .same (fun k => hsome fun hl' => policyView_none ?_) hle
    have hid := hids k
    simp only [World.ids, hl', Option.map_none] at hid
    simp_all
  | opened sa sa' hl hs hid _ hl' =>
    refine .same (fun k => hsome fun hno' => policyView_none ?_) hle
    grind
  | expired sa hl hs hx hno' =>
    refine .same (fun k => hsome fun hl' => ?_) hle
    rw [hno'] at hl'
    split at hl'
    · rename_i e
      rw [e, policyView_of_lookup hl]
      exact (hi.slots _ sa hl).policyView_auth hs _
    · exact policyView_none hl'
  | pgw ev hev _ hl =>
    exact .same (fun k => hsome fun hl' => policyView_none ((hl k).symm.trans hl')) hle
  | torn sa hl he hno' =>
    refine .changed sa.spiI none (fun v1 hv => by cases hv) ⟨fun k => ?_, fun key pol h => ?_⟩
    · split
      · rename_i e
        exact policyView_none (by rw [hno', if_pos e])
      rename_i e
      refine hsome fun hl' => policyView_none ?_
      simp_all
    · right
      rw [he, fullTeardown_policies] at h
      obtain ⟨h0, hfree⟩ := removeXFRMChildSA_policies h
      refine ⟨h0, fun v hv => hfree v ?_⟩
      rw [policyView_of_lookup hl] at hv
      exact hv

theorem policyView_write {k0 : UInt64}
    (hl : ∀ k, w'.lookupSA k = if k = k0 then some sa' else w.lookupSA k)
    (hctx : ∀ k sa id, w.lookupSA k = some sa → sa.hasSlot .current = true →
      sa.sessionID = some id → k ≠ k0 → w'.context id = w.context id) (k : UInt64) :
    w'.policyView k = if k = k0 then sa'.policyView w'.context else w.policyView k := by
  split
  · rename_i e
    exact policyView_of_lookup (by rw [hl, if_pos e])
  rename_i e
  have hlk : w'.lookupSA k = w.lookupSA k := by rw [hl, if_neg e]
  cases hk : w.lookupSA k with
  | none => rw [policyView_none (hlk.trans hk), policyView_none hk]
  | some sa =>
    rw [policyView_of_lookup (hlk.trans hk), policyView_of_lookup hk]
    by_cases hs : sa.hasSlot .current = true
    · exact policyView_context fun id hid => hctx k sa id hk hs hid e
    · simp [IkeSA.policyView, hs]

theorem context_pgwEvents (hk : w.sessions.Keyed) (env : Env) (pos : Nat)
    (hno : ∀ ev ∈ env.pgwAt pos, ∀ id c, w.context id = some c → ¬ ev.releases c)
    (id : Session.ID) : (pgwEvents w env pos).context id = w.context id := by
  simp only [pgwEvents]
  revert hno
  generalize env.pgwAt pos = evs
  intro hno
  induction evs generalizing w with
  | nil => rfl
  | cons ev evs ih =>
    have hstep (id : Session.ID) : (handlePGW w env ev).context id = w.context id :=
      (handlePGW_links hk env ev).context_kept (hno ev List.mem_cons_self id)
    rw [List.foldl_cons, ih (handlePGW_keyed hk env ev), hstep]
    grind

theorem context_record (w : World) (sid : Option Session.ID) (r : CreateSessionResult)
    (id : Session.ID) : (w.updateSession sid (sessionS2b r)).context id =
      if some id = sid then (w.links id).map fun _ => s2bContext r else w.context id := by
  simp only [World.context, links_updateSession w sid _ _ (links_sessionS2b r)]
  split
  · cases w.links id <;> rfl
  · rfl

theorem RefInv.apart_of_auth (hrefs : RefInv w) (hi : PairInv w) (h : w.lookupSA sa.spiI = some sa)
    (hs : sa.state = .auth) {sa1 : IkeSA} (h1 : w.lookupSA k = some sa1)
    (hc : sa1.hasSlot .current = true) (hid : sa1.sessionID = some id)
    : some id ≠ sa.sessionID := by
  intro he
  obtain rfl := hrefs.uniq k sa.spiI id ⟨sa1, h1, hid⟩ ⟨sa, h, he.symm⟩
  rw [h] at h1
  cases h1
  simp [IkeSA.hasSlot, ((hi.slots _ sa h).1 hs).1] at hc

theorem policiesAdded_lookup {k k' : Xfrm.Kernel} {keys : ChildKeys}
    (ha : Xfrm.PoliciesAdded k k' (childParams sa prop keys c port remoteTS))
    (h : k'.policies.lookup key = some pol) : pol.owner = sa.sessionID ∧ key ∈ policyKeys remoteTS ∨
      k.policies.lookup key = some pol := by
  rw [ha.policies] at h
  split at h
  · rename_i he
    cases h
    exact .inl ⟨rfl, mem_policyKeys_childParams.mpr (.inr (.inr he))⟩
  split at h
  · rename_i he
    cases h
    refine .inl ⟨rfl, ?_⟩
    rcases he with he | he
    · exact mem_policyKeys_childParams.mpr (.inr (.inl he))
    · exact mem_policyKeys_childParams.mpr (.inl he)
  · exact .inr h

theorem establish_policyCase {remote : UDPAddr} {r : CreateSessionResult} {spi : UInt32}
    {id : Session.ID} (hk : w.sessions.Keyed) (hi : PairInv w) (hrefs : RefInv w)
    (h : w.lookupSA sa.spiI = some sa) (hs : sa.state = .auth) (hid : sa.sessionID = some id)
    (hsome : (w.links id).isSome = true) (hremote : sa.remoteAddr = remote) (hspi : spi ≠ 0)
    (hno : ∀ ev ∈ env.pgwAt 1, (∀ id c, w.context id = some c → ¬ ev.releases c) ∧
      ¬ ev.releases (s2bContext r))
    (hc : EstablishCase P w env remote sa r spi w') : PolicyCase w w' := by
  have hk1 : (w.updateSession sa.sessionID (sessionS2b r)).sessions.Keyed :=
    updateSession_keyed hk _ (by simp [sessionS2b])
  have hctx (id' : Session.ID) : w'.context id' =
      if some id' = sa.sessionID then (w.links id').map fun _ => s2bContext r
      else w.context id' := by
    have hmark : w'.context id' =
        (pgwEvents (w.updateSession sa.sessionID (sessionS2b r)) env 1).context id' := by
      cases hc <;> rfl
    rw [hmark, context_pgwEvents hk1, context_record]
    intro ev hev id'' c hc'
    rw [context_record] at hc'
    split at hc'
    · simp_all
    · grind
  have hown : w'.context id = some (s2bContext r) := by
    rw [hctx, if_pos hid.symm]
    obtain ⟨l, hl⟩ := Option.isSome_iff_exists.mp hsome
    rw [hl]
    rfl
  have hl : ∀ k, w'.lookupSA k =
      if k = sa.spiI then some (sa.establish spi) else w.lookupSA k := by
    intro k
    cases hc with
    | bare x hx => simp
    | installed prop localIP x hprop hip hx => simp
  have hview := policyView_write hl fun k sa1 id' h1 hs1 hid1 _ => by
    rw [hctx, if_neg (hrefs.apart_of_auth hi h hs h1 hs1 hid1)]
  have hsid : (sa.establish spi).sessionID = some id := hid
  -- before, the SA had no policies
  have hfresh {A : Prop} {v0 : PolicyView} (hv : w.policyView sa.spiI = some v0) : A := by
    rw [policyView_of_lookup h, (hi.slots _ sa h).policyView_auth hs] at hv
    cases hv
  refine .changed sa.spiI ((sa.establish spi).policyView w'.context) ?_ ⟨hview, ?_⟩
  · intro v1 hv
    obtain ⟨-, rfl⟩ := policyView_eq_some.mp hv
    simp [hsid, hown]
  · intro key pol hpol
    cases hc with
    | bare x hx => exact .inr ⟨(hx.2 key).symm.trans hpol, fun v0 hv => hfresh hv⟩
    | installed prop localIP x hprop hip hx =>
      obtain ⟨hst, hpols⟩ := Xfrm.installChildSA_ok hx
      rcases policiesAdded_lookup hpols hpol with ⟨howner, hmem⟩ | hold
      · have hhas : (sa.establish spi).hasSlot .current = true := by
          simp [IkeSA.hasSlot, IkeSA.establish, hprop, hspi]
        have hfam : Xfrm.sameFamily localIP remote.ip = true := hst.family
        refine .inl ⟨_, policyView_eq_some.mpr ⟨hhas, rfl⟩, ?_, howner, ?_⟩
        · simp [IkeSA.establish, hip, hremote, hfam]
        · simpa [PolicyView.keys, hsid, hown, s2bContext] using hmem
      · exact .inr ⟨hold, fun v0 hv => hfresh hv⟩

theorem PolicyCase.rewrite (hl : ∀ k, w'.lookupSA k = if k = k0 then some sa' else w.lookupSA k)
    (hctx : ∀ id, w'.context id = w.context id) (hv : sa'.policyView w'.context = w.policyView k0)
    (hx : ∀ key pol, w'.xfrm.policies.lookup key = some pol → w.xfrm.policies.lookup key = some pol)
    : PolicyCase w w' := by
  refine .same (fun k => ?_) hx
  rw [policyView_write hl fun _ _ id _ _ _ _ => hctx id, hv]
  simp_all

theorem migrate_policyCase {localIP : IP} {out : World × Bool} (hp : Policed w)
    (h : w.lookupSA sa.spiI = some sa) (hprop : sa.espProp = some prop)
    (hip : sa.localIP = some localIP) (hspi : sa.localESPSPI ≠ 0)
    (hc : MigrateCase P w env sa prop localIP remote out) :
    PolicyCase w (if out.2 then out.1.storeSA (sa.migrated remote) else out.1) := by
  have he : removeXFRMChildSA P w sa = w.setKernel (Xfrm.removeChildSA w.xfrm
      (mobikeParams P w sa prop localIP sa.remoteAddr)) := by
    simp [removeXFRMChildSA, hprop, hip, hspi, mobikeParams, IkeSA.currentPair]
  have hfrees {key : Xfrm.PolicyKey} {pol : Xfrm.XfrmPolicy}
      (hpol : (Xfrm.removeChildSA w.xfrm (mobikeParams P w sa prop localIP
        sa.remoteAddr)).policies.lookup key = some pol) :
      w.xfrm.policies.lookup key = some pol ∧
        ∀ v, w.policyView sa.spiI = some v → v.ready = true → key ∉ v.keys := by
    have hpol' : (removeXFRMChildSA P w sa).xfrm.policies.lookup key = some pol := by simp_all
    rw [policyView_of_lookup h]
    exact removeXFRMChildSA_policies hpol'
  cases hc with
  | refused => exact .same (fun _ => rfl) fun _ _ hpol => hpol
  | failed x hx =>
    refine .same (fun _ => rfl) fun key pol hpol => ?_
    exact (hfrees (((Xfrm.installChildSA_fail hx).2 key).symm.trans hpol)).1
  | moved x hx =>
    obtain ⟨hst, hpols⟩ := Xfrm.installChildSA_ok hx
    have hhas : (sa.migrated remote).hasSlot .current = true := by
      simp [IkeSA.hasSlot, IkeSA.migrated, hprop, hspi]
    have hfam : Xfrm.sameFamily localIP remote.ip = true := hst.family
    have hbound : ((sa.sessionID.bind w.context).map Session.S2BContext.paa).isSome = true := by
      have hhas0 : sa.hasSlot .current = true := hhas
      have hv := (policyView_of_lookup h).trans (policyView_eq_some.mpr ⟨hhas0, rfl⟩)
      exact hp.bound sa.spiI _ hv
    refine .changed sa.spiI ((sa.migrated remote).policyView w.context) ?_
      ⟨policyView_write (fun k => World.lookupSA_storeSA _ _ _) fun _ _ _ _ _ _ _ => rfl, ?_⟩
    · intro v1 hv
      obtain ⟨-, rfl⟩ := policyView_eq_some.mp hv
      exact hbound
    · intro key pol hpol
      rcases policiesAdded_lookup hpols hpol with ⟨howner, hmem⟩ | hold
      · refine .inl ⟨_, policyView_eq_some.mpr ⟨hhas, rfl⟩, ?_, howner, ?_⟩
        · simp [IkeSA.migrated, hip, hfam]
        · rw [World.remoteTS_eq] at hmem
          exact hmem
      · grind

end
end Epdg
