import Epdg.Properties.Linking
import Epdg.Properties.Ownership
import Epdg.System.Policies

/-!
What a teardown removes from the kernel.

`removeXFRMChildSA` computes the selectors from the session, which the PGW may have deleted or
emptied before, and the endpoints from the address of the SA, while a rekey installs its
states for the source of the packet. A local SPI of 0 counts as nothing installed. In runs
without these events a teardown removes exactly what was installed for the SA.
-/
namespace Epdg
open Ikev2
variable {id : Session.ID} {k : UInt64} {c : Session.S2BContext} {env : Env} {allowed : Triggers}
  {remote : UDPAddr} {msg : Bytes} {hdr : IKEHeader} {w : World} {key : Xfrm.PolicyKey}
  {pol : Xfrm.XfrmPolicy}

structure TornDown (w w' : World) (sa : IkeSA) : Prop where
  states : ∀ key st, w'.xfrm.states.lookup key = some st ↔
    w.xfrm.states.lookup key = some st ∧ ¬ sa.RecordsPair st.child
  policies : ∀ key pol, w'.xfrm.policies.lookup key = some pol ↔
    w.xfrm.policies.lookup key = some pol ∧ pol.owner ≠ sa.sessionID
  clean : ∀ id, sa.sessionID = some id →
    (∀ key st, w'.xfrm.states.lookup key = some st → st.owner ≠ some id) ∧
    ∀ c, w.context id = some c → ∀ key ∈ policyKeys (IPNet.host (some c.paa)),
      w'.xfrm.policies.lookup key = none

structure RemovalSafe (S : Server) (w : World) (i : Input) : Prop where
  pair : PairSafe S w i
  fresh : FreshID S w i
  ikeRekey : ∀ m offer nonceI ke newSPII, incoming S w i = some m →
    m.hdr.exchangeType = exchCreateChildSA →
    openChild S m.sa.saKey m.msg = some (.ikeSA offer nonceI ke) →
    IkeRekeyAccepted S i.env offer ke newSPII → m.sa.pendingESPProp = none
  paa : ∀ r id c, i.env.s2b = .ok r → w.context id = some c → c.paa ≠ IP.v4 r.paa
  kept : ∀ ev, i.handles ev → (∀ id c, w.context id = some c → ¬ ev.releases c) ∧
    ∀ r, i.env.s2b = .ok r → ¬ ev.releases (s2bContext r)

def Owned (w : World) : Prop :=
  ∀ key st k s sa, w.xfrm.states.lookup key = some st → w.lookupSA k = some sa →
    sa.slot s = some ⟨some st.child.localIP, st.child⟩ → st.owner = sa.sessionID

def PaaApart (w : World) : Prop :=
  ∀ id id' c c', w.context id = some c → w.context id' = some c' →
    IPNet.host (some c.paa) = IPNet.host (some c'.paa) → id = id'

structure RemovalInv (w : World) : Prop where
  pair : PairInv w
  refs : RefInv w
  opened : Opened w
  present : Present w
  apart : PaaApart w
  owned : Owned w
  policed : Policed w

theorem host_eq_v4 {p : IP} {a : UInt32} (h : IPNet.host (some p) = IPNet.host (some (IP.v4 a))) :
    p = IP.v4 a := by
  cases p with
  | v4 b =>
    simp only [IPNet.host, Option.bind_some, IP.to4, IPNet.mk.injEq, and_true] at h
    exact h
  | v6 hi lo => simp [IPNet.host, IP.to4, IPNet.all] at h

section
variable {S : Server} {i : Input} {w0 w w' : World} {sa sa' : IkeSA}

theorem RemovalSafe.keepsSessions (h : RemovalSafe S w i) : KeepsSessions w i := by
  intro ev hev
  obtain ⟨h1, h2⟩ := h.kept ev hev
  exact ⟨fun id c hc hd => h1 id c hc (PgwEvent.releases_of_drops hd),
    fun r hr hd => h2 r hr (PgwEvent.releases_of_drops hd)⟩

theorem RemovalSafe.not_releases (h : RemovalSafe S w0 i) (hin : Within w0 i w) {ev : PgwEvent}
    (hev : i.handles ev) (hc : w.context id = some c) : ¬ ev.releases c := by
  rcases hin.context_cases hc with h0 | ⟨r, hr, rfl⟩
  · exact (h.kept ev hev).1 id c h0
  · exact (h.kept ev hev).2 r hr

/-! ### Owners of states -/

theorem Owned.of_back (ho : Owned w)
    (hb : ∀ k sa' s r, w'.lookupSA k = some sa' → sa'.slot s = some r →
      ∃ sa s', w.lookupSA k = some sa ∧ sa.slot s' = some r ∧ sa'.sessionID = sa.sessionID)
    (hx : ∀ key st, w'.xfrm.states.lookup key = some st →
      w.xfrm.states.lookup key = some st) : Owned w' := by
  intro key st k s sa' hst hl' hs'
  obtain ⟨sa, s', hl, hs, hid⟩ := hb k sa' s _ hl' hs'
  rw [hid]
  exact ho key st k s' sa (hx key st hst) hl hs

theorem Quiet.states_le (hq : Quiet S env allowed w w') {key : Xfrm.StateKey} {st : Xfrm.XfrmState}
    (h : w'.xfrm.states.lookup key = some st) : w.xfrm.states.lookup key = some st := by
  cases hq with
  | sent | derSent | deaReceived | completed | cookies | pgwTable | gtpu | verified | s2bCreate |
    touch | auth | openSession | success | expire => exact h
  | kernel k hk => exact (hk.1 key).symm.trans h
  | session id f hf => simpa using h
  | teardown sa hl => exact (fullTeardown_frees h).1
  | pgw ev hev =>
    rw [(handlePGW_aside w env ev).xfrm] at h
    exact h
  | deleteESP sa spi hl =>
    simp only [Ikev2.deleteESP] at h
    split at h
    · split at h
      · rw [World.updateSession_xfrm] at h
        exact (removeStates_slot .current h).1
      · exact (removeXFRMChildSA_frees h).1
    · split at h
      · exact (removeStates_slot .pending h).1
      · exact h

theorem Quiet.owned (hq : Quiet S env allowed w w') (hi : PairInv w) (ho : Owned w) : Owned w' := by
  refine ho.of_back ?_ fun key st => hq.states_le
  intro k sa' s r hl' hs'
  obtain ⟨sa, hl, he⟩ := hq.evolve hl'
  have hok := hi.slots k sa hl
  obtain ⟨s', hs⟩ := he.slot hok hs'
  refine ⟨sa, s', hl, hs, ?_⟩
  rcases he.sessionID with hid | ⟨hauth, -⟩
  · exact hid
  · rw [hok.slot_auth hauth] at hs
    cases hs

theorem Owned.acquire {s0 : Slot} {r : ChildRecord} (ho : Owned w) (hi : PairInv w)
    (hi' : PairInv w') (h : Acquires w w' sa sa' s0 r) : Owned w' := by
  intro key st k s sa1 hst hl1 hs1
  have hnew : (childLedger w').holds (sa.spiI, s0) r := (h.holds_iff _ _).mpr (.inl ⟨rfl, rfl⟩)
  have hheld : (childLedger w').holds (k, s) ⟨some st.child.localIP, st.child⟩ := ⟨sa1, hl1, hs1⟩
  rcases h.states key st hst with ⟨rfl, -, howner⟩ | ⟨hst0, hgone⟩
  · -- only the SA that acquired the new CHILD SA records it
    have hk : (k, s) = (sa.spiI, s0) := by
      by_contra hne
      exact Apart.irrefl _ (hi'.exact.apart _ _ _ _ hne hheld hnew)
    cases hk
    rw [h.table, if_pos rfl] at hl1
    cases hl1
    rw [howner, h.session]
  · rcases (h.holds_iff _ _).mp hheld with ⟨-, hr⟩ | ⟨-, hold⟩
    · -- an old state cannot have the record of the new one
      have hin := inPlace_of_lookup hst0
      obtain ⟨p, hp⟩ := hi.exact.held key _ hin
      by_cases hp0 : p = (sa.spiI, s0)
      · subst hp0
        obtain ⟨sa2, hl2, hs2⟩ := hp
        rw [h.found] at hl2
        cases hl2
        exact (hgone hs2 (hi.exact.sits key _ hin)).elim
      · have hap := h.free p _ hp0 hp
        rw [hr] at hap
        exact (Apart.irrefl _ hap).elim
    · obtain ⟨sa2, hl2, hs2⟩ := hold
      rw [ho key st k s sa2 hst0 hl2 hs2]
      rw [h.table] at hl1
      split at hl1
      · rename_i e
        cases hl1
        have hl2' : w.lookupSA k = some sa2 := hl2
        rw [e, h.found] at hl2'
        cases hl2'
        exact h.session.symm
      · simp_all

theorem Owned.pass {new : IkeSA} (ho : Owned w) (h : PassesChild w w' sa new)
    (hpend : sa.pendingESPProp = none) : Owned w' := by
  intro key st k s sa1 hst hl1 hs1
  rw [h.states] at hst
  rw [h.table] at hl1
  split at hl1
  · cases hl1
    rw [h.session]
    cases s with
    | current => exact ho key st sa.spiI .current sa hst h.found (h.current ▸ hs1)
    | pending =>
      rw [h.pending] at hs1
      cases hs1
  · split at hl1
    · cases hl1
      cases s with
      | current => simp [IkeSA.slot, IkeSA.hasSlot, IkeSA.replaced] at hs1
      | pending => simp [IkeSA.slot, IkeSA.hasSlot, IkeSA.replaced, hpend] at hs1
    · exact ho key st k s sa1 hst hl1 hs1

/-! ### PAAs of sessions -/

theorem PaaApart.of_le (ha : PaaApart w)
    (hle : ∀ id c, w'.context id = some c → w.context id = some c) : PaaApart w' :=
  fun id id' c c' h h' => ha id id' c c' (hle id c h) (hle id' c' h')

theorem Quiets.context_le (hq : Quiets S env allowed w w') (hk : w.sessions.Keyed)
    (h : w'.context id = some c) : w.context id = some c := by
  induction hq with
  | refl => exact h
  | tail hq1 hq2 ih => exact ih (hq2.context_le (Quiets.sessionsKeyed hq1 hk) h)

theorem PaaApart.record (ha : PaaApart w) {r : CreateSessionResult}
    (hfresh : ∀ id c, w.context id = some c → c.paa ≠ IP.v4 r.paa) (sid : Option Session.ID) :
    PaaApart (w.updateSession sid (sessionS2b r)) := by
  have hcases {id : Session.ID} {c : Session.S2BContext}
      (h : (w.updateSession sid (sessionS2b r)).context id = some c) :
      some id = sid ∧ c.paa = IP.v4 r.paa ∨ w.context id = some c := by
    rw [context_record] at h
    split at h
    · rename_i e
      obtain ⟨l, -, rfl⟩ := Option.map_eq_some_iff.mp h
      exact .inl ⟨e, rfl⟩
    · exact .inr h
  intro id id' c c' h h' he
  rcases hcases h with ⟨hid, hc⟩ | h0 <;> rcases hcases h' with ⟨hid', hc'⟩ | h0'
  · grind
  · rw [hc] at he
    exact (hfresh id' c' h0' (host_eq_v4 he.symm)).elim
  · rw [hc'] at he
    exact (hfresh id c h0 (host_eq_v4 he)).elim
  · exact ha id id' c c' h0 h0' he

theorem Major.paaApart (hsafe : RemovalSafe S w0 i) (hin0 : Within w0 i w0) (hin : Within w0 i w)
    (hq : Quiets S i.env i.triggers w0 w) (hm : Major S i.env remote msg hdr w0 w w')
    (ha : PaaApart w) : PaaApart w' := by
  cases hm.links hin0.base.keyed (handles_pgwAt i) with
  | same h | created _ _ _ _ _ _ _ h | moved _ _ _ _ _ _ _ _ _ _ _ _ _ _ _ h =>
    refine ha.of_le fun id c hc => ?_
    simpa only [World.context, h] using hc
  | started sa hl hs hex hid hl' h =>
    refine ha.of_le fun id c hc => ?_
    simp only [World.context, h] at hc ⊢
    grind
  | connected sa r w2 hl hs hr hq2 _ h =>
    have hk1 := (hin.record hr sa.sessionID).keyed
    have h1 : PaaApart (w.updateSession sa.sessionID (sessionS2b r)) :=
      ha.record (fun id c hc => hsafe.paa r id c hr (Quiets.context_le hq hin0.keyed hc)) _
    have h2 : PaaApart w2 := h1.of_le fun id c => Quiets.context_le hq2 hk1
    refine h2.of_le fun id c hc => ?_
    simpa only [World.context, h] using hc

/-! ### Policies -/

theorem Major.policyCase (hsafe : RemovalSafe S w0 i) (hb0 : Base w0) (hin : Within w0 i w)
    (hmsg : i.message S = some (remote, msg, hdr)) (hm : Major S i.env remote msg hdr w0 w w')
    (hi : RemovalInv w) : PolicyCase w w' := by
  have hauth {sa : IkeSA} (h : w.lookupSA sa.spiI = some sa) (hs : sa.state = .auth) :
      w.policyView sa.spiI = none :=
    (policyView_of_lookup h).trans ((hi.pair.slots _ sa h).policyView_auth hs _)
  cases hm with
  | create natt req offer ke prop propNum nonceI nonceR priv shared spiR resp hex hp hw =>
    refine .rewrite (fun k => World.lookupSA_storeSA _ _ _) (fun _ => rfl) ?_ fun _ _ hx => hx
    have hnew : (initSA S w i.env remote msg hdr natt req prop nonceI nonceR shared spiR
        resp).policyView w.context = none := rfl
    refine hnew.trans (Eq.symm ?_)
    cases hl : w.lookupSA hdr.initiatorSPI with
    | none => exact policyView_none hl
    | some sa =>
      have hl0 : w0.lookupSA hdr.initiatorSPI = some sa := by
        obtain ⟨c, rfl⟩ := hw
        exact hl
      have hs := (hsafe.pair _ (incoming_of_message hmsg hl0)).init hex
      exact (policyView_of_lookup hl).trans ((hi.pair.slots _ sa hl).policyView_auth hs _)
  | swmStart sa req avps hex hspi h hs hid hround hdea =>
    have hok : SlotsOk (sa.swmStarted i.env.now) := hi.pair.slots _ sa h
    have hl (k : UInt64) := World.lookupSA_storeSA w (sa.swmStarted i.env.now) k
    have hctx (id : Session.ID) : ((w.storeSA (sa.swmStarted i.env.now)).updateSession sa.sessionID
        fun s => { s with swmSessionID := some i.env.now }).context id = w.context id := by
      simp only [World.context]
      rw [links_updateSession _ _ _ (fun l => { l with swm := some i.env.now }) fun s => rfl]
      split
      · exact Option.bind_map
      · rfl
    exact .rewrite (fun k => (World.lookupSA_updateSession _ _ _ k).trans (hl k)) hctx
      ((hok.policyView_auth hs _).trans (hauth h hs).symm) fun key pol hx => by simpa using hx
  | recordS2b sa r hex h hs hr hspi =>
    refine .same (fun k => ?_) fun key pol hx => by simpa using hx
    have hself (k : UInt64) : (w.updateSession sa.sessionID (sessionS2b r)).lookupSA k =
        if k = sa.spiI then some sa else w.lookupSA k := by
      simp_all
    rw [policyView_write hself]
    · split
      · rename_i e
        rw [e, hauth h hs]
        exact (hi.pair.slots _ sa h).policyView_auth hs _
      · rfl
    · intro k sa1 id h1 hs1 hid1 _
      rw [context_record, if_neg (hi.refs.apart_of_auth hi.pair h hs h1 hs1 hid1)]
  | establish sa0 sa pl auth r spi hex h0 hst0 hopen hsa h hv hr hspi =>
    have hkeep {α : Type} (f : IkeSA → α)
        (hf : ∀ (s : IkeSA) (b : Bool), f { s with mobikeEnabled := b } = f s) :
        f sa = f (sa0.heard remote i.env.now) := by
      rw [hsa]
      exact IkeSA.noteMobike_keeps f hf _ pl
    have hs : sa.state = .auth := (hkeep IkeSA.state fun _ _ => rfl).trans hst0.2.1
    have hround : sa.eapRound ≠ 0 := by
      rw [hkeep IkeSA.eapRound fun _ _ => rfl]
      exact hst0.2.2
    obtain ⟨id, hid⟩ := Option.isSome_iff_exists.mp (hi.opened _ sa h hs hround)
    obtain ⟨hne, -⟩ := (hsafe.pair _ (incoming_of_message hmsg h0)).auth hex hst0.2.1 spi hspi
    refine establish_policyCase hin.keyed hi.pair hi.refs h hs hid
      (hi.present _ id ⟨sa, h, hid⟩) (hkeep IkeSA.remoteAddr fun _ _ => rfl) hne ?_
      (establish_cases S.prims w i.env remote sa r spi)
    intro ev hev
    have hhandles : i.handles ev := .inr ⟨1, hev⟩
    exact ⟨fun id c => hsafe.not_releases hin hhandles, (hsafe.kept ev hhandles).2 r hr⟩
  | childRekey sa0 sa offer nonceI nonceR ke prop propNum peerSPI spi dh p x hex h0 hst0 hsa
      hopen hsel hdh hnr hw hdraw hadd =>
    have hl : w.lookupSA sa.spiI = some sa := by rw [hw]; exact lookupSA_stored _ _
    obtain ⟨localIP, hip, hp, hk⟩ := addPendingStates_some hadd
    refine .rewrite (fun k => World.lookupSA_storeSA _ _ _) (fun _ => rfl)
      (policyView_of_lookup hl).symm fun key pol hx => ?_
    rw [← (Xfrm.addChildSAStates_ok hk).2]
    exact hx
  | ikeRekey sa0 sa offer ke prop propNum nonceI nonceR priv shared newSPII newSPIR hex h0
      hst0 hsa hopen hp hw h =>
    have hnew := (hsafe.pair _ (incoming_of_message hmsg h0)).ikeRekey offer nonceI ke newSPII
      hex hopen ⟨prop, propNum, nonceR, priv, shared, newSPIR, hp⟩
    have hk : sa.spiI = hdr.initiatorSPI := by
      rw [hsa]
      exact hb0.keyed _ sa0 h0
    have hvac := vacant_of_touch h0 hk hw hnew
    have hctx (id : Session.ID) : (ikeRekeyStore w sa (rekeyedSA S.prims w i.env sa prop shared
        nonceI nonceR newSPII newSPIR)).context id = w.context id := by
      have hlinks : (ikeRekeyStore w sa (rekeyedSA S.prims w i.env sa prop shared nonceI nonceR
          newSPII newSPIR)).links id = w.links id := links_updateSession_id _ _ fun s => rfl
      simp only [World.context, hlinks]
    refine .passed sa.spiI newSPII (policyView_none hvac) (fun k => ?_)
      fun key => by simp [ikeRekeyStore]
    have hl' := lookupSA_ikeRekeyStore w sa
      (rekeyedSA S.prims w i.env sa prop shared nonceI nonceR newSPII newSPIR) k
    have hspi' : (rekeyedSA S.prims w i.env sa prop shared nonceI nonceR newSPII newSPIR).spiI =
        newSPII := rfl
    rw [hspi'] at hl'
    split
    · rename_i e
      rw [if_pos e] at hl'
      rw [policyView_of_lookup hl', policyView_of_lookup h]
      exact policyView_context fun id _ => hctx id
    rename_i e
    rw [if_neg e] at hl'
    split
    · rename_i e'
      rw [if_pos e'] at hl'
      rw [policyView_of_lookup hl']
      rfl
    rename_i e'
    rw [if_neg e'] at hl'
    cases hk : w.lookupSA k with
    | none => rw [policyView_none (hl'.trans hk), policyView_none hk]
    | some sa1 =>
      rw [policyView_of_lookup (hl'.trans hk), policyView_of_lookup hk]
      exact policyView_context fun id _ => hctx id
  | challenge sa0 sa pl c2 hex h0 hst0 hsa hopen hup hcookie hchild hw hdraw =>
    have hl : w.lookupSA sa.spiI = some sa := by rw [hw]; exact lookupSA_stored _ _
    exact .rewrite (fun k => World.lookupSA_storeSA _ _ _) (fun _ => rfl)
      (policyView_of_lookup hl).symm fun key pol hx => hx
  | migrate w1 sa0 sa pl prop localIP ok hex h0 hst0 hsa hopen hup hcookie hchild hw hmig =>
    have hl : w.lookupSA sa.spiI = some sa := by rw [hw]; exact lookupSA_stored _ _
    obtain ⟨hest, -, -⟩ := (hsafe.pair _ (incoming_of_message hmsg h0)).moves hex hsa hopen
      hup.1 hcookie
    have hspi := (hi.pair.slots _ sa hl).2.1 (by simp [hest]) (by simp [hchild.1])
    have hc := migrateMobikeXFRM_cases S.prims w i.env sa prop localIP remote
    rw [hmig] at hc
    exact migrate_policyCase hi.policed hl hchild.1 hchild.2 hspi hc

/-! ### Teardowns -/

theorem RemovalInv.initial (secret : Bytes) (now : Time) :
    RemovalInv (World.initial secret now) where
  pair := .initial secret now
  refs := .initial secret now
  opened _ _ hl := by cases hl
  present := by
    rintro k id ⟨sa, hl, -⟩
    cases hl
  apart _ _ _ _ h := by cases h
  owned _ _ _ _ _ h := by cases h
  policed := ⟨(fun _ _ h => by cases h), fun _ _ h => by cases h⟩

theorem Quiet.removalInv (hsafe : RemovalSafe S w0 i) (hin : Within w0 i w)
    (hq : Quiet S i.env i.triggers w w') (hi : RemovalInv w) : RemovalInv w' where
  pair := hq.pairInv hi.pair
  refs := hq.refInv hin.base hi.refs
  opened := hq.opened hi.opened
  present := hq.present hsafe.keepsSessions hin hi.refs hi.present
  apart := hi.apart.of_le fun _ _ => hq.context_le hin.keyed
  owned := hq.owned hi.pair hi.owned
  policed := hi.policed.of_case (hq.policyCase hin.keyed hi.pair hi.refs
    fun _ hev _ _ => hsafe.not_releases hin hev)

theorem Major.removalInv (hsafe : RemovalSafe S w0 i) (hi0 : RemovalInv w0) (hin0 : Within w0 i w0)
    (hin : Within w0 i w) (hmsg : i.message S = some (remote, msg, hdr))
    (hq : Quiets S i.env i.triggers w0 w) (hm : Major S i.env remote msg hdr w0 w w')
    (hi : RemovalInv w) : RemovalInv w' := by
  have hc := hm.children hsafe.pair hi0.pair (fun sa => incoming_of_message hmsg) hq hi.pair
  have hpair := hi.pair.of_case (hm.base hin.base) hc
  refine ⟨hpair, hm.refInv hsafe.fresh hmsg hin0.base hi.refs, hm.opened hi.opened,
    hm.present hsafe.keepsSessions hin0.base hin hi.refs hi.present,
    hm.paaApart hsafe hin0 hin hq hi.apart, ?_,
    hi.policed.of_case (hm.policyCase hsafe hin0.base hin hmsg hi)⟩
  cases hc with
  | kept h =>
    refine hi.owned.of_back (fun k sa' s r hl hs => ?_) h.states
    obtain ⟨sa, hl0, hs0, hid⟩ := h.back k sa' s r hl hs
    grind
  | acquired sa sa' s0 r h => exact hi.owned.acquire hi.pair hpair h
  | passed sa new hr h =>
    obtain ⟨m, offer, nonceI, ke, newSPII, hm, hex, hopen, hacc, rfl⟩ := hr
    exact hi.owned.pass h (hsafe.ikeRekey m offer nonceI ke newSPII hm hex hopen hacc)

theorem policyView_session {v : PolicyView} (hv : w.policyView k = some v)
    (hb : v.paa.isSome = true) : ∃ sa id c, w.lookupSA k = some sa ∧ sa.sessionID = some id ∧
      w.context id = some c ∧ v.owner = some id ∧ v.paa = some c.paa := by
  obtain ⟨sa, hl, hv'⟩ := Option.bind_eq_some_iff.mp hv
  obtain ⟨-, rfl⟩ := policyView_eq_some.mp hv'
  obtain ⟨c, hc⟩ := Option.isSome_iff_exists.mp (Option.isSome_map ▸ hb)
  obtain ⟨id, hid, hctx⟩ := Option.bind_eq_some_iff.mp hc
  simp_all

theorem RemovalInv.owner_of_key (hi : RemovalInv w) (hpol : w.xfrm.policies.lookup key = some pol)
    (hc : w.context id = some c) (hmem : key ∈ policyKeys (IPNet.host (some c.paa)))
    : pol.owner = some id := by
  obtain ⟨k, v, hv, -, howner, hkey⟩ := hi.policed.covered key pol hpol
  obtain ⟨sa, id', c', -, -, hc', hown, hpaa⟩ := policyView_session hv (hi.policed.bound k v hv)
  have hnet : IPNet.host (some c.paa) = IPNet.host (some c'.paa) := by
    by_contra hne
    rw [PolicyView.keys, hpaa] at hkey
    exact policyKeys_disjoint hne hmem hkey
  rw [howner, hown, hi.apart id id' c c' hc hc' hnet]

section
variable (hi : RemovalInv w) (hl : w.lookupSA k = some sa)
include hi hl

theorem RemovalInv.covered_of_owner (hpol : w.xfrm.policies.lookup key = some pol)
    (howner : pol.owner = sa.sessionID) : ∃ v, w.policyView k = some v ∧ v.Covers key pol := by
  obtain ⟨k1, v, hv, hcov⟩ := hi.policed.covered key pol hpol
  obtain ⟨sa1, id, c, hl1, hid1, -, hown, -⟩ := policyView_session hv (hi.policed.bound k1 v hv)
  have hid : sa.sessionID = some id := by rw [← howner, hcov.2.1, hown]
  obtain rfl := hi.refs.uniq k1 k id ⟨sa1, hl1, hid1⟩ ⟨sa, hl, hid⟩
  grind

theorem RemovalInv.torn_policies (P : Primitives) (strOpen : Bool) (key : Xfrm.PolicyKey)
    (pol : Xfrm.XfrmPolicy) :
    (fullTeardown P strOpen (w.storeSA sa.closing) sa.closing).xfrm.policies.lookup key =
        some pol ↔ w.xfrm.policies.lookup key = some pol ∧ pol.owner ≠ sa.sessionID := by
  have hview : sa.closing.policyView (w.storeSA sa.closing).context = w.policyView k :=
    (policyView_of_lookup hl).symm
  rw [fullTeardown_policies]
  constructor
  · intro h
    obtain ⟨hpol, hfree⟩ := removeXFRMChildSA_policies h
    refine ⟨hpol, fun howner => ?_⟩
    obtain ⟨v, hv, hready, -, hmem⟩ := hi.covered_of_owner hl hpol howner
    simp_all
  · rintro ⟨hpol, howner⟩
    refine (removeXFRMChildSA_policies_kept fun v hv hmem => ?_).trans hpol
    rw [hview] at hv
    obtain ⟨sa1, id, c, hl1, hid, hc, -, hpaa⟩ :=
      policyView_session hv (hi.policed.bound k v hv)
    rw [hl] at hl1
    cases hl1
    rw [PolicyView.keys, hpaa] at hmem
    exact howner ((hi.owner_of_key hpol hc hmem).trans hid.symm)

theorem RemovalInv.tornDown (P : Primitives) (strOpen : Bool) :
    TornDown w (fullTeardown P strOpen (w.storeSA sa.closing) sa.closing) sa where
  states := hi.pair.torn_states hl P strOpen
  policies := hi.torn_policies hl P strOpen
  clean := by
    intro id hid
    constructor
    · intro key st hst howner
      obtain ⟨hst0, hrec⟩ := (hi.pair.torn_states hl P strOpen key st).mp hst
      obtain ⟨⟨k1, s1⟩, sa1, hl1, hs1⟩ := hi.pair.exact.held key _ (inPlace_of_lookup hst0)
      have hid1 := (hi.owned key st k1 s1 sa1 hst0 hl1 hs1).symm.trans howner
      obtain rfl := hi.refs.uniq k1 k id ⟨sa1, hl1, hid1⟩ ⟨sa, hl, hid⟩
      have hl1' : w.lookupSA k1 = some sa1 := hl1
      rw [hl] at hl1'
      cases hl1'
      exact hrec (records_of_slot hs1)
    · intro c hc key hmem
      by_contra hne
      obtain ⟨pol, hpol⟩ := Option.ne_none_iff_exists'.mp hne
      obtain ⟨hpol0, howner⟩ := (hi.torn_policies hl P strOpen key pol).mp hpol
      exact howner ((hi.owner_of_key hpol0 hc hmem).trans hid.symm)

end

/-- In every run whose steps are safe, and in every state that the last step passes through
before it tears an SA down, the teardown removes exactly what was installed for that SA. -/
theorem teardown_removes_installed (S : Server) (secret : Bytes) (now : Time)
    (inputs : List Input) (i : Input)
    (hsafe : Machine.Guarded (step S) (RemovalSafe S) (World.initial secret now) (inputs ++ [i]))
    (w : World) (hq : Quiets S i.env i.triggers (runFrom S secret now inputs) w) (k : UInt64)
    (sa : IkeSA) (hl : w.lookupSA k = some sa) (strOpen : Bool) :
    TornDown w (fullTeardown S.prims strOpen (w.storeSA sa.closing) sa.closing) sa := by
  obtain ⟨hrun, hlast, -⟩ := (Machine.guarded_append _ _).mp hsafe
  have hi : RemovalInv (runFrom S secret now inputs) := by
    refine guarded_run_within RemovalInv RemovalInv.initial ?_ ?_ hrun
    · intro i w0 w w' hg _ hin hq hi
      exact hq.removalInv hg hin hi
    · intro i remote msg hdr w0 w w' hg hi0 hin0 hin hmsg hq hm hi
      exact hm.removalInv hg hi0 hin0 hin hmsg hq hi
  have hreach : Reachable S (runFrom S secret now inputs) := ⟨secret, now, inputs, rfl⟩
  obtain ⟨-, hiw⟩ := hq.within_invariant (fun hin hq => hq.removalInv hlast hin)
    (Within.start hi.pair.base hreach.sessionsKeyed i) hi
  exact hiw.tornDown hl S.prims strOpen

end

section Runs
open Scenario

def removalCheck (w : World) (i : Input) : Bool :=
  (incoming server w i).all (pairCheck w i.env) && freshCheck server w i &&
    match i.env.s2b with
    | .ok r => w.sessions.sessions.keys.all fun id => (w.context id).all fun c =>
      decide (c.paa ≠ IP.v4 r.paa)
    | .failed _ => true

private theorem removalSafe_of_check {i : Input} (hpgw : ∀ ev, ¬ i.handles ev)
    (h : removalCheck w i = true) : RemovalSafe server w i := by
  simp only [removalCheck, Bool.and_eq_true] at h
  obtain ⟨⟨hpair, hfresh⟩, hpaa⟩ := h
  refine ⟨pairSafe_of_check hpair, freshID_of_check hfresh, ?_, ?_, fun ev hev => (hpgw ev hev).elim⟩
  · intro m offer nonceI ke newSPII hm hex hopen
    rw [hm, Option.all_some] at hpair
    have hauth : exchCreateChildSA ≠ exchIKEAuth := by decide
    simp [pairCheck, hex, hauth, hopen] at hpair
  · intro r id c hr hc
    rw [hr] at hpaa
    have hmem : id ∈ w.sessions.sessions.keys := by
      obtain ⟨l, hl, -⟩ := World.context_eq_some.mp hc
      obtain ⟨s, hs, -⟩ := World.links_some hl
      exact AList.mem_keys.mpr (AList.lookup_isSome.mp (Option.isSome_iff_exists.mpr ⟨s, hs⟩))
    grind

def deadPeer : Input := ⟨.dpd 0x11, { now := 100 * Config.second }⟩

private theorem rekeyedOnce_removalSafe : Machine.Guarded (step server) (RemovalSafe server)
    (World.initial [1] 0) (rekeyedOnce ++ [deadPeer]) := by
  have hno {remote : UDPAddr} {pkt : Bytes} {env : Env} (he : ∀ pos, env.pgwAt pos = []) :
      ∀ ev, ¬ (Input.mk (.packet remote pkt false) env).handles ev := by
    rintro ev (hev | ⟨pos, hev⟩)
    · cases hev
    · simp_all
  have hdead : ∀ ev, ¬ deadPeer.handles ev := by
    rintro ev (hev | ⟨pos, hev⟩) <;> cases hev
  rw [rekeyedOnce, Machine.guarded_append, Machine.guarded_append]
  have hs {w : World} {i : Input} := removalSafe_of_check (w := w) (i := i)
  exact ⟨⟨⟨hs (hno fun _ => rfl) (by decide +kernel), hs (hno fun _ => rfl) (by decide +kernel),
    hs (hno fun _ => rfl) (by decide +kernel), hs (hno fun _ => rfl) (by decide +kernel), trivial⟩,
    hs (hno fun _ => rfl) (by decide +kernel), trivial⟩,
    hs hdead (by decide +kernel), trivial⟩

/-- After an attach and a rekey, the end of the UE leaves nothing of it in the kernel. -/
theorem deadPeer_tornDown : ∃ sa, (after rekeyedOnce).lookupSA 0x11 = some sa ∧
    ((after rekeyedOnce).xfrm.states.keys.length = 4 ∧
      (after rekeyedOnce).xfrm.policies.keys.length = 3) ∧
    TornDown (after rekeyedOnce)
      (fullTeardown server.prims true ((after rekeyedOnce).storeSA sa.closing) sa.closing) sa := by
  have hrun : ((after rekeyedOnce).lookupSA 0x11).isSome = true ∧
      (after rekeyedOnce).xfrm.states.keys.length = 4 ∧
      (after rekeyedOnce).xfrm.policies.keys.length = 3 := by decide +kernel
  obtain ⟨sa, hl⟩ := Option.isSome_iff_exists.mp hrun.1
  exact ⟨sa, hl, hrun.2, teardown_removes_installed server [1] 0 rekeyedOnce deadPeer
    rekeyedOnce_removalSafe (after rekeyedOnce) .refl 0x11 sa hl true⟩

def rekeyedElsewhere : List Input :=
  attached ++ [⟨.packet ueMoved (childRekeyMessage 5 0x61 false) false, childDraws 8 0x1003⟩]

def zeroDrawn : List Input := Attach.complete {} 1 0

def leftOver (x : Xfrm.Kernel) (id : Session.ID) : Bool :=
  (x.states.keys.any fun key => (x.states.lookup key).any fun st => decide (st.owner = some id)) ||
    x.policies.keys.any fun key => (x.policies.lookup key).any fun pol =>
      decide (pol.owner = some id)

theorem not_tornDown_of_leftOver {w' : World} {sa : IkeSA} (hid : sa.sessionID = some id)
    (h : leftOver w'.xfrm id = true) : ¬ TornDown w w' sa := by
  intro ht
  simp only [leftOver, Bool.or_eq_true, List.any_eq_true] at h
  rcases h with ⟨key, -, hst⟩ | ⟨key, -, hpol⟩
  · obtain ⟨st, hl, ho⟩ := (Option.any_eq_true _ _).mp hst
    exact (ht.clean id hid).1 key st hl (of_decide_eq_true ho)
  · obtain ⟨pol, hl, ho⟩ := (Option.any_eq_true _ _).mp hpol
    exact ((ht.policies key pol).mp hl).2 ((of_decide_eq_true ho).trans hid.symm)

private theorem leaves_of_check {w : World}
    (h : (w.lookupSA 0x11).any (fun sa => sa.sessionID.any fun id =>
      leftOver (fullTeardown server.prims true (w.storeSA sa.closing) sa.closing).xfrm id) = true) :
    ∃ sa, w.lookupSA 0x11 = some sa ∧ ¬ TornDown w
      (fullTeardown server.prims true (w.storeSA sa.closing) sa.closing) sa := by
  obtain ⟨sa, hl, h1⟩ := (Option.any_eq_true _ _).mp h
  obtain ⟨id, hid, h2⟩ := (Option.any_eq_true _ _).mp h1
  exact ⟨sa, hl, not_tornDown_of_leftOver hid h2⟩

/-- A teardown leaves the policies of a session that the PGW deleted, and the states of a CHILD
SA rekeyed from another address or drawn with SPI 0. -/
theorem teardown_leaves_entries :
    (∃ sa, (after pgwDeleted).lookupSA 0x11 = some sa ∧ ¬ TornDown (after pgwDeleted)
      (fullTeardown server.prims true ((after pgwDeleted).storeSA sa.closing) sa.closing) sa) ∧
    (∃ sa, (after rekeyedElsewhere).lookupSA 0x11 = some sa ∧ ¬ TornDown (after rekeyedElsewhere)
      (fullTeardown server.prims true ((after rekeyedElsewhere).storeSA sa.closing)
        sa.closing) sa) ∧
    ∃ sa, (after zeroDrawn).lookupSA 0x11 = some sa ∧ ¬ TornDown (after zeroDrawn)
      (fullTeardown server.prims true ((after zeroDrawn).storeSA sa.closing) sa.closing) sa :=
  ⟨leaves_of_check (by decide +kernel), leaves_of_check (by decide +kernel),
    leaves_of_check (by decide +kernel)⟩

end Runs
end Epdg
