import Epdg.System.Children
import Epdg.System.Scenario

/-!
Who records the CHILD SAs in the kernel.

A second rekey overwrites the pending CHILD SA, an IKE_SA_INIT request or the SPI chosen in
an IKE SA rekey may overwrite a whole SA, and an address update moves the recorded address
of a pending CHILD SA away from its states. In runs without these events every state in the
kernel is recorded by exactly one SA.
-/
namespace Epdg
open Ikev2
variable {s : Slot} {remote : UDPAddr} {w w0 : World} {spi : UInt32} {r : ChildRecord} {k : UInt64}
  {i : Input} {c : Xfrm.EspPair} {rekeyed : IkeSA → Prop} {prop : ChildProposal}
  {msg nonceI nonceR : Bytes} {sa0 : IkeSA} {hdr : IKEHeader}

def Incoming.record (m : Incoming) (spi peerSPI : UInt32) : ChildRecord :=
  ⟨m.sa.localIP, ⟨m.sa.localIP.getD IP.ipv4zero, m.remote.ip, spi, peerSPI⟩⟩

def DrawSafe (w : World) (m : Incoming) (s : Slot) (spi peerSPI : UInt32) : Prop :=
  spi ≠ 0 ∧ Free w (m.sa.spiI, s) (m.record spi peerSPI)

structure PairSafeFor (S : Server) (w : World) (env : Env) (m : Incoming) : Prop where
  init : m.hdr.exchangeType = exchIKESAInit → m.sa.state = .auth
  auth : m.hdr.exchangeType = exchIKEAuth → m.sa.state = .auth → ∀ spi, env.espSPI = some spi →
    DrawSafe w m .current spi m.sa.peerESPSPI
  rekey : ∀ offer nonceI ke, m.hdr.exchangeType = exchCreateChildSA →
    openChild S m.sa.saKey m.msg = some (.childSA offer nonceI ke) →
    m.sa.pendingESPProp = none ∧ m.remote.ip = m.sa.remoteAddr.ip ∧
      ∀ prop propNum peerSPI spi, selectAndExtractESP offer = some (prop, propNum, peerSPI) →
        env.espSPI = some spi → DrawSafe w m .pending spi peerSPI
  ikeRekey : ∀ offer nonceI ke newSPII, m.hdr.exchangeType = exchCreateChildSA →
    openChild S m.sa.saKey m.msg = some (.ikeSA offer nonceI ke) →
    IkeRekeyAccepted S env offer ke newSPII → w.lookupSA newSPII = none
  move : ∀ pl, m.hdr.exchangeType = exchInformational →
    openInfo S m.sa.saKey m.msg = some pl → pl.hasUpdateSA = true →
    m.sa.cookie2 = some pl.cookie2 → m.sa.state = .established ∧ m.sa.pendingESPProp = none ∧
      Free w (m.sa.spiI, .current) (m.record m.sa.localESPSPI m.sa.peerESPSPI)

def Ikev2.IkeSA.RecordsPair (sa : IkeSA) (c : Xfrm.EspPair) : Prop :=
  sa.espProp.isSome = true ∧ sa.localESPSPI = c.inboundSPI ∧ sa.peerESPSPI = c.outboundSPI ∨
    sa.pendingESPProp.isSome = true ∧ sa.pendingLocalESPSPI = c.inboundSPI ∧
      sa.pendingPeerESPSPI = c.outboundSPI

def PairSafe (S : Server) (w : World) (i : Input) : Prop :=
  ∀ m, incoming S w i = some m → PairSafeFor S w i.env m

def IkeRekeyed (S : Server) (w : World) (i : Input) (sa : IkeSA) : Prop :=
  ∃ m offer nonceI ke newSPII, incoming S w i = some m ∧
    m.hdr.exchangeType = exchCreateChildSA ∧
    openChild S m.sa.saKey m.msg = some (.ikeSA offer nonceI ke) ∧
    IkeRekeyAccepted S i.env offer ke newSPII ∧ sa = m.sa.refreshed i.env.now

section
variable {S : Server} {P : Primitives} {env : Env} {w w' : World} {sa : IkeSA}

theorem slotsOk_establish (hok : SlotsOk sa) (hs : sa.state = .auth) (hspi : spi ≠ 0)
    : SlotsOk (sa.establish spi) := by
  refine ⟨(fun h => by cases h), fun _ _ => hspi, ?_⟩
  intro hp
  have hp' : sa.pendingESPProp.isSome = true := hp
  rw [(hok.1 hs).2] at hp'
  cases hp'

theorem slot_establish (hne : s ≠ .current) : (sa.establish spi).slot s = sa.slot s := by
  cases s with
  | current => exact (hne rfl).elim
  | pending => rfl

section
variable (hi : PairInv w) (h : w.lookupSA sa.spiI = some sa)
include hi h

theorem establish_children {remote : UDPAddr} {r : CreateSessionResult} {spi : UInt32}
    (hs : sa.state = .auth) (hremote : sa.remoteAddr = remote) (hspi : spi ≠ 0)
    (hfree : Free w (sa.spiI, .current)
      ⟨sa.localIP, ⟨sa.localIP.getD IP.ipv4zero, remote.ip, spi, sa.peerESPSPI⟩⟩)
    (hc : EstablishCase P w env remote sa r spi w') {rekeyed : IkeSA → Prop} :
    ChildrenCase rekeyed w w' := by
  have hok := hi.slots _ sa h
  have hok' := slotsOk_establish hok hs hspi
  have hgone {c : ChildRecord} {A : Prop} (hc : sa.slot .current = some c) : A := by
    rw [hok.slot_auth hs] at hc
    cases hc
  have hl : ∀ k, w'.lookupSA k =
      if k = sa.spiI then some (sa.establish spi) else w.lookupSA k := by
    intro k
    cases hc with
    | bare x hx => simp
    | installed prop localIP x hprop hip hx => simp
  have hslot (prop : ChildProposal) (hprop : sa.espProp = some prop) :
      (sa.establish spi).slot .current =
        some ⟨sa.localIP, ⟨sa.localIP.getD IP.ipv4zero, remote.ip, spi, sa.peerESPSPI⟩⟩ := by
    simp [IkeSA.slot, IkeSA.hasSlot, IkeSA.establish, hprop, hspi, IkeSA.pairAt,
      IkeSA.currentPair, hremote]
  cases hc with
  | bare x hx =>
    have hxs : ∀ key, ((markEstablished w env sa r spi).setKernel x).xfrm.states.lookup key =
        w.xfrm.states.lookup key := hx.1
    cases hprop : sa.espProp with
    | none =>
      have hslots (s : Slot) : (sa.establish spi).slot s = none := by
        cases s with
        | current => simp [IkeSA.slot, IkeSA.hasSlot, IkeSA.establish, hprop]
        | pending => exact hok.slot_auth hs .pending
      refine .kept (.overwrite hi hl hok' hslots ?_ hxs)
      intro sa1 hl1 s
      rw [h] at hl1
      cases hl1
      exact hok.slot_auth hs s
    | some prop =>
      refine .acquired sa (sa.establish spi) .current _
        ⟨h, hl, hok', rfl, hslot prop hprop, fun s => slot_establish, hfree, ?_⟩
      intro key st hst
      rw [hxs] at hst
      exact .inr ⟨hst, hgone⟩
  | installed prop localIP x hprop hip hx =>
    refine .acquired sa (sa.establish spi) .current _
      ⟨h, hl, hok', rfl, hslot prop hprop, fun s => slot_establish, hfree, ?_⟩
    intro key st hst
    rcases statesAdded_lookup (Xfrm.installChildSA_ok hx).1 hst with hnew | hold
    · left
      rw [hip]
      exact hnew
    · exact .inr ⟨hold, hgone⟩

theorem childRekey_acquires {remote : UDPAddr} {prop : ChildProposal} {propNum : UInt8}
    {peerSPI spi : UInt32} {nonceI nonceR : Bytes} {keys : ChildKeys} {p : Xfrm.ChildSAParams}
    {k : Xfrm.Kernel} {e : Event} (hs : sa.state ≠ .auth) (hpend : sa.pendingESPProp = none)
    (hremote : remote.ip = sa.remoteAddr.ip) (hspi : spi ≠ 0)
    (hfree : Free w (sa.spiI, .pending)
      ⟨sa.localIP, ⟨sa.localIP.getD IP.ipv4zero, remote.ip, spi, peerSPI⟩⟩)
    (hadd : addPendingStates w env sa prop keys remote peerSPI spi = some (p, k, true)) :
    Acquires w (((w.setKernel k).emit e).storeSA
      (sa.setPending prop propNum peerSPI spi nonceI nonceR)) sa
      (sa.setPending prop propNum peerSPI spi nonceI nonceR) .pending
      ⟨sa.localIP, ⟨sa.localIP.getD IP.ipv4zero, remote.ip, spi, peerSPI⟩⟩ := by
  obtain ⟨localIP, hip, hp, hk⟩ := addPendingStates_some hadd
  have hok := hi.slots _ sa h
  have hok' : SlotsOk (sa.setPending prop propNum peerSPI spi nonceI nonceR) :=
    ⟨fun hs' => (hs hs').elim, hok.2.1, fun _ => hspi⟩
  refine ⟨h, fun k' => World.lookupSA_storeSA _ _ _, hok', rfl, ?_, ?_, hfree, ?_⟩
  · simp [IkeSA.slot, IkeSA.hasSlot, IkeSA.setPending, IkeSA.pairAt, IkeSA.pendingPair, hremote]
  · intro s hne
    cases s with
    | current => rfl
    | pending => exact (hne rfl).elim
  · intro key st hst
    rcases statesAdded_lookup (Xfrm.addChildSAStates_ok hk).1 hst with hnew | hold
    · left
      rw [hip]
      rw [hp] at hnew
      exact hnew
    · refine .inr ⟨hold, fun hs' => ?_⟩
      simp [IkeSA.slot, IkeSA.hasSlot, hpend] at hs'

theorem ikeRekey_passes {prop : NegotiatedProposal} {shared : Bytes} {newSPII newSPIR : UInt64}
    (hs : sa.state = .established) (hnew : w.lookupSA newSPII = none) :
    PassesChild w (ikeRekeyStore w sa
      (rekeyedSA P w env sa prop shared nonceI nonceR newSPII newSPIR)) sa
      (rekeyedSA P w env sa prop shared nonceI nonceR newSPII newSPIR) where
  found := h
  vacant := hnew
  table := lookupSA_ikeRekeyStore _ _ _
  slotsOk := by
    have hok := hi.slots _ sa h
    refine ⟨⟨(fun ha => by cases ha), ?_, fun hp => by cases hp⟩, ?_, ?_, hok.2.2⟩
    · intro _
      exact hok.2.1 (by simp [hs])
    · intro ha
      have ha' : sa.state = .auth := ha
      simp_all
    · intro _ he
      cases he
  session := rfl
  current := rfl
  pending := rfl
  states key := by simp [ikeRekeyStore]

theorem migrate_children {remote : UDPAddr} {prop : ChildProposal} {localIP : IP}
    {out : World × Bool} (hs : sa.state = .established) (hpend : sa.pendingESPProp = none)
    (hprop : sa.espProp = some prop) (hip : sa.localIP = some localIP)
    (hfree : Free w (sa.spiI, .current)
      ⟨sa.localIP, ⟨localIP, remote.ip, sa.localESPSPI, sa.peerESPSPI⟩⟩)
    (hc : MigrateCase P w env sa prop localIP remote out) {rekeyed : IkeSA → Prop} :
    ChildrenCase rekeyed w (if out.2 then out.1.storeSA (sa.migrated remote) else out.1) := by
  have hok := hi.slots _ sa h
  have hspi : sa.localESPSPI ≠ 0 := hok.2.1 (by simp [hs]) (by simp [hprop])
  -- whatever the installation does, the states at the old address are gone
  have hfrees {key : Xfrm.StateKey} {st : Xfrm.XfrmState}
      (hst : (Xfrm.removeChildSA w.xfrm (mobikeParams P w sa prop localIP
        sa.remoteAddr)).states.lookup key = some st) :
      w.xfrm.states.lookup key = some st ∧
        (sa.slot .current = some ⟨some st.child.localIP, st.child⟩ →
          ¬ Sits ⟨some st.child.localIP, st.child⟩ key) := by
    have he : removeXFRMChildSA P w sa = w.setKernel (Xfrm.removeChildSA w.xfrm
        (mobikeParams P w sa prop localIP sa.remoteAddr)) := by
      simp [removeXFRMChildSA, hprop, hip, hspi, mobikeParams, IkeSA.currentPair]
    have hst' : (removeXFRMChildSA P w sa).xfrm.states.lookup key = some st := by simp_all
    obtain ⟨hst0, hfree⟩ := removeXFRMChildSA_frees hst'
    refine ⟨hst0, fun hslot => ?_⟩
    obtain ⟨hhas, hip', hc'⟩ := slot_installed hslot
    rw [hc']
    exact hfree _ hip' hhas
  cases hc with
  | refused => exact .kept (.fewer hi (fun _ => rfl) fun _ _ hst => hst)
  | failed x hx =>
    refine .kept (.fewer hi (fun _ => rfl) ?_)
    intro key st hst
    have hsame := (Xfrm.installChildSA_fail hx).1 key
    simp_all
  | moved x hx =>
    have hok' : SlotsOk (sa.migrated remote) := hok
    refine .acquired sa (sa.migrated remote) .current _
      ⟨h, fun k' => World.lookupSA_storeSA _ _ _, hok', rfl, ?_, ?_, hfree, ?_⟩
    · simp [IkeSA.slot, IkeSA.hasSlot, IkeSA.migrated, hprop, hspi, IkeSA.pairAt,
        IkeSA.currentPair, hip]
    · intro s hne
      cases s with
      | current => exact (hne rfl).elim
      | pending => simp [IkeSA.slot, IkeSA.hasSlot, IkeSA.migrated, hpend]
    · intro key st hst
      rcases statesAdded_lookup (Xfrm.installChildSA_ok hx).1 hst with hnew | hold
      · left
        rw [hip]
        exact hnew
      · grind

end

theorem Free.of_quiets {allowed : Triggers} (hf : Free w0 (sa.spiI, .current) r) (hi0 : PairInv w0)
    (hq : Quiets S env allowed w0 w) (hi : PairInv w) (h : w.lookupSA sa.spiI = some sa)
    (hs : sa.state = .auth) : Free w (sa.spiI, .current) r := by
  rintro ⟨k, s⟩ r' - hr'
  have hk : k ≠ sa.spiI := by
    rintro rfl
    obtain ⟨sa1, hl1, hslot⟩ := hr'
    rw [h] at hl1
    cases hl1
    rw [(hi.slots _ sa h).slot_auth hs] at hslot
    cases hslot
  obtain ⟨s', hs'⟩ := hq.holds hi0 hr'
  exact hf (k, s') r' (by simp [hk]) hs'

theorem Free.of_touch (hi0 : PairInv w0) (h0 : w0.lookupSA k = some sa0) (hc : sa.core = sa0.core)
    (hw : w = w0.storeSA sa) (hf : Free w0 (sa0.spiI, s) r) : Free w (sa.spiI, s) r := by
  have hk : sa.spiI = sa0.spiI := (SameIdentity.of_core hc).spiI
  have h0' : w0.lookupSA sa0.spiI = some sa0 := (hi0.base.keyed k sa0 h0) ▸ h0
  rintro ⟨k', s'⟩ r' hne ⟨sa1, hl1, hs1⟩
  obtain ⟨sa2, hl2, hs2, -⟩ := (KeepsChildren.touch hi0 h0' hc).back k' sa1 s' r' (hw ▸ hl1) hs1
  exact hf (k', s') r' (hk ▸ hne) ⟨sa2, hl2, hs2⟩

theorem vacant_of_touch {k0 : UInt64} (h0 : w0.lookupSA k0 = some sa0) (hk : sa.spiI = k0)
    (hw : ∃ e, w = (w0.storeSA sa).emit e) (hnone : w0.lookupSA k = none)
    : w.lookupSA k = none := by
  have hne : k ≠ sa.spiI := by grind
  obtain ⟨e, rfl⟩ := hw
  simp_all

theorem PairSafeFor.moves {m : Incoming} {pl : InfoPayloads} (hsafe : PairSafeFor S w env m)
    (hex : m.hdr.exchangeType = exchInformational) (hsa : sa = m.sa.seen env.now)
    (hopen : openInfo S m.sa.saKey m.msg = some pl) (hup : pl.hasUpdateSA = true)
    (hcookie : sa.cookie2 = some pl.cookie2) :
    sa.state = .established ∧ sa.pendingESPProp = none ∧
      Free w (m.sa.spiI, .current) (m.record m.sa.localESPSPI m.sa.peerESPSPI) := by
  have hcore : sa.core = m.sa.core := by rw [hsa]; exact seen_core m.sa env.now
  have hcookie0 : m.sa.cookie2 = some pl.cookie2 := by
    rw [← seen_cookie2 m.sa env.now, ← hsa]
    exact hcookie
  obtain ⟨hest, hpend, hfree⟩ := hsafe.move pl hex hopen hup hcookie0
  exact ⟨(IkeSA.eq_of_core hcore IkeSA.state fun _ => rfl).trans hest,
    (IkeSA.eq_of_core hcore IkeSA.pendingESPProp fun _ => rfl).trans hpend, hfree⟩

theorem Major.children {i : Input} {remote : UDPAddr} {msg : Bytes} {hdr : IKEHeader}
    {w0 : World} (hsafe : PairSafe S w0 i) (hi0 : PairInv w0)
    (hin : ∀ sa, w0.lookupSA hdr.initiatorSPI = some sa →
      incoming S w0 i = some ⟨remote, msg, hdr, sa⟩)
    (hq : Quiets S i.env i.triggers w0 w) (h : Major S i.env remote msg hdr w0 w w')
    (hi : PairInv w) : ChildrenCase (IkeRekeyed S w0 i) w w' := by
  cases h with
  | create natt req offer ke prop propNum nonceI nonceR priv shared spiR resp hex hp hw =>
    have hok : SlotsOk (initSA S w i.env remote msg hdr natt req prop nonceI nonceR shared spiR
        resp) := .of_auth rfl rfl rfl
    refine .kept (.overwrite hi (fun k => World.lookupSA_storeSA _ _ _) hok
      (fun s => hok.slot_auth rfl s) ?_ fun _ => rfl)
    intro sa hl
    have hl0 : w0.lookupSA hdr.initiatorSPI = some sa := by
      obtain ⟨c, rfl⟩ := hw
      exact hl
    exact (hi.slots _ sa hl).slot_auth ((hsafe _ (hin sa hl0)).init hex)
  | swmStart sa req avps hex hspi h hs hid hround hdea =>
    have hok : SlotsOk (sa.swmStarted i.env.now) := hi.slots _ sa h
    have hl (k : UInt64) := World.lookupSA_storeSA w (sa.swmStarted i.env.now) k
    exact .kept (.rewrite hi h (fun k => (World.lookupSA_updateSession _ _ _ k).trans (hl k)) hok
      (fun _ => rfl) rfl fun key st hst => by simpa using hst)
  | recordS2b sa r hex h hs hr hspi =>
    exact .kept (.fewer hi (World.lookupSA_updateSession _ _ _) fun key st hst => by
      simpa using hst)
  | establish sa0 sa pl auth r spi hex h0 hst0 hopen hsa h hv hr hspi =>
    have hkeep {α : Type} (f : IkeSA → α)
        (hf : ∀ (s : IkeSA) (b : Bool), f { s with mobikeEnabled := b } = f s) :
        f sa = f (sa0.heard remote i.env.now) := by
      rw [hsa]
      exact IkeSA.noteMobike_keeps f hf _ pl
    have hs : sa.state = .auth := (hkeep IkeSA.state fun _ _ => rfl).trans hst0.2.1
    have hip : sa.localIP = sa0.localIP := hkeep IkeSA.localIP fun _ _ => rfl
    have hpeer : sa.peerESPSPI = sa0.peerESPSPI := hkeep IkeSA.peerESPSPI fun _ _ => rfl
    have hk : sa.spiI = sa0.spiI := hkeep IkeSA.spiI fun _ _ => rfl
    obtain ⟨hne, hfree⟩ := (hsafe _ (hin sa0 h0)).auth hex hst0.2.1 spi hspi
    have hfree' : Free w0 (sa.spiI, .current) ⟨sa.localIP,
        ⟨sa.localIP.getD IP.ipv4zero, remote.ip, spi, sa.peerESPSPI⟩⟩ := by
      rw [hip, hpeer, hk]
      exact hfree
    exact establish_children hi h hs (hkeep IkeSA.remoteAddr fun _ _ => rfl) hne
      (hfree'.of_quiets hi0 hq hi h hs) (establish_cases S.prims w i.env remote sa r spi)
  | childRekey sa0 sa offer nonceI nonceR ke prop propNum peerSPI spi dh p x hex h0 hst0 hsa
      hopen hsel hdh hnr hw hdraw hadd =>
    have hl : w.lookupSA sa.spiI = some sa := by rw [hw]; exact lookupSA_stored _ _
    have hst : sa.state = .established := by rw [hsa]; exact hst0.2
    obtain ⟨hpend, hremote, hdraws⟩ := (hsafe _ (hin sa0 h0)).rekey offer nonceI ke hex hopen
    obtain ⟨hne, hfree⟩ := hdraws prop propNum peerSPI spi hsel hdraw.2
    have hfree' : Free w (sa.spiI, .pending) ⟨sa.localIP,
        ⟨sa.localIP.getD IP.ipv4zero, remote.ip, spi, peerSPI⟩⟩ := by
      rw [hsa] at hw ⊢
      exact hfree.of_touch hi0 h0 rfl hw
    exact .acquired sa _ .pending _
      (childRekey_acquires hi hl (by simp [hst]) (hsa ▸ hpend) (hsa ▸ hremote) hne hfree' hadd)
  | ikeRekey sa0 sa offer ke prop propNum nonceI nonceR priv shared newSPII newSPIR hex h0
      hst0 hsa hopen hp hw h =>
    have hst : sa.state = .established := by rw [hsa]; exact hst0.2
    have hacc : IkeRekeyAccepted S i.env offer ke newSPII :=
      ⟨prop, propNum, nonceR, priv, shared, newSPIR, hp⟩
    have hnew := (hsafe _ (hin sa0 h0)).ikeRekey offer nonceI ke newSPII hex hopen hacc
    have hk : sa.spiI = hdr.initiatorSPI := by
      rw [hsa]
      exact hi0.base.keyed _ sa0 h0
    exact .passed sa _ ⟨_, offer, nonceI, ke, newSPII, hin sa0 h0, hex, hopen, hacc, hsa⟩
      (ikeRekey_passes hi h hst (vacant_of_touch h0 hk hw hnew))
  | challenge sa0 sa pl c2 hex h0 hst0 hsa hopen hup hcookie hchild hw hdraw =>
    have hl : w.lookupSA sa.spiI = some sa := by rw [hw]; exact lookupSA_stored _ _
    have hok : SlotsOk (sa.challenged c2) := hi.slots _ sa hl
    exact .kept (.rewrite hi hl (fun k => World.lookupSA_storeSA _ _ _) hok (fun _ => rfl) rfl
      fun key st hst => hst)
  | migrate w1 sa0 sa pl prop localIP ok hex h0 hst0 hsa hopen hup hcookie hchild hw hmig =>
    have hl : w.lookupSA sa.spiI = some sa := by rw [hw]; exact lookupSA_stored _ _
    obtain ⟨hest, hpend, hfree⟩ := (hsafe _ (hin sa0 h0)).moves hex hsa hopen hup.1 hcookie
    have hcore : sa.core = sa0.core := by rw [hsa]; exact seen_core sa0 i.env.now
    have hkeep {α : Type} (f : IkeSA → α) (hf : ∀ s : IkeSA, f s.core = f s) : f sa = f sa0 :=
      IkeSA.eq_of_core hcore f hf
    have hrec : (⟨sa.localIP, ⟨localIP, remote.ip, sa.localESPSPI, sa.peerESPSPI⟩⟩ :
        ChildRecord) = (Incoming.mk remote msg hdr sa0).record sa0.localESPSPI
          sa0.peerESPSPI := by
      have hip : sa0.localIP = some localIP :=
        (hkeep IkeSA.localIP fun _ => rfl).symm.trans hchild.2
      simp only [Incoming.record, hip, Option.getD_some, hchild.2,
        hkeep IkeSA.localESPSPI fun _ => rfl, hkeep IkeSA.peerESPSPI fun _ => rfl]
    have hfree' := hfree.of_touch hi0 h0 hcore hw
    rw [← hrec] at hfree'
    have hc := migrateMobikeXFRM_cases S.prims w i.env sa prop localIP remote
    rw [hmig] at hc
    exact migrate_children hi hl hest hpend hchild.1 hchild.2 hfree' hc

theorem Major.pairInv {i : Input} {remote : UDPAddr} {msg : Bytes} {hdr : IKEHeader}
    {w0 : World} (hsafe : PairSafe S w0 i) (hi0 : PairInv w0)
    (hin : ∀ sa, w0.lookupSA hdr.initiatorSPI = some sa →
      incoming S w0 i = some ⟨remote, msg, hdr, sa⟩)
    (hq : Quiets S i.env i.triggers w0 w) (h : Major S i.env remote msg hdr w0 w w')
    (hi : PairInv w) : PairInv w' :=
  hi.of_case (h.base hi.base) (h.children hsafe hi0 hin hq hi)

theorem records_of_slot (h : sa.slot s = some ⟨some c.localIP, c⟩) : sa.RecordsPair c := by
  obtain ⟨hhas, -, hc⟩ := slot_installed h
  rw [hc]
  cases s with
  | current =>
    simp only [IkeSA.hasSlot, Bool.and_eq_true] at hhas
    exact .inl ⟨hhas.1, rfl, rfl⟩
  | pending => exact .inr ⟨hhas, rfl, rfl⟩

theorem slot_of_records (hne : c.inboundSPI ≠ 0) (h : sa.RecordsPair c) :
    ∃ s r, sa.slot s = some r ∧ r.pair.inboundSPI = c.inboundSPI := by
  rcases h with ⟨hp, hin, -⟩ | ⟨hp, hin, -⟩
  · refine ⟨.current, _, IkeSA.slot_eq_some.mpr ⟨?_, rfl⟩, hin⟩
    simp [IkeSA.hasSlot, hp, hin, hne]
  · exact ⟨.pending, _, IkeSA.slot_eq_some.mpr ⟨hp, rfl⟩, hin⟩

theorem SlotsOk.inboundSPI_ne (hok : SlotsOk sa) (h : sa.slot s = some r)
    : r.pair.inboundSPI ≠ 0 := by
  obtain ⟨hhas, rfl⟩ := IkeSA.slot_eq_some.mp h
  cases s with
  | current =>
    simp only [IkeSA.hasSlot, Bool.and_eq_true, bne_iff_ne] at hhas
    exact hhas.2
  | pending => exact hok.2.2 hhas

theorem PairInv.holder_of_records (hi : PairInv w) {k' : UInt64} {sa' : IkeSA}
    (h : w.lookupSA k = some sa) (hslot : sa.slot s = some ⟨some c.localIP, c⟩)
    (h' : w.lookupSA k' = some sa') (hrec : sa'.RecordsPair c) : k' = k := by
  have hne := (hi.slots k sa h).inboundSPI_ne hslot
  obtain ⟨s', r', hs', hin⟩ := slot_of_records hne hrec
  by_contra hk
  have hap := hi.exact.apart (k', s') (k, s) r' _ (fun he => hk (congrArg Prod.fst he))
    ⟨sa', h', hs'⟩ ⟨sa, h, hslot⟩
  exact hap.1 hin

theorem PairInv.torn_states (hi : PairInv w) (hl : w.lookupSA k = some sa) (P : Primitives)
    (strOpen : Bool) (key : Xfrm.StateKey) (st : Xfrm.XfrmState) :
    (fullTeardown P strOpen (w.storeSA sa.closing) sa.closing).xfrm.states.lookup key = some st ↔
      w.xfrm.states.lookup key = some st ∧ ¬ sa.RecordsPair st.child := by
  have hslot (s : Slot) : sa.closing.slot s = sa.slot s := by cases s <;> rfl
  constructor
  · intro h
    obtain ⟨hst, hfree⟩ := fullTeardown_frees h
    have hst0 : w.xfrm.states.lookup key = some st := hst
    refine ⟨hst0, fun hrec => ?_⟩
    have hin := inPlace_of_lookup hst0
    obtain ⟨⟨k1, s1⟩, sa1, hl1, hs1⟩ := hi.exact.held key _ hin
    obtain rfl : k = k1 := hi.holder_of_records hl1 hs1 hl hrec
    have hl1' : w.lookupSA k = some sa1 := hl1
    rw [hl] at hl1'
    cases hl1'
    exact hfree s1 ((hslot s1).trans hs1) (hi.exact.sits key _ hin)
  · rintro ⟨hst, hrec⟩
    have hin := inPlace_of_lookup hst
    obtain ⟨⟨k1, s1⟩, sa1, hl1, hs1⟩ := hi.exact.held key _ hin
    have hkept : (fullTeardown P strOpen (w.storeSA sa.closing) sa.closing).xfrm.states.lookup key =
        (w.storeSA sa.closing).xfrm.states.lookup key := by
      apply fullTeardown_keeps
      intro s r hs
      have hholds : (childLedger w).holds (k, s) r := ⟨sa, hl, (hslot s) ▸ hs⟩
      have hholds1 : (childLedger w).holds (k1, s1) ⟨some st.child.localIP, st.child⟩ :=
        ⟨sa1, hl1, hs1⟩
      refine hi.exact.not_place Apart.not_sits ?_ hholds hholds1 hin
      intro he
      obtain rfl : k = k1 := congrArg Prod.fst he
      have hl1' : w.lookupSA k = some sa1 := hl1
      rw [hl] at hl1'
      cases hl1'
      exact hrec (records_of_slot hs1)
    exact hkept.trans hst

theorem PairInv.initial (secret : Bytes) (now : Time) : PairInv (World.initial secret now) where
  base := .initial secret now
  slots _ _ hl := by cases hl
  exact :=
    { sits := fun _ _ h => by cases h
      held := fun _ _ h => by cases h
      apart := by
        rintro _ _ _ _ - ⟨_, hl, -⟩
        cases hl }

end

section Runs
open Scenario

instance (r r' : ChildRecord) : Decidable (Apart r r') := inferInstanceAs (Decidable (_ ∧ _))

def freeCheck (w : World) (h0 : UInt64 × Slot) (r : ChildRecord) : Bool :=
  w.sas.keys.all fun k => [Slot.current, Slot.pending].all fun s =>
    decide ((k, s) = h0) || ((w.lookupSA k).bind fun sa => sa.slot s).all fun r' =>
      decide (Apart r r')

theorem free_of_check {h0 : UInt64 × Slot} (h : freeCheck w h0 r = true) : Free w h0 r := by
  rintro ⟨k, s⟩ r' hne ⟨sa, hl, hs⟩
  have hl' : w.lookupSA k = some sa := hl
  have hmem : s ∈ [Slot.current, Slot.pending] := by cases s <;> simp
  have hk := List.all_eq_true.mp h k (World.mem_keys_of_lookupSA hl')
  grind

def pairCheck (w : World) (env : Env) (m : Incoming) : Bool :=
  let draw (s : Slot) (spi peerSPI : UInt32) : Bool :=
    decide (spi ≠ 0) && freeCheck w (m.sa.spiI, s) (m.record spi peerSPI)
  if m.hdr.exchangeType = exchIKEAuth then
    env.espSPI.all fun spi => draw .current spi m.sa.peerESPSPI
  else if m.hdr.exchangeType = exchCreateChildSA then
    (openChild server m.sa.saKey m.msg).all fun
      | .childSA offer _ _ =>
        m.sa.pendingESPProp.isNone && decide (m.remote.ip = m.sa.remoteAddr.ip) &&
          (selectAndExtractESP offer).all fun x => env.espSPI.all fun spi =>
            draw .pending spi x.2.2
      | .ikeSA _ _ _ => false
      | .malformed => true
  else false

theorem pairSafe_of_check (h : (incoming server w i).all (pairCheck w i.env) = true)
    : PairSafe server w i := by
  intro m hm
  rw [hm, Option.all_some] at h
  have hdraw {s : Slot} {spi peerSPI : UInt32}
      (hd : (decide (spi ≠ 0) && freeCheck w (m.sa.spiI, s) (m.record spi peerSPI)) = true) :
      DrawSafe w m s spi peerSPI := by
    simp only [Bool.and_eq_true, decide_eq_true_eq] at hd
    exact ⟨hd.1, free_of_check hd.2⟩
  have hauth : exchIKEAuth ≠ exchCreateChildSA := by decide
  refine ⟨?_, ?_, ?_, ?_, ?_⟩
  · intro hex
    simp [pairCheck, hex, exchIKESAInit, exchIKEAuth, exchCreateChildSA] at h
  · intro hex _ spi hspi
    simp only [pairCheck, hex, if_true, hspi, Option.all_some] at h
    exact hdraw h
  · intro offer nonceI ke hex hopen
    simp only [pairCheck, hex, hauth.symm, if_false, if_true, hopen, Option.all_some,
      Bool.and_eq_true, Option.isNone_iff_eq_none, decide_eq_true_eq] at h
    grind
  · intro offer nonceI ke newSPII hex hopen
    simp [pairCheck, hex, hauth.symm, hopen] at h
  · intro pl hex
    simp [pairCheck, hex, exchInformational, exchIKEAuth, exchCreateChildSA] at h

def rekeyedOnce : List Input :=
  attached ++ [fromUE (childRekeyMessage 5 0x61 false) (childDraws 8 0x1003)]

instance (sa : IkeSA) (c : Xfrm.EspPair) : Decidable (sa.RecordsPair c) :=
  inferInstanceAs (Decidable (_ ∨ _))

end Runs
end Epdg
