import Epdg.System.History
import Epdg.System.Scenario

/-!
The keys with which MOBIKE installs a CHILD SA again.

They are not stored but derived again from the keys and the nonces of the IKE SA. The
result is what was installed first only if the CHILD SA was created under the same IKE SA
and without a DH exchange of its own.
-/
namespace Epdg
open Ikev2
variable {remote : UDPAddr} {e : Event} {prop : ChildProposal} {localIP : IP}
  {r : CreateSessionResult} {spi : UInt32} {nonceI nonceR : Bytes} {i : Input} {t : List Event}

def Xfrm.ChildSAParams.keys (p : Xfrm.ChildSAParams) : ChildKeys :=
  ⟨p.encKeyIn, p.intKeyIn, p.encKeyOut, p.intKeyOut⟩

structure Creation where
  pfs : Bool
  inherited : Bool
  params : Xfrm.ChildSAParams
  deriving DecidableEq, Repr

def Event.child : Event → Option Nat
  | .childInstalled ref _ | .childRekeyed ref _ _ => some ref
  | .ikeRekeyed _ new => some new
  | _ => none

def creation (ref : Nat) (inbound outbound : UInt32) : List Event → Option Creation
  | [] => none
  | .childInstalled r p :: older =>
    if r = ref ∧ p.inboundSPI = inbound ∧ p.outboundSPI = outbound then
      some ⟨false, false, p⟩
    else creation ref inbound outbound older
  | .childRekeyed r pfs p :: older =>
    if r = ref ∧ p.inboundSPI = inbound ∧ p.outboundSPI = outbound then
      some ⟨pfs, false, p⟩
    else creation ref inbound outbound older
  | .ikeRekeyed old new :: older =>
    if new = ref then
      (creation old inbound outbound older).map fun c => { c with inherited := true }
    else creation ref inbound outbound older
  | _ :: older => creation ref inbound outbound older

section
variable {ref : Nat} {inbound outbound : UInt32} {t new : List Event} {e : Event}

theorem creation_cons (h : e.child ≠ some ref) :
    creation ref inbound outbound (e :: t) = creation ref inbound outbound t := by
  cases e with
  | childInstalled r p | childRekeyed r pfs p =>
    have hr : ¬ r = ref := fun he => h (he ▸ rfl)
    simp [creation, hr]
  | ikeRekeyed old new =>
    have hr : ¬ new = ref := fun he => h (he ▸ rfl)
    simp [creation, hr]
  | _ => rfl

theorem creation_append (h : ∀ e ∈ new, e.child ≠ some ref) :
    creation ref inbound outbound (new ++ t) = creation ref inbound outbound t := by
  induction new with
  | nil => rfl
  | cons e new ih =>
    rw [List.cons_append, creation_cons (h e (by simp))]
    simp_all

theorem creation_none (h : ∀ e ∈ t, e.child ≠ some ref) :
    creation ref inbound outbound t = none := by
  have happ : creation ref inbound outbound (t ++ []) = creation ref inbound outbound [] :=
    creation_append h
  rw [List.append_nil] at happ
  exact happ

end

theorem Event.child_of_isRelease (h : e.isRelease = true) : e.child = none := by
  cases e <;> first | rfl | cases h

theorem Event.child_of_isPlain (h : e.isPlain = true) : e.child = none := by
  cases e <;> first | rfl | cases h

def Creation.Rederivable (c : Creation) : Prop := c.pfs = false ∧ c.inherited = false

def pendingKeys (P : Primitives) (sa : IkeSA) (prop : ChildProposal) : ChildKeys :=
  deriveChildSAKeys P sa.saKey sa.pendingNonceI sa.pendingNonceR prop.encr.keyLen
    prop.integKeyLen

def Childless (t : List Event) (sa : IkeSA) : Prop :=
  sa.state = .auth → sa.pendingESPProp = none ∧ ∀ e ∈ t, e.child ≠ some sa.ref

def CurrentKnown (P : Primitives) (t : List Event) (sa : IkeSA) : Prop :=
  ∀ prop c, sa.espProp = some prop →
    creation sa.ref sa.localESPSPI sa.peerESPSPI t = some c → c.Rederivable →
    c.params.keys = currentKeys P sa prop

def PendingKnown (P : Primitives) (t : List Event) (sa : IkeSA) : Prop :=
  ∀ prop c, sa.pendingESPProp = some prop →
    creation sa.ref sa.pendingLocalESPSPI sa.pendingPeerESPSPI t = some c → c.Rederivable →
    c.params.keys = pendingKeys P sa prop

def KeysKnown (P : Primitives) (t : List Event) (sa : IkeSA) : Prop :=
  Childless t sa ∧ CurrentKnown P t sa ∧ PendingKnown P t sa

def KeysKept (older : List Event) : Event → Prop
  | .childReinstalled ref p =>
    ∃ c, creation ref p.inboundSPI p.outboundSPI older = some c ∧ c.params.keys = p.keys
  | _ => True

structure KeyInv (P : Primitives) (w : World) : Prop where
  base : Base w
  children : ∀ e ∈ w.trace, ∀ ref, e.child = some ref → ref < w.nextRef
  known : ∀ k sa, w.lookupSA k = some sa → KeysKnown P w.trace sa
  justified : Machine.Justified KeysKept w.trace

section
variable {S : Server} {P : Primitives} {env : Env} {allowed : Triggers}
  {w w' : World} {t new : List Event} {sa sa' : IkeSA}

theorem KeysKnown.of_childless (hs : sa.state = .auth) (h : Childless t sa) :
    KeysKnown P t sa := by
  obtain ⟨hpend, hno⟩ := h hs
  refine ⟨h, ?_, ?_⟩
  · intro prop c _ hc
    rw [creation_none hno] at hc
    cases hc
  · intro prop c hprop
    simp_all

theorem KeysKnown.mono (h : KeysKnown P t sa) (hn : ∀ e ∈ new, e.child ≠ some sa.ref) :
    KeysKnown P (new ++ t) sa := by
  refine ⟨?_, ?_, ?_⟩
  · intro hs
    refine ⟨(h.1 hs).1, ?_⟩
    intro e he
    rcases List.mem_append.mp he with he | he
    · exact hn e he
    · exact (h.1 hs).2 e he
  · intro prop c hprop hc
    rw [creation_append hn] at hc
    exact h.2.1 prop c hprop hc
  · intro prop c hprop hc
    rw [creation_append hn] at hc
    exact h.2.2 prop c hprop hc

theorem Evolve.keysKnown (h : Evolve S t sa sa') (hk : KeysKnown P t sa) :
    KeysKnown P t sa' := by
  have hauth (hs : sa.state = .auth) (hs' : sa'.state = sa.state) (hr : sa'.ref = sa.ref)
      (hp : sa'.pendingESPProp = sa.pendingESPProp) : KeysKnown P t sa' := by
    refine .of_childless (hs'.trans hs) fun _ => ?_
    rw [hp, hr]
    exact hk.1 hs
  cases h with
  | touch _ hc =>
    have he : KeysKnown P t sa' = KeysKnown P t sa :=
      IkeSA.eq_of_core hc (KeysKnown P t) fun _ => rfl
    exact he ▸ hk
  | auth _ hs hc =>
    have hid := SameIdentity.of_authCore hc
    exact hauth hs hid.state hid.ref
      (IkeSA.eq_of_authCore hc IkeSA.pendingESPProp fun _ => rfl)
  | openSession _ hs hc =>
    have hid := SameIdentity.of_openSession hc
    have hp : sa'.pendingESPProp = sa.withSession.pendingESPProp :=
      IkeSA.eq_of_authCore hc IkeSA.pendingESPProp fun _ => rfl
    exact hauth hs hid.state hid.ref hp
  | success sid req avps hs hdea => exact hauth hs rfl rfl rfl
  | promote he hp =>
    refine ⟨?_, ?_, ?_⟩
    · intro hs
      rw [(hk.1 hs).1] at hp
      cases hp
    · intro prop c hprop hc
      exact hk.2.2 prop c hprop hc
    · intro prop c hprop
      cases hprop
  | clear =>
    refine ⟨fun hs => ⟨rfl, (hk.1 hs).2⟩, hk.2.1, ?_⟩
    intro prop c hprop
    cases hprop

theorem Quiet.trace_child (h : Quiet S env allowed w w') :
    ∃ new, w'.trace = new ++ w.trace ∧ ∀ e ∈ new, e.child = none ∧ ∀ older, KeysKept older e := by
  cases h.trace with
  | plain new ht hp =>
    refine ⟨new, ht, fun e he => ⟨Event.child_of_isPlain (hp e he), fun older => ?_⟩⟩
    have hplain := hp e he
    cases e <;> trivial
  | verified sa auth _ _ _ _ ht =>
    refine ⟨[.authVerified sa auth], ht, fun e he => ?_⟩
    rw [List.mem_singleton.mp he]
    exact ⟨rfl, fun _ => trivial⟩
  | s2bCreate sa auth req _ ht =>
    refine ⟨[.s2bCreate sa.ref req], ht, fun e he => ?_⟩
    rw [List.mem_singleton.mp he]
    exact ⟨rfl, fun _ => trivial⟩

theorem Quiet.keyInv (h : Quiet S env allowed w w') (hi : KeyInv P w) : KeyInv P w' := by
  obtain ⟨new, ht, hnew⟩ := h.trace_child
  refine ⟨h.base hi.base, ?_, ?_, ?_⟩
  · intro e he ref hc
    rw [ht] at he
    rw [h.nextRef]
    rcases List.mem_append.mp he with he | he
    · simp_all
    · exact hi.children e he ref hc
  · intro k sa' hl
    obtain ⟨sa, hsa, hev⟩ := h.evolve hl
    rw [ht]
    refine (hev.keysKnown (hi.known k sa hsa)).mono ?_
    simp_all
  · rw [ht]
    exact .append (fun e he older => (hnew e he).2 older) hi.justified

theorem KeyInv.write (hi : KeyInv P w) (hb : Base w') (hn : w.nextRef ≤ w'.nextRef)
    (ht : w'.trace = new ++ w.trace)
    (hnew : ∀ e ∈ new, ∀ ref, e.child = some ref → ref < w'.nextRef)
    (hsas : ∀ k sa', w'.lookupSA k = some sa' → KeysKnown P w'.trace sa' ∨
      w.lookupSA k = some sa' ∧ ∀ e ∈ new, e.child ≠ some sa'.ref)
    (hj : Machine.Justified KeysKept w'.trace) : KeyInv P w' := by
  refine ⟨hb, ?_, ?_, hj⟩
  · intro e he ref hc
    rw [ht] at he
    rcases List.mem_append.mp he with he | he
    · exact hnew e he ref hc
    · exact Nat.lt_of_lt_of_le (hi.children e he ref hc) hn
  · intro k sa' hl
    rcases hsas k sa' hl with h | ⟨hk, hno⟩
    · exact h
    · rw [ht]
      exact (hi.known k sa' hk).mono hno

theorem KeyInv.childless_nextRef (hi : KeyInv P w) :
    ∀ e ∈ w.trace, e.child ≠ some w.nextRef := by
  intro e he hc
  exact Nat.lt_irrefl _ (hi.children e he _ hc)

theorem KeyInv.ref_ne (hi : KeyInv P w) (h : w.lookupSA sa.spiI = some sa) {k : UInt64}
    (h' : w.lookupSA k = some sa') (hne : k ≠ sa.spiI) : sa.ref ≠ sa'.ref := by
  intro hr
  exact hne (hi.base.unique k sa.spiI sa' sa h' h hr.symm)

theorem keysKnown_installed (hs : sa.state ≠ .auth) (hpend : sa.pendingESPProp = none)
    (hprop : sa.espProp = some prop) :
    KeysKnown P (.childInstalled sa.ref (finalChild P sa prop localIP remote r) :: t) sa := by
  refine ⟨fun h => (hs h).elim, ?_, ?_⟩
  · intro prop' c hprop' hc _
    obtain rfl : prop = prop' := Option.some.inj (hprop.symm.trans hprop')
    have hin : (finalChild P sa prop localIP remote r).inboundSPI = sa.localESPSPI := rfl
    have hout : (finalChild P sa prop localIP remote r).outboundSPI = sa.peerESPSPI := rfl
    simp only [creation, hin, hout, and_self, if_true] at hc
    cases hc
    rfl
  · intro prop' c hprop'
    simp_all

theorem keysKnown_pending {propNum : UInt8} {peerSPI : UInt32} {dh : ChildDH} {ts : IPNet}
    (hs : sa.state ≠ .auth) (hk : KeysKnown P t sa) (hspi : spi ≠ sa.localESPSPI) : KeysKnown P
      (.childRekeyed sa.ref dh.isPFS (childParams sa prop
        (childRekeyKeys P sa prop dh nonceI nonceR) ⟨localIP, remote.ip, spi, peerSPI⟩
        remote.port ts) :: t)
      (sa.setPending prop propNum peerSPI spi nonceI nonceR) := by
  refine ⟨fun h => (hs h).elim, ?_, ?_⟩
  · intro prop' c hprop hc
    have hne : ¬ ((childParams sa prop (childRekeyKeys P sa prop dh nonceI nonceR)
        ⟨localIP, remote.ip, spi, peerSPI⟩ remote.port ts).inboundSPI = sa.localESPSPI) := hspi
    have hc' : creation sa.ref sa.localESPSPI sa.peerESPSPI t = some c := by
      simpa [creation, IkeSA.setPending, hne] using hc
    exact hk.2.1 prop' c hprop hc'
  · intro prop' c hprop hc hre
    cases hprop
    simp only [creation, IkeSA.setPending, childParams, and_self, if_true] at hc
    cases hc
    have hpfs : dh.isPFS = false := hre.1
    cases dh with
    | pfs shared pub => cases hpfs
    | reject type data | noPFS => rfl

def KeySafe (S : Server) (w : World) (i : Input) : Prop :=
  ∀ m, incoming S w i = some m →
    (m.hdr.exchangeType = exchCreateChildSA → i.env.espSPI ≠ some m.sa.localESPSPI) ∧
    ∀ pl, m.hdr.exchangeType = exchInformational → openInfo S m.sa.saKey m.msg = some pl →
      pl.hasUpdateSA = true → m.sa.cookie2 = some pl.cookie2 →
      ∃ c, creation m.sa.ref m.sa.localESPSPI m.sa.peerESPSPI w.trace = some c ∧ c.Rederivable

theorem keyInv_establish (hi : KeyInv P w) (h : w.lookupSA sa.spiI = some sa)
    (hs : sa.state = .auth) (hc : EstablishCase P w env remote sa r spi w') (hb : Base w')
    (hn : w.nextRef ≤ w'.nextRef) : KeyInv P w' := by
  obtain ⟨released, hr, ht⟩ := trace_markEstablished w env sa r spi
  obtain ⟨hpend, hno⟩ := (hi.known _ sa h).1 hs
  have hquiet : ∀ e ∈ .established sa.ref :: released, e.child = none := by
    intro e he
    rcases List.mem_cons.mp he with rfl | he
    · rfl
    · exact Event.child_of_isRelease (hr e he)
  have hjust : Machine.Justified KeysKept (.established sa.ref :: (released ++ w.trace)) := by
    refine ⟨trivial, .append ?_ hi.justified⟩
    intro e he older
    have hrel := hr e he
    cases e <;> trivial
  -- Nothing is known about CHILD SAs of this SA before the call.
  have hbare : KeysKnown P (.established sa.ref :: (released ++ w.trace)) (sa.establish spi) := by
    refine ⟨(fun h => by cases h), ?_, ?_⟩
    · intro prop c _ hcr
      have hnone : ∀ e ∈ .established sa.ref :: (released ++ w.trace), e.child ≠ some sa.ref := by
        grind
      have hcr' : creation sa.ref spi sa.peerESPSPI _ = some c := hcr
      rw [creation_none hnone] at hcr'
      cases hcr'
    · intro prop c hprop
      exact absurd (hpend.symm.trans hprop) (by simp)
  cases hc with
  | bare k hk =>
    have ht' : ((markEstablished w env sa r spi).setKernel k).trace =
        (.established sa.ref :: released) ++ w.trace := ht
    refine hi.write hb hn ht' ?_ ?_ (ht' ▸ hjust)
    · simp_all
    · intro k' sa' hl
      rw [World.lookupSA_setKernel, lookupSA_markEstablished] at hl
      grind
  | installed prop localIP k hprop hip hk =>
    have ht' : ((((markEstablished w env sa r spi).setKernel k).emit (.childInstalled sa.ref
        (finalChild P (sa.establish spi) prop localIP remote r))).trace) =
        (.childInstalled sa.ref (finalChild P (sa.establish spi) prop localIP remote r) ::
          .established sa.ref :: released) ++ w.trace := by
      simp [ht]
    refine hi.write hb hn ht' ?_ ?_ ?_
    · intro e he ref hch
      rcases List.mem_cons.mp he with rfl | he
      · cases hch
        exact Nat.lt_of_lt_of_le (hi.base.refs _ sa h) hn
      · grind
    · intro k' sa' hl
      rw [World.lookupSA_emit, World.lookupSA_setKernel, lookupSA_markEstablished] at hl
      split at hl
      · cases hl
        exact .inl (keysKnown_installed (by simp [IkeSA.establish]) hpend hprop)
      rename_i hne
      refine .inr ⟨hl, fun e he hch => ?_⟩
      rcases List.mem_cons.mp he with rfl | he
      · exact hi.ref_ne h hl hne (Option.some.inj hch)
      · grind
    · rw [World.emit_trace, World.setKernel_trace, ht]
      exact ⟨trivial, hjust⟩

theorem keysKnown_rekeyed {prop : NegotiatedProposal} {shared : Bytes} {spiI spiR : UInt64} :
    KeysKnown P (.ikeRekeyed sa.ref w.nextRef :: t)
      (rekeyedSA P w env sa prop shared nonceI nonceR spiI spiR) := by
  refine ⟨(fun hs => by cases hs), ?_, fun prop' c hprop' => by cases hprop'⟩
  intro prop' c _ hc hre
  obtain ⟨c', -, rfl⟩ : ∃ c', creation sa.ref sa.localESPSPI sa.peerESPSPI t = some c' ∧
      { c' with inherited := true } = c := by
    simpa [creation, rekeyedSA] using hc
  cases hre.2

theorem keysKnown_replaced (hs : sa.state ≠ .auth) (hk : KeysKnown P t sa) :
    KeysKnown P t sa.replaced :=
  ⟨fun h => (hs h).elim, (fun prop c hprop => by cases hprop), hk.2.2⟩

theorem Major.keyInv {i : Input} {remote : UDPAddr} {msg : Bytes} {hdr : IKEHeader}
    {w0 : World} (hsafe : KeySafe S w0 i)
    (hin : ∀ sa, w0.lookupSA hdr.initiatorSPI = some sa →
      incoming S w0 i = some ⟨remote, msg, hdr, sa⟩)
    (h : Major S i.env remote msg hdr w0 w w') (hi : KeyInv S.prims w) : KeyInv S.prims w' := by
  have hb := h.base hi.base
  have hn := h.nextRef_le
  -- For effects that record nothing the entries in the table decide.
  have hsame (ht : w'.trace = w.trace)
      (hsas : ∀ k sa', w'.lookupSA k = some sa' →
        KeysKnown S.prims w.trace sa' ∨ w.lookupSA k = some sa') : KeyInv S.prims w' := by
    have ht' : w'.trace = [] ++ w.trace := ht
    refine hi.write hb hn ht' (fun _ he => by cases he) ?_ (ht ▸ hi.justified)
    simp_all
  cases h with
  | create natt req offer ke prop propNum nonceI nonceR priv shared spiR resp hex hp hw =>
    refine hsame rfl ?_
    intro k sa' hl
    rw [World.lookupSA_allocRef, World.lookupSA_storeSA] at hl
    split at hl
    · cases hl
      exact .inl (.of_childless rfl fun _ => ⟨rfl, hi.childless_nextRef⟩)
    · exact .inr hl
  | swmStart sa req avps hex hspi h hs hid hround hdea =>
    refine hsame (World.updateSession_trace _ _ _) ?_
    intro k sa' hl
    rw [World.lookupSA_updateSession, World.lookupSA_storeSA] at hl
    split at hl
    · cases hl
      exact .inl (.of_childless hs (hi.known _ sa h).1)
    · exact .inr hl
  | recordS2b sa r hex h hs hr hspi => simp_all
  | establish sa0 sa pl auth r spi hex h0 hst0 hopen hsa h hv hr hspi =>
    have hs : sa.state = .auth := by
      rw [hsa]
      exact (IkeSA.noteMobike_keeps IkeSA.state (fun _ _ => rfl) _ pl).trans hst0.2.1
    exact keyInv_establish hi h hs (establish_cases S.prims w i.env remote sa r spi) hb hn
  | childRekey sa0 sa offer nonceI nonceR ke prop propNum peerSPI spi dh p x hex h0 hst0 hsa
      hopen hsel hdh hnr hw hdraw hadd =>
    have hl : w.lookupSA sa.spiI = some sa := by rw [hw]; exact lookupSA_stored _ _
    have hst : sa.state ≠ .auth := by
      have hest : sa.state = .established := by rw [hsa]; exact hst0.2
      simp [hest]
    have hne : spi ≠ sa.localESPSPI := by
      intro he
      apply ((hsafe _ (hin sa0 h0)).1 hex)
      rw [hdraw.2, he, hsa]
      rfl
    obtain ⟨localIP, hip, hp, -⟩ := addPendingStates_some hadd
    have ht : (((w.setKernel x).emit (.childRekeyed sa.ref dh.isPFS p)).storeSA
        (sa.setPending prop propNum peerSPI spi nonceI nonceR)).trace =
        [.childRekeyed sa.ref dh.isPFS p] ++ w.trace := rfl
    refine hi.write hb hn ht ?_ ?_ ⟨trivial, hi.justified⟩
    · intro e he ref hch
      rw [List.mem_singleton.mp he] at hch
      cases hch
      exact hi.base.refs _ sa hl
    · intro k sa' hl'
      rw [World.lookupSA_storeSA] at hl'
      split at hl'
      · cases hl'
        rw [hp]
        exact .inl (keysKnown_pending hst (hi.known _ sa hl) hne)
      rename_i hne'
      refine .inr ⟨hl', fun e he hch => ?_⟩
      rw [List.mem_singleton.mp he] at hch
      exact hi.ref_ne hl hl' hne' (Option.some.inj hch)
  | ikeRekey sa0 sa offer ke prop propNum nonceI nonceR priv shared newSPII newSPIR hex h0
      hst0 hsa hopen hp hw h =>
    have hest : sa.state = .established := by rw [hsa]; exact hst0.2
    have ht : (ikeRekeyStore w sa (rekeyedSA S.prims w i.env sa prop shared nonceI nonceR newSPII
        newSPIR)).trace = [.ikeRekeyed sa.ref w.nextRef] ++ w.trace := by
      simp [ikeRekeyStore, rekeyedSA]
    have hother {ref : Nat} (hlt : ref < w.nextRef) :
        ∀ e ∈ [Event.ikeRekeyed sa.ref w.nextRef], e.child ≠ some ref := by
      intro e he hch
      rw [List.mem_singleton.mp he] at hch
      exact Nat.ne_of_gt hlt (Option.some.inj hch)
    refine hi.write hb hn ht ?_ ?_ ?_
    · intro e he ref hch
      rw [List.mem_singleton.mp he] at hch
      cases hch
      simp [ikeRekeyStore]
    · intro k sa' hl
      rw [lookupSA_ikeRekeyStore] at hl
      rw [ht]
      split at hl
      · cases hl
        exact .inl keysKnown_rekeyed
      split at hl
      · cases hl
        have hk := keysKnown_replaced (by simp [hest]) (hi.known _ sa h)
        exact .inl (hk.mono (hother (hi.base.refs _ sa h)))
      · exact .inr ⟨hl, hother (hi.base.refs _ sa' hl)⟩
    · rw [ht]
      exact ⟨trivial, hi.justified⟩
  | challenge sa0 sa pl c2 hex h0 hst0 hsa hopen hup hcookie hchild hw hdraw =>
    have hl : w.lookupSA sa.spiI = some sa := by rw [hw]; exact lookupSA_stored _ _
    refine hsame rfl ?_
    intro k sa' hl'
    rw [World.lookupSA_storeSA] at hl'
    split at hl'
    · cases hl'
      exact .inl (hi.known _ sa hl)
    · exact .inr hl'
  | migrate w1 sa0 sa pl prop localIP ok hex h0 hst0 hsa hopen hup hcookie hchild hw hmig =>
    have hl : w.lookupSA sa.spiI = some sa := by rw [hw]; exact lookupSA_stored _ _
    have hc := migrateMobikeXFRM_cases S.prims w i.env sa prop localIP remote
    rw [hmig] at hc
    cases hc with
    | refused => exact hsame rfl fun k sa' hl' => .inr hl'
    | failed x hx => exact hsame rfl fun k sa' hl' => .inr hl'
    | moved x hx =>
      have ht : ((((w.setKernel x).emit (.childReinstalled sa.ref
          (mobikeParams S.prims w sa prop localIP remote)))).storeSA
          (sa.migrated remote)).trace =
          [.childReinstalled sa.ref (mobikeParams S.prims w sa prop localIP remote)] ++
            w.trace := rfl
      have hother (ref : Nat) : ∀ e ∈ [Event.childReinstalled sa.ref
          (mobikeParams S.prims w sa prop localIP remote)], e.child ≠ some ref := by
        intro e he hch
        rw [List.mem_singleton.mp he] at hch
        cases hch
      refine hi.write hb hn ht (fun e he ref hch => (hother ref e he hch).elim) ?_ ?_
      · intro k sa' hl'
        rw [if_pos rfl, World.lookupSA_storeSA] at hl'
        split at hl'
        · cases hl'
          have hk : KeysKnown S.prims w.trace (sa.migrated remote) := hi.known _ sa hl
          exact .inl (hk.mono (hother _))
        · simp_all
      · refine ⟨?_, hi.justified⟩
        have hcookie0 : sa0.cookie2 = some pl.cookie2 := by
          rw [← seen_cookie2 sa0 i.env.now, ← hsa]
          exact hcookie
        obtain ⟨c, hcr, hre⟩ := (hsafe _ (hin sa0 h0)).2 pl hex hopen hup.1 hcookie0
        have hcore : sa.core = sa0.core := by rw [hsa]; exact seen_core sa0 i.env.now
        have hcr' : creation sa.ref sa.localESPSPI sa.peerESPSPI w.trace = some c := by
          rw [IkeSA.eq_of_core hcore IkeSA.ref fun _ => rfl,
            IkeSA.eq_of_core hcore IkeSA.localESPSPI fun _ => rfl,
            IkeSA.eq_of_core hcore IkeSA.peerESPSPI fun _ => rfl, hw]
          exact hcr
        exact ⟨c, hcr', (hi.known _ sa hl).2.1 prop c hchild.1 hcr' hre⟩

theorem KeyInv.initial (P : Primitives) (secret : Bytes) (now : Time) :
    KeyInv P (World.initial secret now) where
  base := .initial secret now
  children _ he := by cases he
  known _ _ hl := by cases hl
  justified := trivial

/-- In every run whose address updates only concern CHILD SAs that were created under the
IKE SA which holds them and without PFS, a CHILD SA is installed again with exactly the keys
with which it was created. -/
theorem reinstalled_with_created_keys (S : Server) (secret : Bytes) (now : Time)
    (inputs : List Input)
    (hsafe : Machine.Guarded (step S) (KeySafe S) (World.initial secret now) inputs) :
    ∀ newer older ref p,
      (runFrom S secret now inputs).trace = newer ++ .childReinstalled ref p :: older →
      ∃ c, creation ref p.inboundSPI p.outboundSPI older = some c ∧ c.params.keys = p.keys := by
  have hinv : KeyInv S.prims (runFrom S secret now inputs) :=
    guarded_run_invariant (KeyInv S.prims) (KeyInv.initial S.prims) (fun _ hi => hi.base)
      (fun _ => Quiet.keyInv)
      (fun hok _ hin _ => Major.keyInv hok hin) hsafe
  intro newer older ref p ht
  have hj := ht ▸ hinv.justified
  exact hj.of_append

end

section Runs
open Scenario

def addressUpdate (spiI spiR : UInt64) : List Input :=
  [⟨.packet ueMoved (informMessage spiI spiR 7 (updateAddresses [])) false,
      { now := 10, cookie2 := some (nonceOf 12) }⟩,
    ⟨.packet ueMoved (informMessage spiI spiR 8 (updateAddresses (nonceOf 12))) false,
      { now := 11 }⟩]

def rekeyWithPFS : List Input :=
  [fromUE (childRekeyMessage 5 0x61 true) (childDraws 8 0x1003),
    fromUE (informMessage 0x11 0x21 6 [deletePayload protoESP [0x51]]) { now := 9 }]

def rekeyIKE : List Input := [fromUE (ikeRekeyMessage 5 0x31) draws]

def lastReinstalled : List Event → Option (Nat × Xfrm.ChildSAParams × List Event)
  | [] => none
  | .childReinstalled ref p :: older => some (ref, p, older)
  | _ :: older => lastReinstalled older

theorem lastReinstalled_split {older : List Event} {ref : Nat} {p : Xfrm.ChildSAParams}
    (h : lastReinstalled t = some (ref, p, older)) :
    ∃ newer, t = newer ++ .childReinstalled ref p :: older := by
  induction t with
  | nil => cases h
  | cons e t ih =>
    have hskip (h : lastReinstalled t = some (ref, p, older)) :
        ∃ newer, e :: t = newer ++ .childReinstalled ref p :: older := by
      grind
    cases e with
    | childReinstalled ref' p' =>
      cases h
      exact ⟨[], rfl⟩
    | _ => exact hskip h

private theorem keySafe_of_all {w : World} {i : Input}
    (h : (incoming server w i).all (fun m =>
      decide (m.hdr.exchangeType ≠ exchCreateChildSA) &&
        (decide (m.hdr.exchangeType ≠ exchInformational) ||
          (creation m.sa.ref m.sa.localESPSPI m.sa.peerESPSPI w.trace).any fun c =>
            !c.pfs && !c.inherited)) = true) : KeySafe server w i := by
  intro m hin
  rw [hin, Option.all_some, Bool.and_eq_true, decide_eq_true_eq, Bool.or_eq_true,
    decide_eq_true_eq, Option.any_eq_true] at h
  refine ⟨fun hex => (h.1 hex).elim, ?_⟩
  intro pl hex _ _ _
  obtain ⟨c, hc, hre⟩ := h.2.resolve_left fun hne => hne hex
  simp only [Bool.and_eq_true, Bool.not_eq_true'] at hre
  exact ⟨c, hc, hre⟩

private theorem addressUpdate_safe : Machine.Guarded (step server) (KeySafe server)
    (World.initial [1] 0) (attached ++ addressUpdate 0x11 0x21) := by
  rw [Machine.guarded_append]
  have hs {w : World} {i : Input} := keySafe_of_all (w := w) (i := i)
  exact ⟨⟨hs (by decide +kernel), hs (by decide +kernel), hs (by decide +kernel),
    hs (by decide +kernel), trivial⟩, hs (by decide +kernel), hs (by decide +kernel), trivial⟩

/-- A UE that moves right after its attach keeps its keys. -/
theorem address_update_keeps_keys :
    ∃ newer older ref p c,
      (runFrom server [1] 0 (attached ++ addressUpdate 0x11 0x21)).trace =
        newer ++ .childReinstalled ref p :: older ∧
      creation ref p.inboundSPI p.outboundSPI older = some c ∧ c.params.keys = p.keys := by
  have hsome : (lastReinstalled (after (attached ++ addressUpdate 0x11 0x21)).trace).isSome =
      true := by decide +kernel
  obtain ⟨⟨ref, p, older⟩, hm⟩ := Option.isSome_iff_exists.mp hsome
  obtain ⟨newer, ht⟩ := lastReinstalled_split hm
  obtain ⟨c, hc, hkeys⟩ := reinstalled_with_created_keys server [1] 0 _ addressUpdate_safe newer
    older ref p ht
  exact ⟨newer, older, ref, p, c, ht, hc, hkeys⟩

def OtherKeys (t : List Event) : Prop :=
  ∃ newer older ref p c, t = newer ++ .childReinstalled ref p :: older ∧
    creation ref p.inboundSPI p.outboundSPI older = some c ∧ c.params.keys ≠ p.keys

private theorem otherKeys_of_last {t : List Event}
    (h : (lastReinstalled t).any (fun m =>
      (creation m.1 m.2.1.inboundSPI m.2.1.outboundSPI m.2.2).any fun c =>
        decide (c.params.keys ≠ m.2.1.keys)) = true) : OtherKeys t := by
  obtain ⟨⟨ref, p, older⟩, hm, h⟩ := (Option.any_eq_true _ _).mp h
  obtain ⟨c, hc, hne⟩ := (Option.any_eq_true _ _).mp h
  obtain ⟨newer, ht⟩ := lastReinstalled_split hm
  exact ⟨newer, older, ref, p, c, ht, hc, of_decide_eq_true hne⟩

/-- A UE that moves after a CHILD SA rekey with PFS, or after an IKE SA rekey, gets other
keys. -/
theorem address_update_changes_keys :
    OtherKeys (after (attached ++ rekeyWithPFS ++ addressUpdate 0x11 0x21)).trace ∧
      OtherKeys (after (attached ++ rekeyIKE ++ addressUpdate 0x31 0x29)).trace :=
  ⟨otherKeys_of_last (by decide +kernel), otherKeys_of_last (by decide +kernel)⟩

end Runs
end Epdg
