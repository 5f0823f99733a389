import Epdg.System.Shape

/-!
What every effect does to the SA table, the kernel and the trace, and the first
invariants: SAs sit under their own SPI, and object identities are never reused.
-/
namespace Epdg
open Ikev2
variable {sa sa' : IkeSA} {remote : UDPAddr} {S : Server} {k : UInt64} {w w' w0 : World}
  {P : Primitives} {msg : Bytes} {hdr : IKEHeader} {i : Input}

inductive Evolve (S : Server) (trace : List Event) : IkeSA → IkeSA → Prop
  | touch (sa sa' : IkeSA) (hc : sa'.core = sa.core) : Evolve S trace sa sa'
  | auth (sa sa' : IkeSA) (hs : sa.state = .auth) (hc : sa'.authCore = sa.authCore) :
      Evolve S trace sa sa'
  | openSession (sa sa' : IkeSA) (hs : sa.state = .auth)
      (hc : sa'.authCore = sa.withSession.authCore) : Evolve S trace sa sa'
  | success (sa : IkeSA) (sid : SWMSessionID) (req : Swm.EAPRequest)
      (avps : List Diameter.AVP) (hs : sa.state = .auth)
      (hdea : .deaReceived sa.ref sid req avps ∈ trace) :
      Evolve S trace sa (sa.eapSuccess (Swm.eapResult S.equalFold req sid avps))
  | promote (sa : IkeSA) (he : sa.espProp.isSome = true)
      (hp : sa.pendingESPProp.isSome = true) : Evolve S trace sa sa.promotePending
  | clear (sa : IkeSA) : Evolve S trace sa sa.clearPending

structure SameIdentity (sa sa' : IkeSA) : Prop where
  ref : sa'.ref = sa.ref
  spiI : sa'.spiI = sa.spiI
  spiR : sa'.spiR = sa.spiR
  saKey : sa'.saKey = sa.saKey
  natT : sa'.natT = sa.natT
  state : sa'.state = sa.state
  swmSessionID : sa'.swmSessionID = sa.swmSessionID
  localIP : sa'.localIP = sa.localIP

theorem SameIdentity.of_core (h : sa'.core = sa.core) : SameIdentity sa sa' where
  ref := IkeSA.eq_of_core h IkeSA.ref fun _ => rfl
  spiI := IkeSA.eq_of_core h IkeSA.spiI fun _ => rfl
  spiR := IkeSA.eq_of_core h IkeSA.spiR fun _ => rfl
  saKey := IkeSA.eq_of_core h IkeSA.saKey fun _ => rfl
  natT := IkeSA.eq_of_core h IkeSA.natT fun _ => rfl
  state := IkeSA.eq_of_core h IkeSA.state fun _ => rfl
  swmSessionID := IkeSA.eq_of_core h IkeSA.swmSessionID fun _ => rfl
  localIP := IkeSA.eq_of_core h IkeSA.localIP fun _ => rfl

theorem SameIdentity.of_authCore (h : sa'.authCore = sa.authCore) : SameIdentity sa sa' where
  ref := IkeSA.eq_of_authCore h IkeSA.ref fun _ => rfl
  spiI := IkeSA.eq_of_authCore h IkeSA.spiI fun _ => rfl
  spiR := IkeSA.eq_of_authCore h IkeSA.spiR fun _ => rfl
  saKey := IkeSA.eq_of_authCore h IkeSA.saKey fun _ => rfl
  natT := IkeSA.eq_of_authCore h IkeSA.natT fun _ => rfl
  state := IkeSA.eq_of_authCore h IkeSA.state fun _ => rfl
  swmSessionID := IkeSA.eq_of_authCore h IkeSA.swmSessionID fun _ => rfl
  localIP := IkeSA.eq_of_authCore h IkeSA.localIP fun _ => rfl

theorem SameIdentity.of_openSession (h : sa'.authCore = sa.withSession.authCore)
    : SameIdentity sa sa' :=
  let i : SameIdentity sa.withSession sa' := .of_authCore h
  ⟨i.ref, i.spiI, i.spiR, i.saKey, i.natT, i.state, i.swmSessionID, i.localIP⟩

section
variable {S : Server} {env : Env} {allowed : Triggers} {w w' : World}

theorem Evolve.sameIdentity {trace : List Event} (h : Evolve S trace sa sa')
    : SameIdentity sa sa' := by
  cases h with
  | touch _ hc => exact .of_core hc
  | auth _ _ hc => exact .of_authCore hc
  | openSession _ _ hc => exact .of_openSession hc
  | success | promote | clear => exact ⟨rfl, rfl, rfl, rfl, rfl, rfl, rfl, rfl⟩

theorem lookup_rewrite {sa'' : IkeSA} (h : w.lookupSA sa.spiI = some sa)
    (hl : (w.storeSA sa').lookupSA k = some sa'') (hs : sa'.spiI = sa.spiI) :
    w.lookupSA k = some sa ∧ sa'' = sa' ∨ w.lookupSA k = some sa'' := by
  rw [World.lookupSA_storeSA, hs] at hl
  grind

theorem deleteESP_evolve {spi : UInt32} (h : w.lookupSA sa.spiI = some sa)
    (hl : (deleteESP P w sa spi).1.lookupSA k = some sa') :
    ∃ sa, w.lookupSA k = some sa ∧ Evolve S w.trace sa sa' := by
  unfold deleteESP at hl
  split at hl
  · rename_i he
    split at hl
    · rename_i hp
      rw [World.lookupSA_updateSession] at hl
      rcases lookup_rewrite ((lookupSA_removeStates _ _).trans h) hl rfl with ⟨h1, rfl⟩ | h1
      · exact ⟨sa, (lookupSA_removeStates _ _).symm.trans h1, .promote sa he.1 hp⟩
      · exact ⟨sa', (lookupSA_removeStates _ _).symm.trans h1, .touch _ _ rfl⟩
    · obtain ⟨x, hx⟩ := removeXFRMChildSA_eq P w sa
      rw [hx] at hl
      exact ⟨sa', hl, .touch _ _ rfl⟩
  · split at hl
    · dsimp only at hl
      rcases lookup_rewrite ((lookupSA_removeStates _ _).trans h) hl rfl with ⟨h1, rfl⟩ | h1
      · exact ⟨sa, (lookupSA_removeStates _ _).symm.trans h1, .clear sa⟩
      · exact ⟨sa', (lookupSA_removeStates _ _).symm.trans h1, .touch _ _ rfl⟩
    · exact ⟨sa', hl, .touch _ _ rfl⟩

theorem Quiet.evolve (h : Quiet S env allowed w w') (hl : w'.lookupSA k = some sa') :
    ∃ sa, w.lookupSA k = some sa ∧ Evolve S w.trace sa sa' := by
  have hrefl (hl : w.lookupSA k = some sa') :
      ∃ sa, w.lookupSA k = some sa ∧ Evolve S w.trace sa sa' := ⟨sa', hl, .touch _ _ rfl⟩
  cases h with
  | sent | derSent | deaReceived | completed | cookies | pgwTable | gtpu | kernel |
    verified | s2bCreate => exact hrefl hl
  | session _ id f => exact hrefl (by simpa using hl)
  | touch sa sa1 h hc =>
    rcases lookup_rewrite h hl (SameIdentity.of_core hc).spiI with ⟨h1, rfl⟩ | h1
    · exact ⟨sa, h1, .touch _ _ hc⟩
    · exact hrefl h1
  | auth sa sa1 h hs hc =>
    rcases lookup_rewrite h hl (SameIdentity.of_authCore hc).spiI with ⟨h1, rfl⟩ | h1
    · exact ⟨sa, h1, .auth _ _ hs hc⟩
    · exact hrefl h1
  | openSession sa sa1 h hs hc =>
    have h' : (round1Session w sa1).lookupSA sa.spiI = some sa := h
    rcases lookup_rewrite h' hl (SameIdentity.of_openSession hc).spiI with ⟨h1, rfl⟩ | h1
    · exact ⟨sa, h1, .openSession _ _ hs hc⟩
    · exact hrefl h1
  | success sa sid req avps h hs hdea =>
    rcases lookup_rewrite h hl rfl with ⟨h1, rfl⟩ | h1
    · exact ⟨sa, h1, .success _ sid req avps hs hdea⟩
    · exact hrefl h1
  | teardown sa h => simp_all
  | expire sa h hs hx hold => simp_all
  | pgw ev hev => exact hrefl ((handlePGW_aside w env ev).lookupSA k ▸ hl)
  | deleteESP sa spi h => exact deleteESP_evolve h hl

@[simp] theorem lookupSA_pgwEvents (w : World) (env : Env) (pos : Nat) (k : UInt64) :
    (pgwEvents w env pos).lookupSA k = w.lookupSA k :=
  (pgwEvents_aside w env pos).lookupSA k

inductive InstallCase (P : Primitives) (w : World) (env : Env) (remote : UDPAddr)
    (sa : IkeSA) (r : CreateSessionResult) : World × Option Bool → Prop
  | skipped (h : sa.espProp = none ∨ sa.localIP = none) :
      InstallCase P w env remote sa r (w, none)
  | failed (prop : ChildProposal) (localIP : IP) (k : Xfrm.Kernel)
      (hprop : sa.espProp = some prop) (hip : sa.localIP = some localIP)
      (h : Xfrm.installChildSA w.xfrm env.xfrmFaults
        (finalChild P sa prop localIP remote r) = (k, false)) :
      InstallCase P w env remote sa r (w.setKernel k, some false)
  | installed (prop : ChildProposal) (localIP : IP) (k : Xfrm.Kernel)
      (hprop : sa.espProp = some prop) (hip : sa.localIP = some localIP)
      (h : Xfrm.installChildSA w.xfrm env.xfrmFaults
        (finalChild P sa prop localIP remote r) = (k, true)) :
      InstallCase P w env remote sa r
        ((w.setKernel k).emit
          (.childInstalled sa.ref (finalChild P sa prop localIP remote r)), some true)

section
variable (P : Primitives) (w : World) (env : Env) (remote : UDPAddr) (sa : IkeSA)
  (r : CreateSessionResult)

theorem installFinal_cases :
    InstallCase P w env remote sa r (installFinal P w env remote sa r) := by
  unfold installFinal
  split
  · rename_i prop localIP hprop hip
    dsimp only
    split
    · rename_i k h
      exact .failed prop localIP k hprop hip h
    · rename_i k h
      exact .installed prop localIP k hprop hip h
  · rename_i hno
    refine .skipped ?_
    cases hp : sa.espProp with
    | none => exact .inl rfl
    | some prop =>
      cases hi : sa.localIP with
      | none => exact .inr rfl
      | some ip => exact (hno prop ip hp hi).elim

@[simp] theorem lookupSA_installFinal (k : UInt64) :
    (installFinal P w env remote sa r).1.lookupSA k = w.lookupSA k := by
  have h := installFinal_cases P w env remote sa r
  generalize installFinal P w env remote sa r = out at h
  cases h <;> rfl

end

theorem mem_trace_installFinal {r : CreateSessionResult} {e : Event} (he : e ∈ w.trace) :
    e ∈ (installFinal P w env remote sa r).1.trace := by
  have h := installFinal_cases P w env remote sa r
  generalize installFinal P w env remote sa r = out at h
  cases h with
  | skipped | failed => exact he
  | installed => exact List.mem_cons_of_mem _ he

section
variable (w : World) (env : Env) (sa : IkeSA) (r : CreateSessionResult) (spi : UInt32)

@[simp] theorem lookupSA_markEstablished (k : UInt64) :
    (markEstablished w env sa r spi).lookupSA k =
      if k = sa.spiI then some (sa.establish spi) else w.lookupSA k := by
  simp [markEstablished]

@[simp] theorem markEstablished_xfrm : (markEstablished w env sa r spi).xfrm = w.xfrm := by
  have ha := (pgwEvents_aside (w.updateSession sa.sessionID (sessionS2b r)) env 1).xfrm
  simpa [markEstablished] using ha

@[simp] theorem markEstablished_nextRef : (markEstablished w env sa r spi).nextRef = w.nextRef := by
  have ha := (pgwEvents_aside (w.updateSession sa.sessionID (sessionS2b r)) env 1).nextRef
  simpa [markEstablished] using ha

theorem trace_markEstablished :
    ∃ released, (∀ e ∈ released, e.isRelease = true) ∧
      (markEstablished w env sa r spi).trace =
        .established sa.ref :: (released ++ w.trace) := by
  obtain ⟨released, hrel, hr⟩ :=
    (pgwEvents_aside (w.updateSession sa.sessionID (sessionS2b r)) env 1).trace
  exact ⟨released, hr, by simp [markEstablished, hrel]⟩

end

inductive EstablishCase (P : Primitives) (w : World) (env : Env) (remote : UDPAddr)
    (sa : IkeSA) (r : CreateSessionResult) (spi : UInt32) : World → Prop
  | bare (k : Xfrm.Kernel) (hk : w.xfrm.SameEntries k) :
      EstablishCase P w env remote sa r spi ((markEstablished w env sa r spi).setKernel k)
  | installed (prop : ChildProposal) (localIP : IP) (k : Xfrm.Kernel)
      (hprop : sa.espProp = some prop) (hip : sa.localIP = some localIP)
      (h : Xfrm.installChildSA w.xfrm env.xfrmFaults
        (finalChild P (sa.establish spi) prop localIP remote r) = (k, true)) :
      EstablishCase P w env remote sa r spi
        (((markEstablished w env sa r spi).setKernel k).emit
          (.childInstalled sa.ref (finalChild P (sa.establish spi) prop localIP remote r)))

theorem establish_cases (P : Primitives) (w : World) (env : Env) (remote : UDPAddr)
    (sa : IkeSA) (r : CreateSessionResult) (spi : UInt32) :
    EstablishCase P w env remote sa r spi
      (installFinal P (markEstablished w env sa r spi) env remote (sa.establish spi) r).1 := by
  have hi := installFinal_cases P (markEstablished w env sa r spi) env remote
    (sa.establish spi) r
  generalize installFinal P (markEstablished w env sa r spi) env remote (sa.establish spi) r =
    out at hi
  have hx := markEstablished_xfrm w env sa r spi
  cases hi with
  | skipped h => exact .bare _ (hx ▸ .refl _)
  | failed prop localIP k hprop hip h => exact .bare k (Xfrm.installChildSA_fail (hx ▸ h))
  | installed prop localIP k hprop hip h => exact .installed prop localIP k hprop hip (hx ▸ h)

inductive MigrateCase (P : Primitives) (w : World) (env : Env) (sa : IkeSA)
    (prop : ChildProposal) (localIP : IP) (remote : UDPAddr) : World × Bool → Prop
  | refused : MigrateCase P w env sa prop localIP remote (w, false)
  | failed (k : Xfrm.Kernel)
      (h : Xfrm.migrateChildSA w.xfrm env.xfrmFaults
        (mobikeParams P w sa prop localIP sa.remoteAddr)
        (mobikeParams P w sa prop localIP remote) = (k, false)) :
      MigrateCase P w env sa prop localIP remote (w.setKernel k, false)
  | moved (k : Xfrm.Kernel)
      (h : Xfrm.migrateChildSA w.xfrm env.xfrmFaults
        (mobikeParams P w sa prop localIP sa.remoteAddr)
        (mobikeParams P w sa prop localIP remote) = (k, true)) :
      MigrateCase P w env sa prop localIP remote
        ((w.setKernel k).emit
          (.childReinstalled sa.ref (mobikeParams P w sa prop localIP remote)), true)

theorem migrateMobikeXFRM_cases (P : Primitives) (w : World) (env : Env) (sa : IkeSA)
    (prop : ChildProposal) (localIP : IP) (remote : UDPAddr) :
    MigrateCase P w env sa prop localIP remote
      (migrateMobikeXFRM P w env sa prop localIP remote) := by
  unfold migrateMobikeXFRM
  split
  · exact .refused
  dsimp only
  split
  · rename_i k h
    exact .failed k h
  · rename_i k h
    exact .moved k h

theorem lookupSA_migrate {prop : ChildProposal} {localIP : IP} {ok : Bool}
    (h : migrateMobikeXFRM P w env sa prop localIP remote = (w', ok)) (k : UInt64) :
    w'.lookupSA k = w.lookupSA k := by
  have hc := migrateMobikeXFRM_cases P w env sa prop localIP remote
  rw [h] at hc
  cases hc <;> rfl

@[simp] theorem lookupSA_ikeRekeyStore (w : World) (sa new : IkeSA) (k : UInt64) :
    (ikeRekeyStore w sa new).lookupSA k =
      if k = new.spiI then some new else if k = sa.spiI then some sa.replaced
      else w.lookupSA k := by
  have hs : sa.replaced.spiI = sa.spiI := rfl
  simp [ikeRekeyStore, hs]

structure AsksAuth (S : Server) (msg : Bytes) (hdr : IKEHeader) (sa : IkeSA)
    (pl : AuthPayloads) : Prop where
  exchange : hdr.exchangeType = exchIKEAuth
  opened : openAuth S sa.saKey msg = some (some pl)
  auth : pl.auth.isSome = true

structure AsksRekey (S : Server) (env : Env) (msg : Bytes) (hdr : IKEHeader) (sa : IkeSA)
    (newSPII : UInt64) : Prop where
  exchange : hdr.exchangeType = exchCreateChildSA
  accepted : ∃ offer nonceI ke, openChild S sa.saKey msg = some (.ikeSA offer nonceI ke) ∧
    IkeRekeyAccepted S env offer ke newSPII

structure AsksUpdate (S : Server) (msg : Bytes) (hdr : IKEHeader) (sa : IkeSA)
    (pl : InfoPayloads) : Prop where
  exchange : hdr.exchangeType = exchInformational
  request : sa.mu = false ∧ hdr.responseBit = false ∧ sa.state ≠ .deleting
  opened : openInfo S sa.saKey msg = some pl
  update : pl.hasUpdateSA = true ∧ sa.mobikeEnabled = true

inductive Written (S : Server) (env : Env) (remote : UDPAddr) (msg : Bytes) (hdr : IKEHeader)
    (w0 w w' : World) : UInt64 → IkeSA → Prop
  | kept (k : UInt64) (sa : IkeSA) (h : w.lookupSA k = some sa) :
      Written S env remote msg hdr w0 w w' k sa
  | created (natt : Bool) (req : InitRequest) (prop : NegotiatedProposal)
      (nonceI nonceR shared : Bytes) (spiR : UInt64) (resp : Bytes)
      (hex : hdr.exchangeType = exchIKESAInit) :
      Written S env remote msg hdr w0 w w' hdr.initiatorSPI
        (initSA S w env remote msg hdr natt req prop nonceI nonceR shared spiR resp)
  | swmStarted (sa : IkeSA) (h : w.lookupSA sa.spiI = some sa) (hs : sa.state = .auth)
      (hid : sa.sessionID = some sa.ownSession) :
      Written S env remote msg hdr w0 w w' sa.spiI (sa.swmStarted env.now)
  | established (sa : IkeSA) (spi : UInt32) (h : w.lookupSA sa.spiI = some sa)
      (ht : .established sa.ref ∈ w'.trace) (sa0 : IkeSA) (pl : AuthPayloads)
      (h0 : w0.lookupSA hdr.initiatorSPI = some sa0)
      (hsa : sa = (sa0.heard remote env.now).noteMobike pl)
      (hask : AsksAuth S msg hdr sa0 pl) :
      Written S env remote msg hdr w0 w w' sa.spiI (sa.establish spi)
  | pending (sa : IkeSA) (prop : ChildProposal) (propNum : UInt8) (peerSPI spi : UInt32)
      (nonceI nonceR : Bytes) (h : w.lookupSA sa.spiI = some sa)
      (hs : sa.state = .established) :
      Written S env remote msg hdr w0 w w' sa.spiI
        (sa.setPending prop propNum peerSPI spi nonceI nonceR)
  | replaced (sa : IkeSA) (h : w.lookupSA sa.spiI = some sa) (hs : sa.state = .established) :
      Written S env remote msg hdr w0 w w' sa.spiI sa.replaced
  | rekeyed (sa : IkeSA) (prop : NegotiatedProposal) (shared nonceI nonceR : Bytes)
      (spiI spiR : UInt64) (h : w.lookupSA sa.spiI = some sa) (hs : sa.state = .established)
      (ht : .ikeRekeyed sa.ref w.nextRef ∈ w'.trace) (sa0 : IkeSA)
      (h0 : w0.lookupSA hdr.initiatorSPI = some sa0)
      (hask : AsksRekey S env msg hdr sa0 spiI) :
      Written S env remote msg hdr w0 w w' spiI
        (rekeyedSA S.prims w env sa prop shared nonceI nonceR spiI spiR)
  | challenged (sa : IkeSA) (c2 : Bytes) (h : w.lookupSA sa.spiI = some sa) (sa0 : IkeSA)
      (pl : InfoPayloads) (h0 : w0.lookupSA hdr.initiatorSPI = some sa0)
      (hsa : sa = sa0.seen env.now) (hask : AsksUpdate S msg hdr sa0 pl)
      (hcookie : pl.cookie2 = [] ∨ sa.cookie2 = none)
      (hchild : sa.espProp.isSome = true ∧ sa.localIP.isSome = true)
      (hdraw : env.cookie2 = some c2) :
      Written S env remote msg hdr w0 w w' sa.spiI (sa.challenged c2)
  | migrated (sa : IkeSA) (h : w.lookupSA sa.spiI = some sa) (hs : sa.state ≠ .deleting)
      (sa0 : IkeSA) (pl : InfoPayloads) (h0 : w0.lookupSA hdr.initiatorSPI = some sa0)
      (hsa : sa = sa0.seen env.now) (hask : AsksUpdate S msg hdr sa0 pl)
      (hcookie : sa.cookie2 = some pl.cookie2) :
      Written S env remote msg hdr w0 w w' sa.spiI (sa.migrated remote)

theorem Major.written (h : Major S env remote msg hdr w0 w w') (hl : w'.lookupSA k = some sa')
    : Written S env remote msg hdr w0 w w' k sa' := by
  cases h with
  | create natt req offer ke prop propNum nonceI nonceR priv shared spiR resp hex hp hw =>
    rw [World.lookupSA_allocRef, World.lookupSA_storeSA] at hl
    split at hl
    · rename_i e
      cases hl
      subst e
      exact .created natt req prop nonceI nonceR shared spiR resp hex
    · exact .kept k sa' hl
  | swmStart sa req avps hex hspi h hs hid hround hdea =>
    rw [World.lookupSA_updateSession, World.lookupSA_storeSA] at hl
    split at hl
    · rename_i e
      cases hl
      subst e
      exact .swmStarted sa h hs hid
    · exact .kept k sa' hl
  | recordS2b sa r hex h hs hr hspi =>
    exact .kept k sa' (by simpa using hl)
  | establish sa0 sa pl auth r spi hex h0 hst0 hopen hsa h hv hr hspi hauth =>
    rw [lookupSA_installFinal, lookupSA_markEstablished] at hl
    split at hl
    · rename_i e
      cases hl
      subst e
      exact .established sa spi h (mem_trace_installFinal List.mem_cons_self) sa0 pl h0 hsa
        ⟨hex, hopen, by simp [hauth]⟩
    · exact .kept k sa' hl
  | childRekey sa0 sa offer nonceI nonceR ke prop propNum peerSPI spi dh p x hex h0 hst0 hsa
      hopen hsel hdh hnr hw hdraw hadd =>
    rw [World.lookupSA_storeSA] at hl
    split at hl
    · rename_i e
      cases hl
      subst e
      have h : w.lookupSA sa.spiI = some sa := by rw [hw]; exact lookupSA_stored _ _
      have hst : sa.state = .established := by rw [hsa]; exact hst0.2
      exact .pending sa prop propNum peerSPI spi nonceI nonceR h hst
    · exact .kept k sa' hl
  | ikeRekey sa0 sa offer ke prop propNum nonceI nonceR priv shared newSPII newSPIR hex h0
      hst0 hsa hopen hp hw h =>
    rw [lookupSA_ikeRekeyStore] at hl
    have hst : sa.state = .established := by rw [hsa]; exact hst0.2
    split at hl
    · rename_i e
      cases hl
      subst e
      exact .rekeyed sa prop shared nonceI nonceR _ newSPIR h hst
        (by simp [ikeRekeyStore, rekeyedSA]) sa0 h0
        ⟨hex, offer, nonceI, ke, hopen, prop, propNum, nonceR, priv, shared, newSPIR, hp⟩
    · split at hl
      · rename_i e
        cases hl
        subst e
        exact .replaced sa h hst
      · exact .kept k sa' hl
  | challenge sa0 sa pl c2 hex h0 hst0 hsa hopen hup hcookie hchild hw hdraw =>
    have h : w.lookupSA sa.spiI = some sa := by rw [hw]; exact lookupSA_stored _ _
    have hmob : sa.mobikeEnabled = sa0.mobikeEnabled := hsa ▸ seen_mobikeEnabled sa0 env.now
    rw [World.lookupSA_storeSA] at hl
    split at hl
    · rename_i e
      cases hl
      subst e
      exact .challenged sa c2 h sa0 pl h0 hsa ⟨hex, hst0, hopen, hup.1, hmob ▸ hup.2⟩ hcookie
        hchild hdraw
    · exact .kept k sa' hl
  | migrate w1 sa0 sa pl prop localIP ok hex h0 hst0 hsa hopen hup hcookie hchild hw hmig =>
    have h : w.lookupSA sa.spiI = some sa := by rw [hw]; exact lookupSA_stored _ _
    have hst : sa.state ≠ .deleting := by
      rw [hsa, (SameIdentity.of_core (seen_core sa0 env.now)).state]
      exact hst0.2.2
    have hmob : sa.mobikeEnabled = sa0.mobikeEnabled := hsa ▸ seen_mobikeEnabled sa0 env.now
    cases ok with
    | false =>
      rw [if_neg (by simp), lookupSA_migrate hmig] at hl
      exact .kept k sa' hl
    | true =>
      rw [if_pos rfl, World.lookupSA_storeSA, lookupSA_migrate hmig] at hl
      split at hl
      · rename_i e
        cases hl
        subst e
        exact .migrated sa h hst sa0 pl h0 hsa ⟨hex, hst0, hopen, hup.1, hmob ▸ hup.2⟩ hcookie
      · exact .kept k sa' hl

theorem Quiet.nextRef (h : Quiet S env allowed w w') : w'.nextRef = w.nextRef := by
  cases h with
  | session _ id f => simp
  | teardown sa h =>
    obtain ⟨w1, ha, he⟩ := fullTeardown_frame S.prims env.strOpen (w.storeSA sa.closing)
      sa.closing
    obtain ⟨k1, h1⟩ := removeXFRMChildSA_eq S.prims (w.storeSA sa.closing) sa.closing
    obtain ⟨k2, h2⟩ := removePendingStates_eq
      (removeXFRMChildSA S.prims (w.storeSA sa.closing) sa.closing) sa.closing
    rw [he, World.deleteSA_nextRef, ha.nextRef, h2, h1]
    rfl
  | pgw ev hev => exact (handlePGW_aside w env ev).nextRef
  | deleteESP sa spi h =>
    have hrem (pair : IP → Xfrm.EspPair) : (removeStates w sa pair).nextRef = w.nextRef := by
      unfold removeStates
      split <;> rfl
    unfold Ikev2.deleteESP
    split
    · split
      · simpa using hrem _
      obtain ⟨x, hx⟩ := removeXFRMChildSA_eq S.prims w sa
      rw [hx]
      rfl
    · split
      · simpa using hrem _
      · rfl
  | _ => rfl

theorem Major.nextRef_le (h : Major S env remote msg hdr w0 w w') : w.nextRef ≤ w'.nextRef := by
  cases h with
  | create | ikeRekey => simp [ikeRekeyStore]
  | swmStart | recordS2b | childRekey | challenge => simp
  | establish sa0 sa pl auth r spi hex h0 hst0 hopen hsa h hv hr hspi =>
    have hi := establish_cases S.prims w env remote sa r spi
    generalize (installFinal S.prims _ env remote (sa.establish spi) r).1 = out at hi
    cases hi <;> simp
  | migrate w1 sa0 sa pl prop localIP ok hex h0 hst0 hsa hopen hup hcookie hchild hw hmig =>
    have hc := migrateMobikeXFRM_cases S.prims w env sa prop localIP remote
    rw [hmig] at hc
    cases hc <;> simp

structure Base (w : World) : Prop where
  keyed : Keyed w
  refs : ∀ k sa, w.lookupSA k = some sa → sa.ref < w.nextRef
  unique : ∀ k k' sa sa', w.lookupSA k = some sa → w.lookupSA k' = some sa' →
    sa.ref = sa'.ref → k = k'

theorem Base.initial (secret : Bytes) (now : Time) : Base (World.initial secret now) where
  keyed _ _ hl := by cases hl
  refs _ _ hl := by cases hl
  unique _ _ _ _ hl := by cases hl

theorem Quiet.base (h : Quiet S env allowed w w') (hb : Base w) : Base w' where
  keyed k sa' hl := by
    obtain ⟨sa, hsa, he⟩ := h.evolve hl
    rw [he.sameIdentity.spiI]
    exact hb.keyed k sa hsa
  refs k sa' hl := by
    obtain ⟨sa, hsa, he⟩ := h.evolve hl
    rw [he.sameIdentity.ref, h.nextRef]
    exact hb.refs k sa hsa
  unique k k' sa1 sa2 hl1 hl2 hr := by
    obtain ⟨s1, hs1, he1⟩ := h.evolve hl1
    obtain ⟨s2, hs2, he2⟩ := h.evolve hl2
    rw [he1.sameIdentity.ref, he2.sameIdentity.ref] at hr
    exact hb.unique k k' s1 s2 hs1 hs2 hr

theorem Quiets.nextRef (h : Quiets S env allowed w w') : w'.nextRef = w.nextRef := by
  induction h with
  | refl => rfl
  | tail _ hq ih => exact hq.nextRef.trans ih

theorem Base.storeSA (hb : Base w) (hr : sa.ref < w.nextRef)
    (ho : ∀ k sa', w.lookupSA k = some sa' → sa'.ref = sa.ref → k = sa.spiI) :
    Base (w.storeSA sa) where
  keyed := hb.keyed.storeSA sa
  refs k sa' hl := by
    rw [World.lookupSA_storeSA] at hl
    split at hl
    · cases hl
      exact hr
    · exact hb.refs k sa' hl
  unique k k' sa1 sa2 hl1 hl2 he := by
    rw [World.lookupSA_storeSA] at hl1 hl2
    split at hl1
    · grind
    · split at hl2
      · grind
      · exact hb.unique k k' sa1 sa2 hl1 hl2 he

theorem Base.rewrite (hb : Base w) (h : w.lookupSA sa.spiI = some sa) (hr : sa'.ref = sa.ref)
    (hs : sa'.spiI = sa.spiI) : Base (w.storeSA sa') :=
  hb.storeSA (hr ▸ hb.refs _ _ h) fun k sa2 hl he =>
    (hb.unique k sa.spiI sa2 sa hl h (he.trans hr)).trans hs.symm

theorem Base.congr (hb : Base w) (hl : ∀ k, w'.lookupSA k = w.lookupSA k)
    (hn : w.nextRef ≤ w'.nextRef) : Base w' where
  keyed k sa h := hb.keyed k sa (hl k ▸ h)
  refs k sa h := Nat.lt_of_lt_of_le (hb.refs k sa (hl k ▸ h)) hn
  unique k k' sa sa' h h' := hb.unique k k' sa sa' (hl k ▸ h) (hl k' ▸ h')

theorem Base.alloc (hb : Base w) (hr : sa.ref = w.nextRef) : Base (w.storeSA sa).allocRef := by
  have hb' : Base w.allocRef := hb.congr (fun _ => rfl) (Nat.le_succ _)
  refine (hb'.storeSA (by simp [hr]) fun k sa' hl he => ?_).congr (fun _ => rfl)
    (Nat.le_refl _)
  have := hb.refs k sa' hl
  omega

theorem Major.base (h : Major S env remote msg hdr w0 w w') (hb : Base w) : Base w' := by
  have hn := h.nextRef_le
  cases h with
  | create => exact hb.alloc rfl
  | swmStart sa req avps hex hspi h hs hid hround hdea =>
    have hb' : Base (w.storeSA (sa.swmStarted env.now)) := hb.rewrite h rfl rfl
    exact hb'.congr (fun k => by simp) (by simp)
  | recordS2b => exact hb.congr (fun k => by simp) (by simp)
  | establish sa0 sa pl auth r spi hex h0 hst0 hopen hsa h hv hr hspi =>
    have hb' : Base (w.storeSA (sa.establish spi)) := hb.rewrite h rfl rfl
    refine hb'.congr (fun k => ?_) hn
    rw [lookupSA_installFinal, lookupSA_markEstablished, World.lookupSA_storeSA]
    rfl
  | childRekey sa0 sa offer nonceI nonceR ke prop propNum peerSPI spi dh p x hex h0 hst0 hsa
      hopen hsel hdh hnr hw hdraw hadd =>
    have h : w.lookupSA sa.spiI = some sa := by rw [hw]; exact lookupSA_stored _ _
    have hb' : Base (w.storeSA (sa.setPending prop propNum peerSPI spi nonceI nonceR)) :=
      hb.rewrite h rfl rfl
    exact hb'.congr (fun k => by simp) hn
  | ikeRekey sa0 sa offer ke prop propNum nonceI nonceR priv shared newSPII newSPIR hex h0
      hst0 hsa hopen hp hw h =>
    have hb' : Base (w.storeSA sa.replaced) := hb.rewrite h rfl rfl
    have hb2 : Base ((w.storeSA sa.replaced).storeSA (rekeyedSA S.prims w env sa prop shared
        nonceI nonceR newSPII newSPIR)).allocRef := hb'.alloc rfl
    exact hb2.congr (fun k => by simp [ikeRekeyStore]) (by simp [ikeRekeyStore])
  | challenge sa0 sa pl c2 hex h0 hst0 hsa hopen hup hcookie hchild hw hdraw =>
    have h : w.lookupSA sa.spiI = some sa := by rw [hw]; exact lookupSA_stored _ _
    exact hb.rewrite h rfl rfl
  | migrate w1 sa0 sa pl prop localIP ok hex h0 hst0 hsa hopen hup hcookie hchild hw hmig =>
    have h : w.lookupSA sa.spiI = some sa := by rw [hw]; exact lookupSA_stored _ _
    cases ok with
    | false => exact hb.congr (fun k => lookupSA_migrate hmig k) hn
    | true =>
      have hb' : Base (w.storeSA (sa.migrated remote)) := hb.rewrite h rfl rfl
      exact hb'.congr (fun k => by simp [lookupSA_migrate hmig]) hn

end

theorem StepShape.invariant_of_incoming {S : Server} {i : Input} {w w' : World}
    (I : World → Prop)
    (hquiet : ∀ {w1 w2}, Quiet S i.env i.triggers w1 w2 → I w1 → I w2)
    (hmajor : ∀ {remote msg hdr w1 w2},
      (∀ sa, w.lookupSA hdr.initiatorSPI = some sa →
        incoming S w i = some ⟨remote, msg, hdr, sa⟩) →
      Quiets S i.env i.triggers w w1 → Major S i.env remote msg hdr w w1 w2 → I w1 → I w2)
    (h : StepShape S i w w') (hi : I w) : I w' := by
  have hquiets {w1 w2} (h : Quiets S i.env i.triggers w1 w2) (hi : I w1) : I w2 := by
    induction h with
    | refl => exact hi
    | tail _ hq ih => exact hquiet hq ih
  cases h with
  | quiet h => exact hquiets h hi
  | major remote pkt natt msg hdr w1 w2 hact hparse h1 hm h2 =>
    refine hquiets h2 (hmajor ?_ h1 hm (hquiets h1 hi))
    intro sa hl
    simp [incoming, hact, hparse, hl]

theorem StepShape.invariant (I : World → Prop)
    (hquiet : ∀ {w1 w2}, Quiet S i.env i.triggers w1 w2 → I w1 → I w2)
    (hmajor : ∀ {remote msg hdr w1 w2}, Major S i.env remote msg hdr w w1 w2 → I w1 → I w2)
    (h : StepShape S i w w') (hi : I w) : I w' :=
  h.invariant_of_incoming I hquiet (fun _ _ => hmajor) hi

theorem step_base (hb : Base w) (i : Input) : Base (step S w i) :=
  (step_shape hb.keyed i).invariant Base Quiet.base Major.base hb

theorem Reachable.base (h : Reachable S w) : Base w :=
  h.invariant Base (fun secret now => .initial secret now) fun _ i hb => step_base hb i

theorem guarded_run_invariant {S : Server} {ok : World → Input → Prop} (I : World → Prop)
    (h0 : ∀ secret now, I (World.initial secret now)) (hbase : ∀ w, I w → Base w)
    (hquiet : ∀ {i w0 w w'}, ok w0 i → Quiet S i.env i.triggers w w' → I w → I w')
    (hmajor : ∀ {i remote msg hdr w0 w w'}, ok w0 i → I w0 →
      (∀ sa, w0.lookupSA hdr.initiatorSPI = some sa →
        incoming S w0 i = some ⟨remote, msg, hdr, sa⟩) →
      Quiets S i.env i.triggers w0 w → Major S i.env remote msg hdr w0 w w' → I w → I w')
    {secret : Bytes} {now : Time} {inputs : List Input}
    (hok : Machine.Guarded (step S) ok (World.initial secret now) inputs) :
    I (runFrom S secret now inputs) := by
  refine hok.invariant I ?_ (h0 secret now)
  intro w i hi hg
  exact (step_shape (hbase w hi).keyed i).invariant_of_incoming I (hquiet hg)
    (hmajor hg hi) hi

end Epdg
