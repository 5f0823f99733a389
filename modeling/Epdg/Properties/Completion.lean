import Epdg.System.Final
import Epdg.System.Scenario

/-!
What is in place when the success response of IKE_AUTH is sent.

`handleAuthFinal` skips what it cannot do: without an offer of a CHILD SA or a local address
nothing is installed, and without the session nothing is added to GTP-U. `FinalReady` is the
condition under which it skips nothing and no request of the PGW undoes its work meanwhile.
-/
namespace Epdg
open Ikev2

def proceeding : List Session.State :=
  [.eapAuthenticated, .s2bCreateSessionSent, .s2bAccepted, .gtpuInstalling, .datapathInstalling,
    .active]

def accepted : List Session.State :=
  [.s2bAccepted, .gtpuInstalling, .datapathInstalling, .active]

def installing : List Session.State := [.gtpuInstalling, .datapathInstalling, .active]

section
variable {s : Session.Session}

theorem sessionS2b_accepted (r : CreateSessionResult) (h : s.state ∈ proceeding) :
    (sessionS2b r s).state ∈ accepted := by
  simp only [proceeding, List.mem_cons, List.not_mem_nil, or_false] at h
  rcases h with h | h | h | h | h | h <;>
    simp [sessionS2b, Session.Session.transition, Session.allowed, h, accepted]

theorem sessionESP_installing (sa : IkeSA) (h : s.state ∈ accepted) :
    (sessionESP sa s).state ∈ installing := by
  simp only [accepted, List.mem_cons, List.not_mem_nil, or_false] at h
  rcases h with h | h | h | h <;>
    simp [sessionESP, Session.Session.transition, Session.allowed, h, installing]

theorem sessionActive_active (h : s.state ∈ installing) : (sessionActive s).state = .active := by
  simp only [installing, List.mem_cons, List.not_mem_nil, or_false] at h
  rcases h with h | h | h <;>
    simp [sessionActive, Session.Session.transition, Session.allowed, h]

end

structure ChildInstalled (k : Xfrm.Kernel) (c : Xfrm.EspPair) (ts : IPNet) : Prop where
  inbound : ∃ st, k.states.lookup c.inKey = some st ∧ st.child = c
  outbound : ∃ st, k.states.lookup c.outKey = some st ∧ st.child = c
  policies : (k.policies.lookup ⟨ts, IPNet.all, .dirIn⟩).isSome = true ∧
    (k.policies.lookup ⟨ts, IPNet.all, .dirFwd⟩).isSome = true ∧
    (k.policies.lookup ⟨IPNet.all, ts, .dirOut⟩).isSome = true

def Complete (w : World) (spiI : UInt64) : Prop :=
  ∃ sa id localIP s, w.lookupSA spiI = some sa ∧ sa.espProp.isSome = true ∧
    sa.localIP = some localIP ∧ sa.sessionID = some id ∧
    ChildInstalled w.xfrm (sa.currentPair localIP) (w.remoteTS sa.sessionID) ∧
    w.gtpu.hasSession id = true ∧ w.sessions.get id = some s ∧ s.state = .active

def FinalReady (S : Server) (w : World) (i : Input) : Prop :=
  ∀ c, finalCall S w i = some c →
    c.sa.espProp.isSome = true ∧ c.sa.localIP.isSome = true ∧
    ∃ id s, c.sa.sessionID = some id ∧ w.sessions.get id = some s ∧ s.state ∈ proceeding ∧
      (∀ k sa', k ≠ c.sa.spiI → w.lookupSA k = some sa' → sa'.sessionID ≠ some id) ∧
      (∀ ev ∈ i.env.pgwAt 0, ∀ ctx, s.s2b = some ctx → ¬ ev.releases ctx) ∧
      ∀ r, i.env.s2b = .ok r → ∀ pos ev, 1 ≤ pos → ev ∈ i.env.pgwAt pos →
        ¬ ev.releases (s2bContext r)

structure Stage (states : List Session.State) (r : CreateSessionResult) (id : Session.ID)
    (w : World) : Prop where
  keyed : w.sessions.Keyed
  session : ∃ s, w.sessions.get id = some s ∧ s.state ∈ states ∧ s.s2b = some (s2bContext r)

namespace Stage
variable {states states' : List Session.State} {r : CreateSessionResult} {id : Session.ID}
  {w w' : World} {env : Env}

section
variable (h : Stage states r id w)
include h

theorem congr (hs : w'.sessions = w.sessions) : Stage states r id w' :=
  ⟨hs ▸ h.keyed, hs ▸ h.session⟩

theorem update {f : Session.Session → Session.Session} (hid : ∀ s, (f s).id = s.id)
    (hs2b : ∀ s, (f s).s2b = s.s2b) (hstate : ∀ s, s.state ∈ states → (f s).state ∈ states') :
    Stage states' r id (w.updateSession (some id) f) := by
  refine ⟨updateSession_keyed h.keyed _ hid, ?_⟩
  obtain ⟨s, hs, hst, hc⟩ := h.session
  exact ⟨f s, by simp [World.get_updateSession, hs], hstate s hst, (hs2b s).trans hc⟩

theorem pgwEvents_kept {pos : Nat} (hev : ∀ ev ∈ env.pgwAt pos, ¬ ev.releases (s2bContext r)) :
    SessionKept id w (pgwEvents w env pos) := by
  obtain ⟨s, hs, -, hc⟩ := h.session
  apply Epdg.pgwEvents_kept h.keyed
  grind

theorem pgwEvents {pos : Nat} (hev : ∀ ev ∈ env.pgwAt pos, ¬ ev.releases (s2bContext r)) :
    Stage states r id (pgwEvents w env pos) := by
  refine ⟨pgwEvents_keyed h.keyed env pos, ?_⟩
  obtain ⟨s, hs, hst, hc⟩ := h.session
  obtain ⟨b, hb⟩ := (h.pgwEvents_kept hev).get_some hs
  exact ⟨s.marked b, hb, hst, hc⟩

theorem remoteTS : w.remoteTS (some id) = IPNet.host (some (IP.v4 r.paa)) := by
  obtain ⟨s, hs, -, hc⟩ := h.session
  simp [World.remoteTS, World.sessionOf, hs, hc, s2bContext]

end

end Stage

section
variable {S : Server} {env : Env} {remote : UDPAddr} {hdr : IKEHeader} {w w1 : World}
  {sa : IkeSA} {r : CreateSessionResult} {natt : Bool} {id : Session.ID} {localIP : IP}

theorem childInstalled_of_install {k k' : Xfrm.Kernel} {faults : Nat → Bool}
    {P : Primitives} {prop : ChildProposal} (hremote : sa.remoteAddr = remote)
    (h : Xfrm.installChildSA k faults (finalChild P sa prop localIP remote r) = (k', true)) :
    ChildInstalled k' (sa.currentPair localIP) (IPNet.host (some (IP.v4 r.paa))) := by
  obtain ⟨hs, hp⟩ := Xfrm.installChildSA_ok h
  have hpair : (finalChild P sa prop localIP remote r).pair = sa.currentPair localIP := by
    rw [← hremote]
    rfl
  have hstates := hs.states
  have hpol := hp.policies
  rw [hpair] at hstates
  refine ⟨?_, ⟨_, (hstates _).trans (if_pos rfl), hpair⟩, ?_, ?_, ?_⟩
  · rw [hstates]
    split
    · exact ⟨_, rfl, hpair⟩
    · exact ⟨_, if_pos rfl, hpair⟩
  · have hin : ∃ pol, k'.policies.lookup (finalChild P sa prop localIP remote r).inPol =
        some pol := by
      rw [hpol]
      split
      · exact ⟨_, rfl⟩
      · simp_all
    exact Option.isSome_iff_exists.mpr hin
  · have hfwd : ∃ pol, k'.policies.lookup (finalChild P sa prop localIP remote r).fwdPol =
        some pol := by
      rw [hpol]
      split
      · exact ⟨_, rfl⟩
      · simp_all
    exact Option.isSome_iff_exists.mpr hfwd
  · have hout : ∃ pol, k'.policies.lookup (finalChild P sa prop localIP remote r).outPol =
        some pol := ⟨_, (hpol _).trans (if_pos rfl)⟩
    exact Option.isSome_iff_exists.mpr hout

section
variable (hl : w.lookupSA sa.spiI = some sa) (hesp : sa.espProp.isSome = true)
  (hip : sa.localIP = some localIP) (hid : sa.sessionID = some id)
include hl hesp hip hid

theorem finalRespond_complete (hstage : Stage [.active] r id w)
    (hinst : ChildInstalled w.xfrm (sa.currentPair localIP) (IPNet.host (some (IP.v4 r.paa))))
    (hgtpu : w.gtpu.hasSession id = true) (hev : ∀ ev ∈ env.pgwAt 4, ¬ ev.releases (s2bContext r)) :
    Complete (finalRespond S w env remote sa hdr natt r) sa.spiI := by
  have hkept := hstage.pgwEvents_kept hev
  have hstage' := hstage.pgwEvents hev
  have hx : (finalRespond S w env remote sa hdr natt r).sessions = (pgwEvents w env 4).sessions ∧
      (finalRespond S w env remote sa hdr natt r).gtpu = (pgwEvents w env 4).gtpu ∧
      (finalRespond S w env remote sa hdr natt r).xfrm = (pgwEvents w env 4).xfrm := by
    simp only [finalRespond, respond]
    split
    · grind
    · exact ⟨rfl, rfl, rfl⟩
  obtain ⟨s, hs, hst, -⟩ := hstage'.session
  refine ⟨sa, id, localIP, s, (lookupSA_finalRespond _).trans hl, hesp, hip, hid, ?_, ?_, ?_, ?_⟩
  · have hts : (finalRespond S w env remote sa hdr natt r).remoteTS (some id) =
        IPNet.host (some (IP.v4 r.paa)) := (hstage'.congr hx.1).remoteTS
    rw [hid, hts, hx.2.2, (pgwEvents_aside w env 4).xfrm]
    exact hinst
  · rw [hx.2.1]
    exact hkept.gtpu hgtpu
  · rw [hx.1]
    exact hs
  · simpa using hst

theorem finalDatapath_complete (hstage : Stage accepted r id w)
    (hinst : ChildInstalled w.xfrm (sa.currentPair localIP) (IPNet.host (some (IP.v4 r.paa))))
    (hev : ∀ pos ev, 1 ≤ pos → ev ∈ env.pgwAt pos → ¬ ev.releases (s2bContext r))
    (hsent : ¬ Unanswered w (finalDatapath S w env remote sa hdr natt r)) :
    Complete (finalDatapath S w env remote sa hdr natt r) sa.spiI := by
  have h1 : Stage installing r id (w.updateSession (some id) (sessionESP sa)) :=
    hstage.update (by simp [sessionESP]) (by simp [sessionESP])
      fun s hs => sessionESP_installing sa hs
  have h2 := h1.pgwEvents (hev 2 · (by decide))
  obtain ⟨s1, hs1, -, -⟩ := h1.session
  obtain ⟨s2, hs2, -, -⟩ := h2.session
  simp only [finalDatapath, hid] at hsent ⊢
  simp only [World.sessionOf, Option.bind_some, hs1, hs2, Option.getD_some] at hsent ⊢
  split at hsent
  · refine (hsent ?_).elim
    have hu : Unanswered w (pgwEvents (w.updateSession (some id) (sessionESP sa)) env 2) :=
      Without.trans (.of_eq (World.updateSession_trace _ _ _))
        (.of_aside isCompletion_special (pgwEvents_aside _ _ _))
    exact hu.trans (Without.trans (.of_eq rfl) (.respond isCompletion_special _ _ _ _ _ _))
  rename_i m d hadd
  obtain ⟨hhas, -⟩ := Gtpu.Manager.addSession_ok hadd
  rw [h2.keyed id s2 hs2] at hhas
  generalize hw3 : (World.setGtpu _ m).updateSession (some id) _ = w3
  have h2' : Stage installing r id
      ((pgwEvents (w.updateSession (some id) (sessionESP sa)) env 2).setGtpu m) := h2.congr rfl
  have h3 : Stage installing r id w3 := by
    rw [← hw3]
    exact h2'.update (by simp) (by simp) (by simp)
  have hg3 : w3.gtpu.hasSession id = true := by
    rw [← hw3, World.updateSession_gtpu]
    exact hhas
  have hx3 : w3.xfrm = w.xfrm := by
    rw [← hw3, World.updateSession_xfrm, World.setGtpu_xfrm, (pgwEvents_aside _ _ _).xfrm,
      World.updateSession_xfrm]
  have hl3 : w3.lookupSA sa.spiI = some sa := by
    rw [← hw3, World.lookupSA_updateSession, World.lookupSA_setGtpu, lookupSA_pgwEvents,
      World.lookupSA_updateSession, hl]
  have h4 := h3.pgwEvents (hev 3 · (by decide))
  have h5 : Stage [.active] r id ((pgwEvents w3 env 3).updateSession (some id) sessionActive) :=
    h4.update (by simp [sessionActive]) (by simp [sessionActive]) fun s hs => by
      simp [sessionActive_active hs]
  refine finalRespond_complete ?_ hesp hip hid h5 ?_ ?_ (hev 4 · (by decide))
  · simp_all
  · rw [World.updateSession_xfrm, (pgwEvents_aside _ _ _).xfrm, hx3]
    exact hinst
  · rw [World.updateSession_gtpu]
    exact (h3.pgwEvents_kept (hev 3 · (by decide))).gtpu hg3

end

theorem finalInstall_complete (hesp : sa.espProp.isSome = true) (hip : sa.localIP = some localIP)
    (hremote : sa.remoteAddr = remote) (hid : sa.sessionID = some id)
    (hstage : Stage accepted r id w)
    (hev : ∀ pos ev, 1 ≤ pos → ev ∈ env.pgwAt pos → ¬ ev.releases (s2bContext r))
    (hsent : ¬ Unanswered w (finalInstall S w env remote sa hdr natt r)) :
    Complete (finalInstall S w env remote sa hdr natt r) sa.spiI := by
  obtain ⟨prop, hprop⟩ := Option.isSome_iff_exists.mp hesp
  simp only [finalInstall] at hsent ⊢
  split at hsent
  · exact (hsent (.refl w)).elim
  rename_i spi hspi
  have hu : Unanswered w
      ((w.storeSA (sa.establish spi)).emit (.established (sa.establish spi).ref)) :=
    .cons rfl rfl
  have hc := installFinal_cases S.prims ((w.storeSA (sa.establish spi)).emit
    (.established (sa.establish spi).ref)) env remote (sa.establish spi) r
  generalize installFinal S.prims ((w.storeSA (sa.establish spi)).emit
    (.established (sa.establish spi).ref)) env remote (sa.establish spi) r = out at hc hsent
  cases hc with
  | skipped hno =>
    rcases hno with hno | hno
    · exact absurd (hno.symm.trans hprop) (by simp)
    · exact absurd (hno.symm.trans hip) (by simp)
  | failed prop' ip k hp hi hf =>
    refine (hsent ?_).elim
    exact hu.trans (Without.trans (.of_eq rfl) (.respond isCompletion_special _ _ _ _ _ _))
  | installed prop' ip k hp hi hk =>
    obtain rfl : localIP = ip := Option.some.inj (hip.symm.trans hi)
    have hl : (World.emit (World.setKernel ((w.storeSA (sa.establish spi)).emit
        (.established (sa.establish spi).ref)) k) (.childInstalled (sa.establish spi).ref
        (finalChild S.prims (sa.establish spi) prop' localIP remote r))).lookupSA
          (sa.establish spi).spiI = some (sa.establish spi) := lookupSA_stored _ _
    refine finalDatapath_complete hl hesp hip hid (hstage.congr rfl)
      (childInstalled_of_install hremote hk) hev fun h => hsent ?_
    exact hu.trans (Without.trans (.cons rfl rfl) h)

theorem implicitDetach_kept (h : implicitDetach S w env sa = some w1)
    (hothers : ∀ k sa', k ≠ sa.spiI → w.lookupSA k = some sa' → sa'.sessionID ≠ some id) :
    SessionKept id w w1 := by
  rcases implicitDetach_some h with rfl | ⟨k, old, hne, hold, rfl⟩
  · exact .refl w1
  · have hid : old.closing.sessionID ≠ some id := hothers k old hne hold
    exact SessionKept.trans (.of_eq (World.storeSA_sessions _ _) rfl) (fullTeardown_kept hid)

theorem implicitDetach_sessionsKeyed (hk : w.sessions.Keyed)
    (h : implicitDetach S w env sa = some w1) : w1.sessions.Keyed := by
  rcases implicitDetach_some h with rfl | ⟨k, old, -, -, rfl⟩
  · exact hk
  · exact fullTeardown_keyed (w := w.storeSA old.closing) hk _ _ _

theorem finalCreate_complete {s : Session.Session} (hesp : sa.espProp.isSome = true)
    (hip : sa.localIP = some localIP) (hremote : sa.remoteAddr = remote)
    (hid : sa.sessionID = some id) (hk : w.sessions.Keyed) (hs : w.sessions.get id = some s)
    (hproc : s.state ∈ proceeding)
    (hev0 : ∀ ev ∈ env.pgwAt 0, ∀ ctx, s.s2b = some ctx → ¬ ev.releases ctx)
    (hev : ∀ r, env.s2b = .ok r → ∀ pos ev, 1 ≤ pos → ev ∈ env.pgwAt pos →
      ¬ ev.releases (s2bContext r))
    (hsent : ¬ Unanswered w (finalCreate S w env remote sa hdr natt)) :
    Complete (finalCreate S w env remote sa hdr natt) sa.spiI := by
  simp only [finalCreate] at hsent ⊢
  split at hsent
  · exact (hsent (.respond isCompletion_special _ _ _ _ _ _)).elim
  rename_i hsend
  rw [if_neg hsend]
  cases hr : env.s2b with
  | failed created =>
    rw [hr] at hsent
    refine (hsent (Without.trans ?_ (.respond isCompletion_special _ _ _ _ _ _))).elim
    split
    · exact .cons rfl rfl
    · exact .cons rfl rfl
  | ok r =>
    rw [hr] at hsent
    dsimp only at hsent ⊢
    generalize hwA : pgwCreate (w.emit (.s2bCreate sa.ref (finalRequest w env sa)))
      r.localControlTEID r.ebi = wA at hsent ⊢
    have hkA : wA.sessions.Keyed := by
      rw [← hwA]
      exact hk
    have hsA : wA.sessions.get id = some s := by
      rw [← hwA]
      exact hs
    have huA : Unanswered w wA := by
      rw [← hwA]
      exact .cons rfl rfl
    have hkept : SessionKept id wA (pgwEvents wA env 0) := by
      apply pgwEvents_kept hkA
      simp_all
    obtain ⟨b, hsB⟩ := hkept.get_some hsA
    have hC : Stage accepted r id ((pgwEvents wA env 0).updateSession (some id)
        (sessionS2b r)) := by
      refine ⟨updateSession_keyed (pgwEvents_keyed hkA env 0) _ (by simp [sessionS2b]), ?_⟩
      refine ⟨sessionS2b r (s.marked b), by simp [World.get_updateSession, hsB], ?_, ?_⟩
      · exact sessionS2b_accepted r hproc
      · simp [sessionS2b]
    have hD := hC.pgwEvents (hev r hr 1 · (by decide))
    rw [hid] at hsent ⊢
    refine finalInstall_complete hesp hip hremote hid hD (hev r hr) fun h => hsent ?_
    have huC : Unanswered w ((pgwEvents wA env 0).updateSession (some id) (sessionS2b r)) :=
      huA.trans (Without.trans (.of_aside isCompletion_special (pgwEvents_aside _ _ _))
        (.of_eq (World.updateSession_trace _ _ _)))
    exact huC.trans (Without.trans (.of_aside isCompletion_special (pgwEvents_aside _ _ _)) h)

theorem finalCall_complete {w0 : World} {i : Input} {c : FinalArgs}
    (hc : FinalCalled S w0 i c) (hcall : finalCall S w0 i = some c)
    (hk : w0.sessions.Keyed) (hready : FinalReady S w0 i)
    (hsent : SuccessSent c.world (step S w0 i)) : Complete (step S w0 i) c.sa.spiI := by
  obtain ⟨hesp, hip, id, s, hid, hs, hproc, hothers, hev0, hev⟩ := hready c hcall
  obtain ⟨localIP, hip⟩ := Option.isSome_iff_exists.mp hip
  obtain ⟨auth, w1, hd, hstep, hsent⟩ := hc.answered hsent
  rw [hstep]
  have hk0 : (c.world.emit (.authVerified c.sa auth)).sessions.Keyed := hc.sessions ▸ hk
  have hk1 := implicitDetach_sessionsKeyed hk0 hd
  have hothers' : ∀ k sa', k ≠ c.sa.spiI →
      (c.world.emit (.authVerified c.sa auth)).lookupSA k = some sa' →
      sa'.sessionID ≠ some id := by
    intro k sa' hne hl
    exact hothers k sa' hne ((hc.others k hne).symm.trans hl)
  have hs0 : (c.world.emit (.authVerified c.sa auth)).sessions.get id = some s :=
    hc.sessions ▸ hs
  obtain ⟨b, hs1⟩ := (implicitDetach_kept hd hothers').get_some hs0
  exact finalCreate_complete hesp hip hc.remote hid hk1 hs1 hproc hev0 hev hsent

/-- In every run whose calls of `handleAuthFinal` find what they need and are not undone by
the PGW, the CHILD SA and the GTP-U session are installed and the session is active whenever
the success response is sent. -/
theorem success_response_complete (S : Server) (secret : Bytes) (now : Time)
    (inputs : List Input)
    (hready : Machine.Guarded (step S) (FinalReady S) (World.initial secret now) inputs) :
    ∀ before i rest c, inputs = before ++ i :: rest →
      finalCall S (runFrom S secret now before) i = some c →
      SuccessSent c.world (runFrom S secret now (before ++ [i])) →
      Complete (runFrom S secret now (before ++ [i])) c.sa.spiI := by
  intro before i rest c hsplit hcall hsent
  have hreach : Reachable S (runFrom S secret now before) := ⟨secret, now, before, rfl⟩
  rw [hsplit, Machine.guarded_append] at hready
  have hstep : runFrom S secret now (before ++ [i]) = step S (runFrom S secret now before) i := by
    simp [runFrom, Machine.run_append]
  rw [hstep] at hsent ⊢
  exact finalCall_complete (finalCall_spec hreach.base.keyed hcall) hcall hreach.sessionsKeyed
    hready.2.1 hsent

end
section Runs
open Scenario

def lastRequest (a : Attach) (pgwAt : Nat → List PgwEvent) : Input :=
  a.final { now := 4, s2b := .ok (connection 1), espSPI := some 0x1001, pgwAt }

def Answered (a : Attach) (pgwAt : Nat → List PgwEvent) (c : FinalArgs) : Prop :=
  finalCall server (after a.authenticated) (lastRequest a pgwAt) = some c ∧ c.sa.spiI = 0x11 ∧
    SuccessSent c.world (after (a.authenticated ++ [lastRequest a pgwAt]))

theorem successSent_of_trace {before : List Input} {i : Input} {c : FinalArgs} (n : Nat)
    (hcall : finalCall server (after before) i = some c)
    (htrace : (after (before ++ [i])).trace.drop n = (after before).trace ∧
      ((after (before ++ [i])).trace.take n).any Event.isCompletion = true) :
    SuccessSent c.world (after (before ++ [i])) := by
  have hspec := finalCall_spec (after_reachable before).base.keyed hcall
  obtain ⟨e, he, hc⟩ := List.any_eq_true.mp htrace.2
  refine ⟨_, ?_, e, he, hc⟩
  rw [hspec.trace, ← htrace.1, List.take_append_drop]

private theorem answered_of_trace {a : Attach} {pgwAt : Nat → List PgwEvent} (n : Nat)
    (hcall : (finalCall server (after a.authenticated) (lastRequest a pgwAt)).any
      (fun c => c.sa.spiI = 0x11) = true)
    (htrace : (after (a.authenticated ++ [lastRequest a pgwAt])).trace.drop n =
        (after a.authenticated).trace ∧
      ((after (a.authenticated ++ [lastRequest a pgwAt])).trace.take n).any
        Event.isCompletion = true) :
    ∃ c, Answered a pgwAt c := by
  obtain ⟨c, hc, hspi⟩ := (Option.any_eq_true _ _).mp hcall
  exact ⟨c, hc, by simpa using hspi, successSent_of_trace n hc htrace⟩

private theorem lastCall_ready : FinalReady server (after (Attach.authenticated {}))
    (lastRequest {} fun _ => []) := by
  intro c hc
  have hcall : (finalCall server (after (Attach.authenticated {}))
      (lastRequest {} fun _ => [])).all (fun c => c.sa.espProp.isSome && c.sa.localIP.isSome &&
        c.sa.spiI = 0x11 && c.sa.sessionID = some ⟨0x11, 0x21⟩) = true := by decide +kernel
  rw [hc] at hcall
  simp only [Option.all_some, Bool.and_eq_true, decide_eq_true_eq] at hcall
  obtain ⟨⟨⟨hesp, hip⟩, hspi⟩, hid⟩ := hcall
  refine ⟨hesp, hip, ⟨0x11, 0x21⟩,
    ((after (Attach.authenticated {})).sessions.get ⟨0x11, 0x21⟩).get (by decide +kernel), hid,
    (Option.some_get _).symm, by decide +kernel, ?_, by simp [lastRequest, Attach.final], ?_⟩
  · intro k sa' hne hl
    have hkeys : (after (Attach.authenticated {})).sas.keys = [0x11] := by decide +kernel
    have hmem := World.mem_keys_of_lookupSA hl
    simp_all
  · intro r _ pos ev _ hmem
    cases hmem

private theorem attach_ready : Machine.Guarded (step server) (FinalReady server)
    (World.initial [1] 0) (Attach.authenticated {} ++ [lastRequest {} fun _ => []]) := by
  have hnone (w : World) (i : Input) (h : (finalCall server w i).isNone = true) :
      FinalReady server w i := by
    intro c hc
    grind
  rw [Machine.guarded_append]
  refine ⟨⟨hnone _ _ (by decide +kernel), hnone _ _ (by decide +kernel),
    hnone _ _ (by decide +kernel), trivial⟩, lastCall_ready, trivial⟩

/-- After a plain attach everything is in place. -/
theorem attach_complete :
    Complete (runFrom server [1] 0 (Attach.authenticated {} ++ [lastRequest {} fun _ => []]))
      0x11 := by
  obtain ⟨c, hc, hspi, hsent⟩ : ∃ c, Answered {} (fun _ => []) c :=
    answered_of_trace 6 (by decide +kernel) (by decide +kernel)
  have h := success_response_complete server [1] 0 _ attach_ready (Attach.authenticated {})
    (lastRequest {} fun _ => []) [] c rfl hc hsent
  rw [hspi] at h
  exact h

/-- An attach without the offer of a CHILD SA, and one whose PDN connection the PGW deletes
before the CHILD SA is installed: both end with the success response. -/
theorem success_response_incomplete :
    (∃ c, Answered { child := none } (fun _ => []) c ∧
      ¬ Complete (after (Attach.authenticated { child := none } ++
        [lastRequest { child := none } fun _ => []])) c.sa.spiI) ∧
    ∃ c, Answered {} (fun pos => if pos = 1 then [.deleteSession 0x301 false] else []) c ∧
      ¬ Complete (after (Attach.authenticated {} ++
        [lastRequest {} fun pos => if pos = 1 then [.deleteSession 0x301 false] else []]))
        c.sa.spiI := by
  constructor
  · obtain ⟨c, hc⟩ : ∃ c, Answered { child := none } (fun _ => []) c :=
      answered_of_trace 5 (by decide +kernel) (by decide +kernel)
    refine ⟨c, hc, ?_⟩
    rw [hc.2.1]
    rintro ⟨sa, id, localIP, s, hl, hesp, -⟩
    have hnone : ((after (Attach.authenticated { child := none } ++
        [lastRequest { child := none } fun _ => []])).lookupSA 0x11).all
        (fun sa => sa.espProp.isNone) = true := by decide +kernel
    rw [hl] at hnone
    simp_all
  · obtain ⟨c, hc⟩ : ∃ c, Answered {}
        (fun pos => if pos = 1 then [.deleteSession 0x301 false] else []) c :=
      answered_of_trace 7 (by decide +kernel) (by decide +kernel)
    refine ⟨c, hc, ?_⟩
    rw [hc.2.1]
    rintro ⟨sa, id, localIP, s, hl, -, -, hid, -, -, hs, -⟩
    have hgone : ((after (Attach.authenticated {} ++ [lastRequest {} fun pos =>
        if pos = 1 then [.deleteSession 0x301 false] else []])).lookupSA 0x11).all
        (fun sa => sa.sessionID.all fun id => ((after (Attach.authenticated {} ++
          [lastRequest {} fun pos => if pos = 1 then [.deleteSession 0x301 false] else []])).sessions.get
            id).isNone) = true := by decide +kernel
    rw [hl, Option.all_some, hid, Option.all_some, hs] at hgone
    cases hgone

end Runs
end Epdg
