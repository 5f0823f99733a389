import Epdg.System.References
import Epdg.System.Scenario

/-!
SWm session termination.

`fullTeardown` sends the STR with the SWm session id of the SA and the handover mark of its
session, `handlePGWDelete` with the id of the session and the handover flag of the request. A
session that the PGW deletes is terminated a second time when its SA is torn down. In runs in
which the PGW deletes bearers only, every SWm session is terminated at most once, and with
the cause of a handover exactly when one was signalled.
-/
namespace Epdg
open Ikev2
variable {sa sa' : IkeSA} {ev : PgwEvent} {k : UInt64} {sid : SWMSessionID} {e : Event}
  {teid : UInt32} {ho : Bool}

def TerminatedRight (older : List Event) : Event → Prop
  | .strSent sid session cause =>
    (∀ session' cause', .strSent sid session' cause' ∉ older) ∧
      (cause = 8 ↔ ∃ id, session = some id ∧ .handoverSignalled id ∈ older)
  | _ => True

theorem terminatedRight_of_plain (h : e.isTermination = false) (older : List Event) :
    TerminatedRight older e := by
  cases e <;> trivial

section
variable {S : Server} {w w' : World} {id : Session.ID}

theorem Uneventful.terminated (h : Uneventful w w')
    (hj : Machine.Justified TerminatedRight w.trace) :
    Machine.Justified TerminatedRight w'.trace := by
  obtain ⟨new, ht, hn⟩ := h
  rw [ht]
  exact hj.append fun e he => terminatedRight_of_plain (hn e he)

theorem Uneventful.mem_iff (h : Uneventful w w') (he : e.isTermination = true) :
    e ∈ w'.trace ↔ e ∈ w.trace := by
  obtain ⟨new, ht, hn⟩ := h
  grind

theorem trace_teardownSession (w : World) (sid : Option Session.ID) :
    Uneventful w (teardownSession w sid) := by
  simp only [teardownSession]
  split
  · rename_i id sess hs
    cases sess.s2b with
    | none => exact .of_eq rfl
    | some c =>
      simp only [releaseS2b]
      split
      · exact .one rfl rfl
      · exact .of_eq rfl
  · exact .of_eq rfl

theorem fullTeardown_terminations (P : Primitives) (strOpen : Bool) (w : World) (sa : IkeSA) :
    ∃ w1, Uneventful w w1 ∧
      ((fullTeardown P strOpen w sa).trace = w1.trace ∨
        ∃ sid, sa.swmSessionID = some sid ∧
          (fullTeardown P strOpen w sa).trace = .strSent sid sa.sessionID
            (if handoverComplete w sa.sessionID then 8 else 1) :: w1.trace) := by
  obtain ⟨k1, h1⟩ := removeXFRMChildSA_eq P w sa
  obtain ⟨k2, h2⟩ := removePendingStates_eq (removeXFRMChildSA P w sa) sa
  refine ⟨teardownSession (removePendingStates (removeXFRMChildSA P w sa) sa) sa.sessionID, ?_, ?_⟩
  · obtain ⟨new, ht, hn⟩ := trace_teardownSession
      (removePendingStates (removeXFRMChildSA P w sa) sa) sa.sessionID
    refine ⟨new, ht.trans ?_, hn⟩
    rw [h2, h1]
    rfl
  · simp only [fullTeardown, World.deleteSA_trace, teardownSwm]
    cases hswm : sa.swmSessionID with
    | none => exact .inl rfl
    | some sid =>
      simp only [terminateSession]
      split
      · simp_all
      · exact .inl rfl

theorem handoverComplete_iff (w : World) (sid : Option Session.ID) :
    handoverComplete w sid = true ↔
      ∃ id l, sid = some id ∧ w.links id = some l ∧ l.handover = true := by
  cases sid with
  | none => simp [handoverComplete, World.sessionOf]
  | some id =>
    cases hs : w.sessions.get id with
    | none => simp [handoverComplete, World.sessionOf, World.links, hs]
    | some s => simp [handoverComplete, World.sessionOf, World.links, hs, Links.of]

theorem trace_cleanupSession (w : World) (sess : Session.Session) :
    (cleanupSession w sess).trace = w.trace := by
  simp only [cleanupSession]
  split
  · rfl
  · split <;> rfl

theorem trace_deleteBearers (w : World) (tftFault : UInt8 → Bool) (sess : Session.Session)
    (defaultEBI : UInt8) (ebis : List UInt8) :
    (deleteBearers w tftFault sess defaultEBI ebis).trace = w.trace := by
  induction ebis generalizing w with
  | nil => rfl
  | cons ebi rest ih =>
    simp only [deleteBearers]
    split
    · split <;> exact trace_cleanupSession w sess
    split
    · exact ih _
    · rfl

structure Signals (w w' : World) : Prop where
  trace : ∃ new, w'.trace = new ++ w.trace ∧
    (∀ e ∈ new, ∃ id l, e = .handoverSignalled id ∧ w'.links id = some l ∧ l.handover = true) ∧
    ∀ id l, w'.links id = some l → l.handover = true →
      (∃ l0, w.links id = some l0 ∧ l0.handover = true) ∨ .handoverSignalled id ∈ new

theorem Signals.of_same (ht : w'.trace = w.trace) (hl : ∀ id, w'.links id = w.links id) :
    Signals w w' :=
  ⟨[], ht, by simp, fun id l h hh => .inl ⟨l, hl id ▸ h, hh⟩⟩

theorem handlePGWDeleteBearer_signals (hk : w.sessions.Keyed) (tftFault : UInt8 → Bool) (teid : UInt32)
    (ebis : List UInt8) (isHandover : Bool) :
    Signals w (handlePGWDeleteBearer w tftFault teid ebis isHandover) := by
  cases hf : w.sessions.findByLocalControlTEID teid with
  | none =>
    simp only [handlePGWDeleteBearer, hf]
    exact .of_same rfl fun id => rfl
  | some sess =>
    obtain ⟨hget, c, hc, rfl⟩ := Session.Manager.findByLocalControlTEID_keyed hk hf
    have hself := links_deleteBearer_self hget hf hc tftFault ebis isHandover
    refine ⟨if isHandover then [.handoverSignalled sess.id] else [], ?_, ?_, ?_⟩
    · rw [handlePGWDeleteBearer_found hf hc, trace_deleteBearers]
      simp only [signalHandover]
      split <;> rfl
    · grind
    · intro id l hl hh
      by_cases hid : id = sess.id
      · subst hid
        cases isHandover with
        | true => exact .inr (by simp)
        | false =>
          refine .inl ⟨Links.of sess, by simp [World.links, hget], ?_⟩
          rw [Bool.or_false] at hself
          rcases hself with h | ⟨-, -, h⟩
          · rw [hl, Option.some.injEq] at h
            rw [h] at hh
            exact hh
          rw [hl] at h
          split at h
          · rename_i hm
            exact hm
          · cases h
      · rw [links_deleteBearer_other hf hc tftFault ebis isHandover hid] at hl
        simp_all

theorem handlePGW_signals (hk : w.sessions.Keyed) (env : Env)
    (hno : ∀ teid ho, ev = .deleteSession teid ho → w.sessions.findByLocalControlTEID teid = none)
    : Signals w (handlePGW w env ev) := by
  have hs := sessions_pgwRelease w ev
  have hl : ∀ id, (pgwRelease w ev).links id = w.links id := fun id => by simp only [World.links, hs]
  have ht : (pgwRelease w ev).trace = w.trace := by
    cases ev with
    | deleteSession => rfl
    | deleteBearer teid ebis ho =>
      simp only [pgwRelease]
      grind
  cases ev with
  | deleteSession teid ho =>
    have hf := hno teid ho rfl
    have he : handlePGW w env (.deleteSession teid ho) = pgwRelease w (.deleteSession teid ho) := by
      simp only [handlePGW, handlePGWDelete, hs, hf]
    rw [he]
    exact .of_same ht hl
  | deleteBearer teid ebis ho =>
    obtain ⟨new, h1, h2, h3⟩ :=
      (handlePGWDeleteBearer_signals (w := pgwRelease w (.deleteBearer teid ebis ho)) (hs ▸ hk)
        (fun _ => env.gtpuFault) teid ebis ho).trace
    refine ⟨new, h1.trans (by rw [ht]), h2, fun id l h hh => ?_⟩
    rcases h3 id l h hh with ⟨l0, h0, hh0⟩ | hm
    · simp_all
    · exact .inr hm

end

structure TermSafe (S : Server) (w : World) (i : Input) : Prop where
  fresh : FreshID S w i
  unsignalled : ∀ remote msg hdr spiR, i.message S = some (remote, msg, hdr) →
    hdr.exchangeType = exchIKESAInit → i.env.spiR = some spiR →
    .handoverSignalled ⟨hdr.initiatorSPI, spiR⟩ ∉ w.trace
  swm : ∀ remote msg hdr, i.message S = some (remote, msg, hdr) →
    hdr.exchangeType = exchIKEAuth → (∀ k, ¬ HoldsSwm w k i.env.now) ∧
      ∀ session cause, .strSent i.env.now session cause ∉ w.trace
  pgw : ∀ teid ho, i.handles (.deleteSession teid ho) →
    (∀ id l c, w.links id = some l → l.s2b = some c → c.localControlTEID ≠ teid) ∧
      ∀ r, i.env.s2b = .ok r → r.localControlTEID ≠ teid

def Flagged (w : World) (id : Session.ID) : Prop := ∃ l, w.links id = some l ∧ l.handover = true

structure TermInv (w : World) : Prop where
  refs : RefInv w
  swm : ∀ k k' sid, HoldsSwm w k sid → HoldsSwm w k' sid → k = k'
  spent : ∀ k sid session cause, .strSent sid session cause ∈ w.trace → ¬ HoldsSwm w k sid
  marked : ∀ id, Flagged w id → .handoverSignalled id ∈ w.trace
  signalled : ∀ k id, Refers w k id → .handoverSignalled id ∈ w.trace → Flagged w id
  halfOpen : ∀ k sa, w.lookupSA k = some sa → sa.state = .auth →
    .handoverSignalled sa.ownSession ∈ w.trace → Flagged w sa.ownSession
  sound : Machine.Justified TerminatedRight w.trace

section
variable {S : Server} {i : Input} {w0 w w' : World} {id : Session.ID}

theorem TermInv.initial (secret : Bytes) (now : Time) : TermInv (World.initial secret now) where
  refs := .initial secret now
  swm := by
    rintro k k' sid ⟨sa, hl, -⟩
    cases hl
  spent _ _ _ _ h := by cases h
  marked := by
    rintro id ⟨l, hl, -⟩
    cases hl
  signalled _ _ _ h := by cases h
  halfOpen _ _ hl := by cases hl
  sound := trivial

theorem TermInv.kept (hi : TermInv w) (hrefs : RefInv w') (ht : Uneventful w w')
    (hflag : ∀ id, Flagged w' id ↔ Flagged w id)
    (hr : ∀ k id, Refers w' k id → Refers w k id ∨ ∃ sa, w.lookupSA k = some sa ∧
      sa.state = .auth ∧ id = sa.ownSession)
    (hswm : ∀ k sid, HoldsSwm w' k sid → HoldsSwm w k sid)
    (hauth : ∀ k sa', w'.lookupSA k = some sa' → sa'.state = .auth →
      ∃ sa, w.lookupSA k = some sa ∧ sa.state = .auth ∧ sa'.ownSession = sa.ownSession) :
    TermInv w' where
  refs := hrefs
  swm k k' sid h h' := hi.swm k k' sid (hswm k sid h) (hswm k' sid h')
  spent k sid session cause h hh :=
    hi.spent k sid session cause ((ht.mem_iff rfl).mp h) (hswm k sid hh)
  marked id h := (ht.mem_iff rfl).mpr (hi.marked id ((hflag id).mp h))
  signalled k id h hs := by
    have hs' := (ht.mem_iff rfl).mp hs
    rw [hflag]
    rcases hr k id h with h | ⟨sa, hl, hst, rfl⟩
    · exact hi.signalled k id h hs'
    · exact hi.halfOpen k sa hl hst hs'
  halfOpen k sa' hl' hst' hs := by
    obtain ⟨sa, hl, hst, hown⟩ := hauth k sa' hl' hst'
    rw [hown] at hs ⊢
    rw [hflag]
    exact hi.halfOpen k sa hl hst ((ht.mem_iff rfl).mp hs)
  sound := ht.terminated hi.sound

theorem Quiet.halfOpen (hq : Quiet S i.env i.triggers w w') (hl' : w'.lookupSA k = some sa')
    (hs' : sa'.state = .auth) :
    ∃ sa, w.lookupSA k = some sa ∧ sa.state = .auth ∧ sa'.ownSession = sa.ownSession := by
  obtain ⟨sa, hl, he⟩ := hq.evolve hl'
  have hsame := he.sameIdentity
  exact ⟨sa, hl, hsame.state ▸ hs', by simp only [IkeSA.ownSession, hsame.spiI, hsame.spiR]⟩

theorem Quiet.holdsSwm (hq : Quiet S i.env i.triggers w w') (h : HoldsSwm w' k sid)
    : HoldsSwm w k sid := by
  obtain ⟨sa', hl', hid⟩ := h
  obtain ⟨sa, hl, he⟩ := hq.evolve hl'
  exact ⟨sa, hl, he.sameIdentity.swmSessionID ▸ hid⟩

theorem Flagged.congr (h : w'.links id = w.links id) : Flagged w' id ↔ Flagged w id := by
  simp only [Flagged, h]

theorem TermInv.terminates (hi : TermInv w) (hl : w.lookupSA sa.spiI = some sa)
    (hsid : sa.swmSessionID = some sid) {w1 : World} (hu : Uneventful w w1) :
    TerminatedRight w1.trace (.strSent sid sa.sessionID
      (if handoverComplete w sa.sessionID then 8 else 1)) := by
  constructor
  · intro session cause hm
    exact hi.spent sa.spiI sid session cause ((hu.mem_iff rfl).mp hm) ⟨sa, hl, hsid⟩
  · have hcause : ((if handoverComplete w sa.sessionID then 8 else 1 : UInt32) = 8) ↔
        handoverComplete w sa.sessionID = true := by
      split <;> simp [*]
    rw [hcause, handoverComplete_iff]
    constructor
    · rintro ⟨id, l, hid, hl', hh⟩
      exact ⟨id, hid, (hu.mem_iff rfl).mpr (hi.marked id ⟨l, hl', hh⟩)⟩
    · rintro ⟨id, hid, hm⟩
      obtain ⟨l, hl', hh⟩ := hi.signalled sa.spiI id ⟨sa, hl, hid⟩ ((hu.mem_iff rfl).mp hm)
      simp_all

theorem TermInv.torn (hi : TermInv w) (hrefs : RefInv w') {P : Primitives} {strOpen : Bool}
    (hl : w.lookupSA sa.spiI = some sa)
    (he : w' = fullTeardown P strOpen (w.storeSA sa.closing) sa.closing)
    (hno : ∀ k, w'.lookupSA k = if k = sa.spiI then none else w.lookupSA k)
    (h : ∀ id, w'.links id = if sa.sessionID = some id then none else w.links id) : TermInv w' := by
  obtain ⟨w1, hu, hcase⟩ := fullTeardown_terminations P strOpen (w.storeSA sa.closing) sa.closing
  rw [← he] at hcase
  have hu' : Uneventful w w1 := hu
  have hother {k : UInt64} {sa' : IkeSA} (hl' : w'.lookupSA k = some sa') :
      k ≠ sa.spiI ∧ w.lookupSA k = some sa' := by
    simp_all
  -- what is signalled does not change, and what is terminated only by this SA
  have hsig : ∀ id, .handoverSignalled id ∈ w'.trace ↔ .handoverSignalled id ∈ w.trace := by
    intro id
    rcases hcase with ht | ⟨sid, -, ht⟩
    · rw [ht]
      exact hu'.mem_iff rfl
    rw [ht, List.mem_cons]
    simp only [reduceCtorEq, false_or]
    exact hu'.mem_iff rfl
  have hstr {sid session cause} (hm : .strSent sid session cause ∈ w'.trace) :
      sa.swmSessionID = some sid ∨ .strSent sid session cause ∈ w.trace := by
    rcases hcase with ht | ⟨sid', hsid, ht⟩
    · rw [ht] at hm
      exact .inr ((hu'.mem_iff rfl).mp hm)
    rw [ht, List.mem_cons] at hm
    rcases hm with hm | hm
    · cases hm
      exact .inl hsid
    · exact .inr ((hu'.mem_iff rfl).mp hm)
  have hlinks {k : UInt64} {id : Session.ID} (hk : k ≠ sa.spiI)
      (hr : sa.sessionID = some id → sa.spiI = k) (hf : Flagged w id) : Flagged w' id := by
    rw [Flagged.congr]
    · exact hf
    · grind
  refine ⟨hrefs, ?_, ?_, ?_, ?_, ?_, ?_⟩
  · rintro k k' sid ⟨sa1, h1, hs1⟩ ⟨sa2, h2, hs2⟩
    exact hi.swm k k' sid ⟨sa1, (hother h1).2, hs1⟩ ⟨sa2, (hother h2).2, hs2⟩
  · rintro k sid session cause hm ⟨sa1, h1, hs1⟩
    obtain ⟨hk, h1⟩ := hother h1
    rcases hstr hm with hsid | hm
    · exact hk (hi.swm k sa.spiI sid ⟨sa1, h1, hs1⟩ ⟨sa, hl, hsid⟩)
    · exact hi.spent k sid session cause hm ⟨sa1, h1, hs1⟩
  · rintro id ⟨l, hl', hh⟩
    rw [h] at hl'
    split at hl'
    · cases hl'
    · exact (hsig id).mpr (hi.marked id ⟨l, hl', hh⟩)
  · rintro k id ⟨sa1, h1, hid⟩ hm
    obtain ⟨hk, h1⟩ := hother h1
    exact hlinks hk (fun hid' => hi.refs.uniq _ _ id ⟨sa, hl, hid'⟩ ⟨sa1, h1, hid⟩)
      (hi.signalled k id ⟨sa1, h1, hid⟩ ((hsig id).mp hm))
  · intro k sa1 h1 hst hm
    obtain ⟨hk, h1⟩ := hother h1
    exact hlinks hk (fun hid' => hi.refs.own k _ sa1 h1 hst ⟨sa, hl, hid'⟩)
      (hi.halfOpen k sa1 h1 hst ((hsig _).mp hm))
  · rcases hcase with ht | ⟨sid, hsid, ht⟩
    · rw [ht]
      exact hu'.terminated hi.sound
    · rw [ht]
      exact ⟨hi.terminates hl hsid hu', hu'.terminated hi.sound⟩

theorem TermInv.pgw (hi : TermInv w) (hrefs : RefInv w') (hs : Signals w w')
    (hl : ∀ k, w'.lookupSA k = w.lookupSA k)
    (hkeep : ∀ id, Flagged w id → Flagged w' id) : TermInv w' := by
  obtain ⟨new, ht, hnew, hflag⟩ := hs.trace
  have hstr {sid session cause} : .strSent sid session cause ∈ w'.trace ↔
      .strSent sid session cause ∈ w.trace := by
    grind
  have hsig {id : Session.ID} (hm : .handoverSignalled id ∈ w'.trace) :
      Flagged w' id ∨ .handoverSignalled id ∈ w.trace := by
    rw [ht, List.mem_append] at hm
    rcases hm with hm | hm
    · obtain ⟨id', l, he, hl', hh⟩ := hnew _ hm
      cases he
      exact .inl ⟨l, hl', hh⟩
    · exact .inr hm
  have hh {k : UInt64} {sid : SWMSessionID} : HoldsSwm w' k sid ↔ HoldsSwm w k sid :=
    HoldsSwm.congr (ids_congr hl)
  refine ⟨hrefs, ?_, ?_, ?_, ?_, ?_, ?_⟩
  · exact fun k k' sid h h' => hi.swm k k' sid (hh.mp h) (hh.mp h')
  · exact fun k sid session cause hm h => hi.spent k sid session cause (hstr.mp hm) (hh.mp h)
  · rintro id ⟨l, hl', hh'⟩
    rw [ht, List.mem_append]
    rcases hflag id l hl' hh' with hf | hm
    · exact .inr (hi.marked id hf)
    · exact .inl hm
  · intro k id hr hm
    rcases hsig hm with hf | hm
    · exact hf
    · exact hkeep id (hi.signalled k id ((Refers.congr (ids_congr hl)).mp hr) hm)
  · intro k sa hl' hst hm
    rcases hsig hm with hf | hm
    · exact hf
    · exact hkeep _ (hi.halfOpen k sa (hl k ▸ hl') hst hm)
  · rw [ht]
    refine hi.sound.append fun e he older => ?_
    obtain ⟨id, l, rfl, -⟩ := hnew e he
    trivial

section
variable (hsafe : TermSafe S w0 i) (hin : Within w0 i w)
include hsafe hin

theorem TermSafe.teid_ne (hev : i.handles (.deleteSession teid ho)) {l : Links}
    {c : Session.S2BContext} (hl : w.links id = some l) (hc : l.s2b = some c) :
    c.localControlTEID ≠ teid := by
  rcases hin.s2b id l c hl hc with ⟨l0, hl0, hc0⟩ | ⟨r, hr, rfl⟩
  · exact (hsafe.pgw teid ho hev).1 id l0 c hl0 hc0
  · exact (hsafe.pgw teid ho hev).2 r hr

theorem TermSafe.find_none (hev : i.handles (.deleteSession teid ho)) :
    w.sessions.findByLocalControlTEID teid = none := by
  cases hf : w.sessions.findByLocalControlTEID teid with
  | none => rfl
  | some sess =>
    obtain ⟨hget, c, hc, hteid⟩ := Session.Manager.findByLocalControlTEID_keyed hin.keyed hf
    have hl : w.links sess.id = some (Links.of sess) := by simp [World.links, hget]
    exact (hsafe.teid_ne hin hev hl hc hteid).elim

theorem TermSafe.signals (hev : i.handles ev) : Signals w (handlePGW w i.env ev) := by
  refine handlePGW_signals hin.keyed i.env fun teid ho hd => ?_
  exact hsafe.find_none hin (hd ▸ hev)

theorem TermSafe.flagged_kept (hev : i.handles ev) (h : PgwLinks w id ev (w'.links id))
    (hf : Flagged w id) : Flagged w' id := by
  obtain ⟨l, hl, hh⟩ := hf
  generalize ho : w'.links id = o at h
  cases h with
  | kept => exact ⟨l, ho.trans hl, hh⟩
  | marked l1 c h1 => exact ⟨_, ho, rfl⟩
  | cleared l1 c h1 => exact ⟨_, ho, rfl⟩
  | gone l1 c h1 hc hdrop hgone =>
    rcases hgone with hno | ⟨teid, b, rfl⟩
    · simp_all
    · exact (hsafe.teid_ne hin hev h1 hc hdrop.symm).elim

theorem Quiet.termInv (hq : Quiet S i.env i.triggers w w') (hi : TermInv w) : TermInv w' := by
  have hrefs := hq.refInv hin.base hi.refs
  have hkept (ht : Uneventful w w') (hflag : ∀ id, Flagged w' id ↔ Flagged w id) : TermInv w' :=
    hi.kept hrefs ht hflag (fun k id => hq.refers) (fun k sid => hq.holdsSwm)
      fun k sa' => hq.halfOpen
  cases hq.links hin.keyed with
  | same h hids ht => exact hkept ht fun id => Flagged.congr (h id)
  | opened sa sa' hl hs hid hswm hl' h ht =>
    refine hkept (.of_eq ht) fun id => ?_
    simp only [Flagged, h]
    split
    · cases w.links id with
      | none => simp
      | some l => simp
    · rfl
  | torn sa hl he hno h => exact hi.torn hrefs hl he hno h
  | expired sa hl hs hx hno h ht => exact hkept (.of_eq ht) fun id => Flagged.congr (h id)
  | pgw ev hev he hl h =>
    exact hi.pgw hrefs (he ▸ hsafe.signals hin hev) hl fun id => hsafe.flagged_kept hin hev (h id)

end

structure SwmFrom (w0 w : World) : Prop where
  holds : ∀ k sid, HoldsSwm w k sid → HoldsSwm w0 k sid
  sent : ∀ sid session cause, .strSent sid session cause ∈ w.trace →
    .strSent sid session cause ∈ w0.trace ∨ ∃ k, HoldsSwm w0 k sid

theorem Quiet.swmFrom (hsafe : TermSafe S w0 i) (hin : Within w0 i w)
    (hq : Quiet S i.env i.triggers w w') (h : SwmFrom w0 w) : SwmFrom w0 w' := by
  refine ⟨fun k sid hh => h.holds k sid (hq.holdsSwm hh), ?_⟩
  intro sid session cause hm
  have hquiet (ht : Uneventful w w') : .strSent sid session cause ∈ w0.trace ∨
      ∃ k, HoldsSwm w0 k sid := h.sent sid session cause ((ht.mem_iff rfl).mp hm)
  cases hq.links hin.keyed with
  | same _ _ ht => exact hquiet ht
  | opened sa sa' _ _ _ _ _ _ ht => exact hquiet (.of_eq ht)
  | expired sa _ _ _ _ _ ht => exact hquiet (.of_eq ht)
  | torn sa hl he hno _ =>
    obtain ⟨w1, hu, hcase⟩ :=
      fullTeardown_terminations S.prims i.env.strOpen (w.storeSA sa.closing) sa.closing
    have hu' : Uneventful w w1 := hu
    rw [← he] at hcase
    rcases hcase with ht | ⟨sid', hsid, ht⟩
    · rw [ht] at hm
      exact h.sent sid session cause ((hu'.mem_iff rfl).mp hm)
    rw [ht, List.mem_cons] at hm
    rcases hm with hm | hm
    · cases hm
      exact .inr ⟨sa.spiI, h.holds _ _ ⟨sa, hl, hsid⟩⟩
    · exact h.sent sid session cause ((hu'.mem_iff rfl).mp hm)
  | pgw ev hev he hl _ =>
    obtain ⟨new, ht, hnew, -⟩ := (hsafe.signals hin hev).trace
    rw [← he] at ht
    rw [ht, List.mem_append] at hm
    rcases hm with hm | hm
    · grind
    · exact h.sent sid session cause hm

theorem Quiets.termInv (hsafe : TermSafe S w0 i) (hin : Within w0 i w)
    (hq : Quiets S i.env i.triggers w w') (hi : TermInv w) : TermInv w' :=
  (hq.within_invariant (fun hin hq => hq.termInv hsafe hin) hin hi).2

theorem Quiets.swmFrom (hsafe : TermSafe S w0 i) (hin : Within w0 i w0)
    (hq : Quiets S i.env i.triggers w0 w) : SwmFrom w0 w :=
  (hq.within_invariant (fun hin hq => hq.swmFrom hsafe hin) hin
    ⟨fun _ _ h => h, fun _ _ _ h => .inl h⟩).2

theorem HalfOpenKept.half (h : HalfOpenKept w w') (hl : w'.lookupSA k = some sa')
    (hs : sa'.state = .auth) :
    ∃ sa, w.lookupSA k = some sa ∧ sa.state = .auth ∧ sa'.ownSession = sa.ownSession := by
  obtain ⟨sa, hl, hs, hown, -⟩ := h k sa' hl hs
  simp_all

theorem TermInv.started (hi : TermInv w) (hrefs : RefInv w') (hl : w.lookupSA sa.spiI = some sa)
    (hs : sa.state = .auth)
    (hl' : ∀ k, w'.lookupSA k = if k = sa.spiI then some (sa.swmStarted sid) else w.lookupSA k)
    (hflag : ∀ id, Flagged w' id ↔ Flagged w id) (ht : w'.trace = w.trace)
    (hfresh : ∀ k, ¬ HoldsSwm w k sid)
    (hunsent : ∀ session cause, .strSent sid session cause ∉ w.trace) : TermInv w' := by
  have hauth : HalfOpenKept w w' := .rewrite _ hl hl' fun _ => ⟨hs, rfl, rfl⟩
  have hh {k : UInt64} {sid' : SWMSessionID} (h : HoldsSwm w' k sid') :
      k = sa.spiI ∧ sid' = sid ∨ k ≠ sa.spiI ∧ HoldsSwm w k sid' := by
    rcases (holdsSwm_of_lookup hl').mp h with ⟨hk, he⟩ | h
    · exact .inl ⟨hk, (Option.some.inj he).symm⟩
    · exact .inr h
  refine ⟨hrefs, ?_, ?_, ?_, ?_, ?_, ht ▸ hi.sound⟩
  · intro k k' sid' h h'
    rcases hh h with ⟨hk, rfl⟩ | ⟨-, h1⟩ <;> rcases hh h' with ⟨hk', he⟩ | ⟨-, h2⟩
    · rw [hk, hk']
    · grind
    · simp_all
    · exact hi.swm k k' sid' h1 h2
  · intro k sid' session cause hm h
    rw [ht] at hm
    rcases hh h with ⟨-, rfl⟩ | ⟨-, h1⟩
    · simp_all
    · exact hi.spent k sid' session cause hm h1
  · intro id hf
    rw [ht]
    exact hi.marked id ((hflag id).mp hf)
  · intro k id hr hm
    rw [ht] at hm
    rw [hflag]
    exact hi.signalled k id ((refers_rewrite _ hl hl' rfl).mp hr) hm
  · intro k sa' h1 hs1 hm
    obtain ⟨sa1, h2, hs2, hown⟩ := hauth.half h1 hs1
    rw [ht] at hm
    rw [hflag, hown]
    exact hi.halfOpen k sa1 h2 hs2 (hown ▸ hm)

theorem TermInv.moved (hi : TermInv w) (hrefs : RefInv w') {sa new : IkeSA}
    (hl : w.lookupSA sa.spiI = some sa)
    (hst : sa.state = .established ∧ new.state = .established)
    (hids : new.sessionID = sa.sessionID ∧ new.swmSessionID = sa.swmSessionID)
    (hl' : ∀ k, w'.lookupSA k =
      if k = new.spiI then some new else if k = sa.spiI then some sa.replaced else w.lookupSA k)
    (hflag : ∀ id, Flagged w' id ↔ Flagged w id) (ht : Uneventful w w') : TermInv w' := by
  have hcases {k : UInt64} {sa1 : IkeSA} (h1 : w'.lookupSA k = some sa1) :
      k = new.spiI ∧ sa1 = new ∨ sa1 = sa.replaced ∨
        k ≠ new.spiI ∧ k ≠ sa.spiI ∧ w.lookupSA k = some sa1 := by
    grind
  have hh {k : UInt64} {sid : SWMSessionID} (h : HoldsSwm w' k sid) :
      k = new.spiI ∧ HoldsSwm w sa.spiI sid ∨ k ≠ sa.spiI ∧ HoldsSwm w k sid := by
    obtain ⟨sa1, h1, hid⟩ := h
    rcases hcases h1 with ⟨hk, rfl⟩ | rfl | ⟨-, hk, h1⟩
    · exact .inl ⟨hk, sa, hl, hids.2 ▸ hid⟩
    · cases hid
    · exact .inr ⟨hk, sa1, h1, hid⟩
  refine ⟨hrefs, ?_, ?_, ?_, ?_, ?_, ht.terminated hi.sound⟩
  · intro k k' sid h h'
    rcases hh h with ⟨hk, h1⟩ | ⟨hk, h1⟩ <;> rcases hh h' with ⟨hk', h2⟩ | ⟨hk', h2⟩
    · rw [hk, hk']
    · exact (hk' (hi.swm _ _ sid h2 h1)).elim
    · exact (hk (hi.swm _ _ sid h1 h2)).elim
    · exact hi.swm k k' sid h1 h2
  · intro k sid session cause hm h
    have hm' := (ht.mem_iff rfl).mp hm
    rcases hh h with ⟨-, h1⟩ | ⟨-, h1⟩
    · exact hi.spent _ sid session cause hm' h1
    · exact hi.spent _ sid session cause hm' h1
  · intro id hf
    exact (ht.mem_iff rfl).mpr (hi.marked id ((hflag id).mp hf))
  · rintro k id ⟨sa1, h1, hid⟩ hm
    have hm' := (ht.mem_iff rfl).mp hm
    rw [hflag]
    rcases hcases h1 with ⟨-, rfl⟩ | rfl | ⟨-, -, h1⟩
    · exact hi.signalled sa.spiI id ⟨sa, hl, hids.1 ▸ hid⟩ hm'
    · cases hid
    · exact hi.signalled k id ⟨sa1, h1, hid⟩ hm'
  · intro k sa1 h1 hs1 hm
    rw [hflag]
    rcases hcases h1 with ⟨-, rfl⟩ | rfl | ⟨-, -, h1⟩
    · simp_all
    · rw [show sa.replaced.state = sa.state from rfl, hst.1] at hs1
      cases hs1
    · exact hi.halfOpen k sa1 h1 hs1 ((ht.mem_iff rfl).mp hm)

theorem Major.termInv {remote : UDPAddr} {msg : Bytes} {hdr : IKEHeader}
    (hsafe : TermSafe S w0 i) (hin0 : Within w0 i w0) (hin : Within w0 i w)
    (hmsg : i.message S = some (remote, msg, hdr)) (hq0 : Quiets S i.env i.triggers w0 w)
    (hm : Major S i.env remote msg hdr w0 w w') (hi : TermInv w) : TermInv w' := by
  have hrefs := hm.refInv hsafe.fresh hmsg hin0.base hi.refs
  cases hm.links hin0.base.keyed (handles_pgwAt i) with
  | same h hids hauth ht =>
    exact hi.kept hrefs ht (fun id => Flagged.congr (h id))
      (fun k id hr => .inl ((Refers.congr hids).mp hr))
      (fun k sid => (HoldsSwm.congr hids).mp) fun k sa' => hauth.half
  | created new hw hex hacc hspi hids hl h ht =>
    have hold {k : UInt64} {id : Session.ID} (hr : Refers w' k id) : Refers w k id := by
      rcases (refers_of_lookup hl).mp hr with ⟨-, hid⟩ | ⟨-, hr⟩
      · simp_all
      · exact hr
    have holds {k : UInt64} {sid : SWMSessionID} (hh : HoldsSwm w' k sid) : HoldsSwm w k sid := by
      rcases (holdsSwm_of_lookup hl).mp hh with ⟨-, hid⟩ | ⟨-, hh⟩
      · simp_all
      · exact hh
    refine ⟨hrefs, ?_, ?_, ?_, ?_, ?_, ht ▸ hi.sound⟩
    · exact fun k k' sid h1 h2 => hi.swm k k' sid (holds h1) (holds h2)
    · exact fun k sid session cause hm hh =>
        hi.spent k sid session cause (ht ▸ hm) (holds hh)
    · exact fun id hf => ht ▸ hi.marked id ((Flagged.congr (h id)).mp hf)
    · exact fun k id hr hm => (Flagged.congr (h id)).mpr (hi.signalled k id (hold hr) (ht ▸ hm))
    · intro k sa hl1 hst hm
      rw [hl] at hl1
      rw [ht] at hm
      split at hl1
      · -- the new SA: no handover was ever signalled for its id
        cases hl1
        obtain ⟨c, rfl⟩ := hw
        have hown : new.ownSession = ⟨hdr.initiatorSPI, new.spiR⟩ := by
          simp only [IkeSA.ownSession, hspi.2]
        rw [hown] at hm
        exact (hsafe.unsignalled remote msg hdr _ hmsg hex hspi.1 hm).elim
      · exact (Flagged.congr (h _)).mpr (hi.halfOpen k sa hl1 hst hm)
  | started sa hl hs hex hid hl' h ht =>
    have hfrom := Quiets.swmFrom hsafe hin0 hq0
    obtain ⟨hfresh, hunsent⟩ := hsafe.swm remote msg hdr hmsg hex
    refine hi.started hrefs hl hs hl' (fun id => ?_) ht
      (fun k hh => hfresh k (hfrom.holds _ _ hh)) fun session cause hm => ?_
    · simp only [Flagged, h]
      split
      · simp_all
      · rfl
    · rcases hfrom.sent _ session cause hm with hm | ⟨k, hh⟩
      · simp_all
      · exact hfresh k hh
  | connected sa r w2 hl _ hr hq hl2 h hids hauth ht =>
    have hl1 := w.lookupSA_updateSession sa.sessionID (sessionS2b r)
    have hi1 : TermInv (w.updateSession sa.sessionID (sessionS2b r)) := by
      refine hi.kept (hi.refs.congr hl1) (.of_eq (w.updateSession_trace _ _)) (fun id => ?_)
        (fun k id hr => .inl ((Refers.congr (ids_congr hl1)).mp hr))
        (fun k sid => (HoldsSwm.congr (ids_congr hl1)).mp)
        fun k sa' hl hs => ⟨sa', hl1 k ▸ hl, hs, rfl⟩
      simp only [Flagged, links_updateSession w sa.sessionID _ _ (links_sessionS2b r)]
      split
      · simp [Option.map_eq_some_iff, Links.connect]
      · rfl
    exact (Quiets.termInv hsafe (hin.record hr _) hq hi1).kept hrefs ht
      (fun id => Flagged.congr (h id)) (fun k id hr => .inl ((Refers.congr hids).mp hr))
      (fun k sid => (HoldsSwm.congr hids).mp) fun k sa' => hauth.half
  | moved sa0 sa new offer nonceI ke hw hl hst hex hl0 hopen hp hids hl' h ht =>
    exact hi.moved hrefs hl hst hids hl' (fun id => Flagged.congr (h id)) ht

end

section Runs
open Scenario

end Runs
end Epdg
