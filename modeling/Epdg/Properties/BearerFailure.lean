import Epdg.Properties.BearerContexts
import Epdg.Properties.InstallFailure
import Epdg.System.Scenario

/-!
What bearer calls that fail leave behind.

The tables are written first and the TFT rules are synced last. A sync that fails is reported, and
the tables stay as written. An Update Bearer Request changes its bearers one by one in the same way.
-/
namespace Epdg

namespace Gtpu

structure Manager.SameBearers (m m' : Manager) (id : Session.ID) : Prop where
  bearer : ∀ ebi, m'.bearerOf ⟨id, ebi⟩ = m.bearerOf ⟨id, ebi⟩
  localTEID : ∀ t, m'.byLocalTEID t = m.byLocalTEID t
  remoteTEID : ∀ t, m'.byRemoteTEID t = m.byRemoteTEID t

theorem Manager.SameBearers.refl (m : Manager) (id : Session.ID) : m.SameBearers m id :=
  ⟨fun _ => rfl, fun _ => rfl, fun _ => rfl⟩

namespace Dataplane
variable {d : Dataplane} {att : Attachments} {f : Faults} {o : RangeOrder} {id : Session.ID}

def BearerCall.WritesNothing (m : Manager) (id : Session.ID) : BearerCall → Prop
  | .add b => m.admitsBearer id b = false
  | .remove _ => False
  | .update ebi qci tftRaw => ∀ b, m.bearerOf ⟨id, ebi⟩ = some b → b.updated qci tftRaw = b

theorem trySynced_manager (d : Dataplane) (att : Attachments) (faults : Nat → Bool)
    (o : RangeOrder) (id : Session.ID) : (d.trySynced att faults o id).1.manager = d.manager := by
  unfold trySynced
  split <;> rfl

theorem tryAddBearer_same_iff (b : NewBearer) :
    d.manager.SameBearers (d.tryAddBearer att f o id b).1.manager id ↔
      d.manager.admitsBearer id b = false := by
  cases hadm : d.manager.admitsBearer id b with
  | false =>
    simp only [tryAddBearer, hadm, iff_true]
    exact .refl _ _
  | true =>
    obtain ⟨ds, hds, -, hfree, hlocal, -⟩ := (Manager.addBearer_admitted hadm false).2
    simp only [tryAddBearer, hadm, hds, trySynced_manager]
    refine iff_of_false (fun h => ?_) (by decide)
    have hteid := h.localTEID b.localRXTEID
    simp_all

theorem tryRemoveBearer_changes {ebi : UInt8}
    (h : (d.tryRemoveBearer att f o id ebi).2 = false) :
    ¬ d.manager.SameBearers (d.tryRemoveBearer att f o id ebi).1.manager id := by
  cases hb : d.manager.bearerOf ⟨id, ebi⟩ with
  | none =>
    simp only [tryRemoveBearer, hb] at h
    cases h
  | some b =>
    intro hsame
    have hbearer := hsame.bearer ebi
    simp only [tryRemoveBearer, hb, trySynced_manager,
      (Manager.removeBearer_edits hb false).1.bearer, if_pos] at hbearer
    cases hbearer

theorem tryUpdateBearer_same_iff (ebi qci : UInt8) (tftRaw : Bytes) :
    d.manager.SameBearers (d.tryUpdateBearer att f o id ebi qci tftRaw).1.manager id ↔
      ∀ b, d.manager.bearerOf ⟨id, ebi⟩ = some b → b.updated qci tftRaw = b := by
  cases hb : d.manager.bearerOf ⟨id, ebi⟩ with
  | none =>
    simp only [tryUpdateBearer, hb]
    exact iff_of_true (.refl _ _) fun _ h => nomatch h
  | some b =>
    obtain ⟨hedits, hlocal, hremote⟩ := Manager.updateBearer_edits hb false qci tftRaw
    simp only [tryUpdateBearer, hb, trySynced_manager, Option.some.injEq, forall_eq']
    constructor
    · intro hsame
      have hbearer := hsame.bearer ebi
      rw [hedits.bearer, if_pos rfl, hb] at hbearer
      simp_all
    · intro heq
      refine ⟨fun e => ?_, hlocal, hremote⟩
      rw [hedits.bearer]
      simp_all

/-- A bearer call that fails leaves the bearers of the session and the TEID indexes as they were
exactly when it wrote nothing new before it failed. -/
theorem failed_bearer_call_iff {call : BearerCall}
    (h : (d.tryBearer att f o id call).2 = false) :
    d.manager.SameBearers (d.tryBearer att f o id call).1.manager id ↔
      call.WritesNothing d.manager id := by
  cases call with
  | add b => exact tryAddBearer_same_iff b
  | remove ebi => exact iff_of_false (tryRemoveBearer_changes h) fun hf => hf
  | update ebi qci tftRaw => exact tryUpdateBearer_same_iff ebi qci tftRaw

section Runs

def oneSession : Dataplane := (addBoth {} (sessionWith 1 0x2001 0x6001)).1

def dedicatedBearer (localTEID : UInt32) : NewBearer :=
  { ebi := 6, localRXTEID := localTEID, remoteTXTEID := 0x6002, pgwGTPUIP := none
    localGTPUIP := none, qci := 1, tft := none }

def callStopped (d : Dataplane) (op : Nat) (call : BearerCall) : Dataplane × Bool :=
  d.tryBearer ⟨true, true, some 2⟩ { tftRules := fun i => i = op } listOrder ⟨1, 0⟩ call

/-- A bearer with the local TEID of the default one is refused. -/
theorem collision_writes_nothing :
    oneSession.manager.SameBearers
      (oneSession.callStopped 0 (.add (dedicatedBearer 0x2001))).1.manager ⟨1, 0⟩ := by
  have hrefused : oneSession.manager.admitsBearer ⟨1, 0⟩ (dedicatedBearer 0x2001) = false := by
    decide +kernel
  exact (failed_bearer_call_iff (by decide +kernel)).mpr hrefused

/-- Each of the three calls reports a rule sync that stopped after its first operation, and has
changed the tables: the new bearer is there, the default bearer is gone, its QCI is another one. -/
theorem stopped_sync_writes :
    ((oneSession.callStopped 1 (.add (dedicatedBearer 0x2002))).2 = false ∧
      ¬ oneSession.manager.SameBearers
        (oneSession.callStopped 1 (.add (dedicatedBearer 0x2002))).1.manager ⟨1, 0⟩) ∧
    ((oneSession.callStopped 1 (.remove 5)).2 = false ∧
      ¬ oneSession.manager.SameBearers (oneSession.callStopped 1 (.remove 5)).1.manager ⟨1, 0⟩) ∧
    (oneSession.callStopped 1 (.update 5 9 [])).2 = false ∧
      ¬ oneSession.manager.SameBearers
        (oneSession.callStopped 1 (.update 5 9 [])).1.manager ⟨1, 0⟩ := by
  have hdiffers (call : BearerCall) (ebi : UInt8)
      (h : (oneSession.callStopped 1 call).2 = false ∧
        (oneSession.callStopped 1 call).1.manager.bearerOf ⟨⟨1, 0⟩, ebi⟩ ≠
          oneSession.manager.bearerOf ⟨⟨1, 0⟩, ebi⟩) :
      (oneSession.callStopped 1 call).2 = false ∧
        ¬ oneSession.manager.SameBearers (oneSession.callStopped 1 call).1.manager ⟨1, 0⟩ :=
    ⟨h.1, fun hsame => h.2 (hsame.bearer ebi)⟩
  exact ⟨hdiffers _ 6 (by decide +kernel), hdiffers _ 5 (by decide +kernel),
    hdiffers _ 5 (by decide +kernel)⟩

end Runs

end Dataplane
end Gtpu

section Update
open S2b
variable {m : Gtpu.Manager} {id : Session.ID}

def attempted (m : Gtpu.Manager) (id : Session.ID) :
    (faults : Nat → Bool) → List UpdateBearerContext → List UpdateBearerContext
  | _, [] => []
  | faults, b :: bearers =>
    if updatable m id (faults 0) b then
      b :: attempted m id (fun i => faults (i + 1)) bearers
    else [b]

def updatedBy (ebi : UInt8) : List UpdateBearerContext → Gtpu.Bearer → Gtpu.Bearer
  | [], x => x
  | b :: bearers, x =>
    updatedBy ebi bearers
      (if (b.hasBearerQoS || b.hasTFT) && b.ebi = ebi then x.updated b.qci b.tftRaw else x)

def qosAt (m : Gtpu.Manager) (id : Session.ID) (ebi : UInt8) : Option (UInt8 × Option Gtpu.TFT) :=
  (m.bearerAt id ebi).map fun b => (b.qci, b.tft)

theorem attempted_congr {m' : Gtpu.Manager}
    (h : ∀ ebi, m'.hasBearer id ebi = m.hasBearer id ebi) (faults : Nat → Bool)
    (bearers : List UpdateBearerContext) :
    attempted m' id faults bearers = attempted m id faults bearers := by
  induction bearers generalizing faults with
  | nil => rfl
  | cons b bearers ih =>
    have hup : updatable m' id (faults 0) b = updatable m id (faults 0) b := by
      simp only [updatable, h]
    rw [attempted, attempted, hup, ih]

variable (m id) in
theorem bearerAt_updateBearer (fault : Bool) (b : UpdateBearerContext) (ebi : UInt8) :
    (m.updateBearer fault id b.ebi b.qci b.tftRaw).1.bearerAt id ebi =
      (m.bearerAt id ebi).map fun x => if b.ebi = ebi then x.updated b.qci b.tftRaw else x := by
  cases hx : m.bearerOf ⟨id, b.ebi⟩ with
  | none =>
    rw [Gtpu.Manager.updateBearer_none hx]
    by_cases he : b.ebi = ebi
    · subst he
      rw [show m.bearerAt id b.ebi = none from hx]
      rfl
    · simp_all
  | some x =>
    have hbearer := (Gtpu.Manager.updateBearer_edits hx fault b.qci b.tftRaw).1.bearer ⟨id, ebi⟩
    refine hbearer.trans ?_
    by_cases he : b.ebi = ebi
    · subst he
      rw [if_pos rfl, show m.bearerAt id b.ebi = some x from hx, Option.map_some, if_pos rfl]
    rw [if_neg (by simpa using Ne.symm he)]
    simp only [he, if_false, Option.map_id']
    rfl

variable (m id) in
theorem bearerAt_updateBearers (faults : Nat → Bool) (bearers : List UpdateBearerContext)
    (ebi : UInt8) :
    (updateBearers id m faults bearers).1.bearerAt id ebi =
      (m.bearerAt id ebi).map (updatedBy ebi (attempted m id faults bearers)) := by
  induction bearers generalizing m faults with
  | nil => exact Option.map_id'.symm
  | cons b bearers ih =>
    by_cases hnothing : b.hasBearerQoS = false ∧ b.hasTFT = false
    · have hup : updatable m id (faults 0) b = true := by simp [updatable, hnothing]
      have hskip : ((b.hasBearerQoS || b.hasTFT) && decide (b.ebi = ebi)) = false := by grind
      rw [updateBearers, if_pos hnothing, ih, attempted, if_pos hup]
      simp only [updatedBy, hskip, Bool.false_eq_true, if_false]
    have hasks : (b.hasBearerQoS || b.hasTFT) = true := by grind
    have hup : updatable m id (faults 0) b = (m.hasBearer id b.ebi && !faults 0) := by
      rw [updatable, ← Bool.not_or, hasks]
      rfl
    have hkept := hasBearer_updateBearer m id (faults 0) b.ebi b.qci b.tftRaw
    have hbearer := bearerAt_updateBearer m id (faults 0) b ebi
    rw [← updateBearer_succeeds m id (faults 0) b.ebi b.qci b.tftRaw] at hup
    simp only [updateBearers, attempted, if_neg hnothing, hup]
    generalize m.updateBearer (faults 0) id b.ebi b.qci b.tftRaw = out at hkept hbearer
    obtain ⟨m', ok⟩ := out
    cases ok with
    | true =>
      simp only [if_true, ih m', attempted_congr hkept, hbearer, Option.map_map]
      refine congrArg (fun g => (m.bearerAt id ebi).map g) (funext fun x => ?_)
      simp only [Function.comp_apply, updatedBy, hasks, Bool.true_and, decide_eq_true_eq]
    | false =>
      simp only [hbearer, Bool.false_eq_true, if_false, updatedBy, hasks, Bool.true_and,
        decide_eq_true_eq]

theorem updatedBy_eq_iff (ebi : UInt8) (bearers : List UpdateBearerContext) (x : Gtpu.Bearer) :
    ((updatedBy ebi bearers x).qci, (updatedBy ebi bearers x).tft) = (x.qci, x.tft) ↔
      updatedBy ebi bearers x = x := by
  have hfields : ∃ qci tft, updatedBy ebi bearers x = { x with qci, tft } := by
    induction bearers generalizing x with
    | nil => exact ⟨x.qci, x.tft, rfl⟩
    | cons b bearers ih =>
      obtain ⟨qci, tft, h⟩ := ih
        (if (b.hasBearerQoS || b.hasTFT) && b.ebi = ebi then x.updated b.qci b.tftRaw else x)
      refine ⟨qci, tft, h.trans ?_⟩
      split <;> rfl
  obtain ⟨qci, tft, h⟩ := hfields
  rw [h]
  constructor
  · simp_all
  · intro heq
    rw [heq]

theorem attempted_of_failed {faults : Nat → Bool} {bearers : List UpdateBearerContext}
    (h : allUpdatable m id faults bearers = false) :
    ∃ before b rest, bearers = before ++ b :: rest ∧ allUpdatable m id faults before = true ∧
      updatable m id (faults before.length) b = false ∧
      attempted m id faults bearers = before ++ [b] := by
  induction bearers generalizing faults with
  | nil => cases h
  | cons b bearers ih =>
    cases hup : updatable m id (faults 0) b with
    | false => exact ⟨[], b, bearers, rfl, rfl, hup, by simp [attempted, hup]⟩
    | true =>
      rw [allUpdatable, hup, Bool.true_and] at h
      obtain ⟨before, c, rest, rfl, hbefore, hc, heq⟩ := ih h
      refine ⟨b :: before, c, rest, rfl, ?_, hc, ?_⟩
      · rw [allUpdatable, hup, hbefore]
        rfl
      · rw [attempted, if_pos hup, heq, List.cons_append]

/-- A request that is answered with another cause than 16 stopped at the first context that cannot
be carried out. No bearer of the session has changed its QCI or TFT exactly when the contexts up to
that one ask of each bearer, one after the other, for what it has. -/
theorem rejected_update_iff {w : World} {faults : Nat → Bool} {event : UpdateBearerEvent}
    {sess : Session.Session}
    (hfind : w.sessions.findByLocalControlTEID event.localControlTEID = some sess)
    (hcause : (handlePGWUpdateBearer w faults event).2.cause ≠ 16) :
    ∃ before b rest, event.bearers = before ++ b :: rest ∧
      allUpdatable w.gtpu sess.id faults before = true ∧
      updatable w.gtpu sess.id (faults before.length) b = false ∧
      ((∀ ebi, qosAt (handlePGWUpdateBearer w faults event).1.gtpu sess.id ebi =
          qosAt w.gtpu sess.id ebi) ↔
        ∀ ebi x, w.gtpu.bearerAt sess.id ebi = some x → updatedBy ebi (before ++ [b]) x = x) := by
  have hrun : (handlePGWUpdateBearer w faults event).1.gtpu =
        (updateBearers sess.id w.gtpu faults event.bearers).1 ∧
      (handlePGWUpdateBearer w faults event).2.cause =
        (updateBearers sess.id w.gtpu faults event.bearers).2 := by
    simp only [handlePGWUpdateBearer, hfind, and_true]
    rfl
  have hfailed : allUpdatable w.gtpu sess.id faults event.bearers = false := by
    rw [hrun.2, updateBearers_cause] at hcause
    cases hall : allUpdatable w.gtpu sess.id faults event.bearers with
    | false => rfl
    | true =>
      rw [hall] at hcause
      exact absurd rfl hcause
  obtain ⟨before, b, rest, hsplit, hbefore, hb, hattempted⟩ := attempted_of_failed hfailed
  refine ⟨before, b, rest, hsplit, hbefore, hb, forall_congr' fun ebi => ?_⟩
  rw [hrun.1, qosAt, qosAt, bearerAt_updateBearers, hattempted]
  cases w.gtpu.bearerAt sess.id ebi with
  | none => simp
  | some x =>
    simp only [Option.map_some, Option.some.injEq, forall_eq']
    exact updatedBy_eq_iff ebi _ x

end Update

section Runs
open S2b Scenario

def updateOf (bearers : List UpdateBearerContext) : UpdateBearerEvent :=
  { localControlTEID := 0x301, bearers }

def qci9 (ebi : UInt8) : UpdateBearerContext := { ebi, qci := 9, hasBearerQoS := true }

def attachedSession : Session.Session :=
  ((after attached).sessions.findByLocalControlTEID 0x301).get (by decide +kernel)

theorem find_attachedSession :
    (after attached).sessions.findByLocalControlTEID 0x301 = some attachedSession := by
  simp [attachedSession]

/-- A request for a bearer that does not exist changes none. -/
theorem unknown_bearer_unchanged :
    (handlePGWUpdateBearer (after attached) (fun _ => false) (updateOf [qci9 9])).2.cause = 64 ∧
      ∀ ebi, qosAt (handlePGWUpdateBearer (after attached) (fun _ => false)
          (updateOf [qci9 9])).1.gtpu attachedSession.id ebi =
        qosAt (after attached).gtpu attachedSession.id ebi := by
  have hcause : (handlePGWUpdateBearer (after attached) (fun _ => false)
      (updateOf [qci9 9])).2.cause = 64 := by decide +kernel
  obtain ⟨before, b, rest, hsplit, -, -, hiff⟩ := rejected_update_iff
    (show (after attached).sessions.findByLocalControlTEID (updateOf [qci9 9]).localControlTEID =
      some attachedSession from find_attachedSession) (by rw [hcause]; decide)
  have hone : before = [] ∧ b = qci9 9 := by
    cases before with
    | nil => exact ⟨rfl, (List.cons.inj hsplit).1.symm⟩
    | cons c before =>
      have hlen := congrArg List.length (List.cons.inj hsplit).2
      simp at hlen
  refine ⟨hcause, hiff.mpr fun ebi x hx => ?_⟩
  rw [hone.1, hone.2, List.nil_append, updatedBy, updatedBy]
  by_cases he : ebi = 9
  · have hnone : ((after attached).gtpu.bearerAt attachedSession.id 9).isSome = false := by
      decide +kernel
    rw [← he, hx] at hnone
    cases hnone
  · exact if_neg fun h => he (of_decide_eq_true (Bool.and_eq_true_iff.mp h).2).symm

/-- The first bearer of the request is updated, the second does not exist. -/
theorem rejected_update_applies :
    Reachable server (after attached) ∧
      (after attached).sessions.findByLocalControlTEID 0x301 = some attachedSession ∧
      (handlePGWUpdateBearer (after attached) (fun _ => false)
        (updateOf [qci9 5, qci9 9])).2.cause = 64 ∧
      qosAt (after attached).gtpu attachedSession.id 5 = some (0, none) ∧
      qosAt (handlePGWUpdateBearer (after attached) (fun _ => false)
        (updateOf [qci9 5, qci9 9])).1.gtpu attachedSession.id 5 = some (9, none) :=
  ⟨after_reachable _, find_attachedSession, by decide +kernel⟩

end Runs
end Epdg
