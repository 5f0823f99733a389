import Epdg.Gtpu.Attached
import Epdg.Properties.KernelSync

/-!
What an `AddSession` that fails leaves behind.

The rollback removes what was recorded, by session id, PAA and TEID. It does not know whether an
entry was there before the call: one that belonged to another session is gone as well.
-/
namespace Epdg.Gtpu.Dataplane

/-- A call that fails, whatever is attached and at whichever step, leaves the tables, the maps and
the routes as they were exactly when none of the entries that it had written was there before. -/
theorem failed_add_restores_iff {d : Dataplane} {att : Attachments} {f : Faults}
    {localGTPU : Option IP} {o : RangeOrder} {sess : Session.Session}
    (h : (d.tryAddSession att f localGTPU o sess).2 = false) :
    (∀ cell, (d.tryAddSession att f localGTPU o sess).1.view cell = d.view cell) ↔
      ∀ cell ∈ d.writtenBy att f localGTPU o sess, d.view cell = none :=
  Undo.restored_iff (view_tryAddSession_failed h)

section Runs

def sessionWith (id : UInt64) (localTEID remoteTEID : UInt32) : Session.Session :=
  { id := ⟨id, 0⟩
    s2b := some { paa := .v4 0x0a000001, pgwControlTEID := 0x5001, pgwControlIP := none
                  pgwUserTEID := remoteTEID, pgwUserIP := .v4 0xc0000202
                  localControlTEID := 0x1001, localUserTEID := localTEID, ebi := 5
                  pgwRecovery := 0 } }

def addBoth (d : Dataplane) (sess : Session.Session) : Dataplane × Bool :=
  d.tryAddSession ⟨true, true, some 2⟩ {} (some (.v4 0xc0000201)) listOrder sess

/-- The first session of a manager is rolled back without a trace when its route cannot be set. -/
theorem first_session_restored :
    view (tryAddSession {} ⟨true, true, some 2⟩ { route := true } (some (.v4 0xc0000201)) listOrder
      (sessionWith 1 0x2001 0x6001)).1 = view {} := by
  funext cell
  refine (failed_add_restores_iff (by decide +kernel)).mpr (fun cell _ => ?_) cell
  cases cell <;> rfl

/-- The second session gets the PAA of the first one, so its route is there already. The rollback
takes the first one out of `sessionsByPAA` and of `ue_session_map`. -/
theorem other_session_erased :
    let d := (addBoth {} (sessionWith 1 0x2001 0x6001)).1
    let r := addBoth d (sessionWith 2 0x2002 0x6002)
    r.2 = false ∧ r.1.view (.paa (.v4 0x0a000001)) ≠ d.view (.paa (.v4 0x0a000001)) ∧
      r.1.view (.ueSession 0x0a000001) ≠ d.view (.ueSession 0x0a000001) := by
  intro d r
  have hrun : r.2 = false ∧ (d.view (.paa (.v4 0x0a000001))).isSome = true ∧
      (r.1.view (.paa (.v4 0x0a000001))).isSome = false ∧
      (d.view (.ueSession 0x0a000001)).isSome = true ∧
      (r.1.view (.ueSession 0x0a000001)).isSome = false := by
    decide +kernel
  obtain ⟨hfail, hpaa, hpaa', hue, hue'⟩ := hrun
  refine ⟨hfail, fun heq => ?_, fun heq => ?_⟩
  · rw [heq, hpaa] at hpaa'
    cases hpaa'
  · rw [heq, hue] at hue'
    cases hue'

end Runs

end Epdg.Gtpu.Dataplane
