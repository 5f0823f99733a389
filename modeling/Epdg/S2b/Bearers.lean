import Epdg.Gtpu.Bearers
import Epdg.S2b.Codec

/-!
Bearer requests of the PGW, in the form the parsers of `internal/s2b/client.go` hand to the
handlers of `cmd/epdg/main.go`, and what the handlers do to the bearers of the session that they
found. The fields that only the response encoder or the log reads are left out.
-/
namespace Epdg.S2b
open Gtpu

structure CreateBearerContext where
  ebi : UInt8 := 0
  hasEBI : Bool := false
  unassignedEBI : Bool := false
  pgwUserTEID : UInt32 := 0
  pgwUserIP : Option IP := none
  qci : UInt8 := 0
  tftRaw : Bytes := []
  chargingID : UInt32 := 0
  hasChargingID : Bool := false
  deriving DecidableEq, Repr

structure CreateBearerEvent where
  localControlTEID : UInt32
  bearers : List CreateBearerContext
  ebi : UInt8 := 0
  pgwUserTEID : UInt32 := 0
  pgwUserIP : Option IP := none
  qci : UInt8 := 0
  tftRaw : Bytes := []
  deriving DecidableEq, Repr

def CreateBearerEvent.contexts (ev : CreateBearerEvent) : List CreateBearerContext :=
  if ev.bearers = [] then
    [{ ebi := ev.ebi, hasEBI := ev.ebi ≠ 0, pgwUserTEID := ev.pgwUserTEID
       pgwUserIP := ev.pgwUserIP, qci := ev.qci, tftRaw := ev.tftRaw }]
  else ev.bearers

structure CreateBearerBearerResult where
  ebi : UInt8
  accepted : Bool
  cause : UInt8
  localUserTEID : UInt32 := 0
  localUserIP : Option IP := none
  pgwUserTEID : UInt32 := 0
  pgwUserIP : Option IP := none
  chargingID : UInt32 := 0
  hasChargingID : Bool := false
  deriving DecidableEq, Repr

structure CreateBearerResult where
  accepted : Bool := true
  cause : UInt8 := causeRequestAccepted
  localUserTEID : UInt32 := 0
  localUserIP : Option IP := none
  bearers : List CreateBearerBearerResult := []
  pgwControlTEID : UInt32 := 0
  deriving DecidableEq, Repr

def CreateBearerResult.add (r : CreateBearerResult) (b : CreateBearerBearerResult) :
    CreateBearerResult :=
  let r := { r with bearers := r.bearers ++ [b] }
  if b.accepted then
    if r.localUserTEID = 0 then
      { r with localUserTEID := b.localUserTEID, localUserIP := b.localUserIP }
    else r
  else { r with accepted := false, cause := causeContextNotFound }

def dedicatedEBI (m : Manager) (id : Session.ID) (defaultEBI : UInt8)
    (b : CreateBearerContext) : Except UInt8 UInt8 :=
  if b.unassignedEBI ∨ b.ebi = 0 then
    match m.allocateDedicatedEBI id defaultEBI with
    | some ebi => .ok ebi
    | none => .error 0
  else if b.ebi = defaultEBI ∨ m.hasBearer id b.ebi then .error b.ebi
  else .ok b.ebi

def createBearer (m : Manager) (localGTPU : Option IP) (draws : Nat → TeidDraw)
    (id : Session.ID) (defaultEBI : UInt8) (b : CreateBearerContext) :
    Manager × CreateBearerBearerResult :=
  match dedicatedEBI m id defaultEBI b with
  | .error ebi => (m, { ebi, accepted := false, cause := causeContextNotFound })
  | .ok ebi =>
    match m.allocateBearerTEID draws id
      { ebi, remoteTXTEID := b.pgwUserTEID, pgwGTPUIP := b.pgwUserIP
        localGTPUIP := localGTPU, qci := b.qci
        tft := (parseTFT b.tftRaw).getD (some {}) } with
    | (m, none) => (m, { ebi, accepted := false, cause := causeContextNotFound })
    | (m, some teid) =>
      (m, { ebi, accepted := true, cause := causeRequestAccepted, localUserTEID := teid
            localUserIP := localGTPU, pgwUserTEID := b.pgwUserTEID
            pgwUserIP := b.pgwUserIP, chargingID := b.chargingID
            hasChargingID := b.hasChargingID })

structure UpdateBearerContext where
  ebi : UInt8 := 0
  qci : UInt8 := 0
  hasBearerQoS : Bool := false
  tftRaw : Bytes := []
  hasTFT : Bool := false
  deriving DecidableEq, Repr

def updateBearers (id : Session.ID) :
    Manager → (faults : Nat → Bool) → List UpdateBearerContext → Manager × UInt8
  | m, _, [] => (m, causeRequestAccepted)
  | m, faults, b :: bearers =>
    if b.hasBearerQoS = false ∧ b.hasTFT = false then
      updateBearers id m (fun i => faults (i + 1)) bearers
    else
      match m.updateBearer (faults 0) id b.ebi b.qci b.tftRaw with
      | (m, true) => updateBearers id m (fun i => faults (i + 1)) bearers
      | (m, false) => (m, causeContextNotFound)

theorem CreateBearerResult.add_spec (r : CreateBearerResult) (b : CreateBearerBearerResult) :
    (r.add b).pgwControlTEID = r.pgwControlTEID ∧ (r.add b).bearers = r.bearers ++ [b] := by
  simp only [CreateBearerResult.add]
  grind

theorem CreateBearerResult.add_cause (r : CreateBearerResult) (b : CreateBearerBearerResult) :
    (r.add b).cause = if b.accepted then r.cause else causeContextNotFound := by
  simp only [CreateBearerResult.add]
  grind

variable (m : Manager) (id : Session.ID)

theorem createBearer_onlyAt (localGTPU : Option IP) (draws : Nat → TeidDraw)
    (defaultEBI : UInt8) (b : CreateBearerContext) :
    Manager.OnlyAt id m (createBearer m localGTPU draws id defaultEBI b).1 := by
  simp only [createBearer, Manager.allocateBearerTEID]
  split
  · exact .refl m
  split
  all_goals
    rename_i m1 heq
    exact congrArg Prod.fst heq ▸ Manager.allocateLoop_onlyAt m id _ _

theorem updateBearers_onlyAt (faults : Nat → Bool) (bearers : List UpdateBearerContext) :
    Manager.OnlyAt id m (updateBearers id m faults bearers).1 := by
  induction bearers generalizing m faults with
  | nil => exact .refl m
  | cons b bearers ih =>
    have hupd := Manager.updateBearer_onlyAt m id (faults 0) b.ebi b.qci b.tftRaw
    simp only [updateBearers]
    split
    · exact ih m _
    split
    · rename_i m1 heq
      rw [heq] at hupd
      exact hupd.trans (ih m1 _)
    · simp_all

end Epdg.S2b
