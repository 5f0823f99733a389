import Epdg.Ikev2.Teardown
import Epdg.S2b.Cache

/-!
The bearer handlers of `cmd/epdg/main.go` with their results, when nothing else runs meanwhile,
and the handlers of `internal/s2b/client.go` that call them.
-/
namespace Epdg
open S2b

def createBearers (localGTPU : Option IP) (id : Session.ID) (defaultEBI : UInt8) :
    Gtpu.Manager → (draws : Nat → Nat → Gtpu.TeidDraw) → List CreateBearerContext →
      CreateBearerResult → Gtpu.Manager × CreateBearerResult
  | m, _, [], result => (m, result)
  | m, draws, b :: bearers, result =>
    let (m, added) := createBearer m localGTPU (draws 0) id defaultEBI b
    createBearers localGTPU id defaultEBI m (fun i => draws (i + 1)) bearers (result.add added)

def handlePGWCreateBearer (w : World) (localGTPU : Option IP)
    (draws : Nat → Nat → Gtpu.TeidDraw) (event : CreateBearerEvent) :
    World × CreateBearerResult :=
  match w.sessions.findByLocalControlTEID event.localControlTEID with
  | none => (w, { accepted := false, cause := causeContextNotFound })
  | some sess =>
    let (m, result) :=
      createBearers localGTPU sess.id ((sess.s2b.map Session.S2BContext.ebi).getD 0) w.gtpu
        draws event.contexts
        { pgwControlTEID := (sess.s2b.map Session.S2BContext.pgwControlTEID).getD 0 }
    (w.setGtpu m, result)

def handlePGWUpdateBearer (w : World) (faults : Nat → Bool) (event : UpdateBearerEvent) :
    World × HandlerResult :=
  match w.sessions.findByLocalControlTEID event.localControlTEID with
  | none => (w, { cause := causeContextNotFound })
  | some sess =>
    let (m, cause) := updateBearers sess.id w.gtpu faults event.bearers
    (w.setGtpu m,
      { cause
        pgwControlTEID := (sess.s2b.map Session.S2BContext.pgwControlTEID).getD 0 })

def deleteBearersCause (m : Gtpu.Manager) (tftFault : UInt8 → Bool) (id : Session.ID)
    (defaultEBI : UInt8) : List UInt8 → UInt8
  | [] => causeRequestAccepted
  | ebi :: rest =>
    if defaultEBI ≠ 0 ∧ ebi = defaultEBI then causeRequestAccepted
    else
      match m.removeBearer (tftFault ebi) id ebi with
      | (m, true) => deleteBearersCause m tftFault id defaultEBI rest
      | (_, false) => causeContextNotFound

def handlePGWDeleteBearerResult (w : World) (tftFault : UInt8 → Bool) (teid : UInt32)
    (ebis : List UInt8) : HandlerResult :=
  match w.sessions.findByLocalControlTEID teid with
  | none => { cause := causeContextNotFound }
  | some sess =>
    { cause := deleteBearersCause w.gtpu tftFault sess.id
        ((sess.s2b.map Session.S2BContext.ebi).getD 0) ebis
      pgwControlTEID := (sess.s2b.map Session.S2BContext.pgwControlTEID).getD 0 }

def handleUpdateBearerRequest (w : World) (faults : Nat → Bool) (req : Message) :
    World × Option Bytes :=
  match parseUpdateBearerRequest req with
  | none => (w, (rejection req msgUpdateBearerResp).encode)
  | some event =>
    let (w, result) := handlePGWUpdateBearer w faults event
    (w, (updateBearerResponse req event result).encode)

def handleDeleteBearerRequest (w : World) (tftFault : UInt8 → Bool) (req : Message) :
    World × Option Bytes :=
  match parseDeleteBearerRequest req with
  | none => (w, (rejection req msgDeleteBearerResp).encode)
  | some event =>
    (handlePGWDeleteBearer w tftFault event.localControlTEID event.ebis event.isHandover,
      (deleteBearerResponse req event
        (handlePGWDeleteBearerResult w tftFault event.localControlTEID event.ebis)).encode)

structure RequestEnv where
  now : Nat := 0
  later : Nat := 0
  draws : Nat → Nat → Gtpu.TeidDraw
  faults : Nat → Bool := fun _ => false

def answerRequest (F : AddrFormat) (localGTPU : Option IP) (w : World) (cache : ResponseCache)
    (env : RequestEnv) (peer : UDPAddr) (req : Message) : Option Bytes :=
  if req.type = msgDeleteSessionReq then (deleteSessionResponse req).encode
  else if req.type = msgCreateBearerReq then
    (handleCreateBearerRequest F localGTPU cache env.now env.later peer req fun event =>
      (handlePGWCreateBearer w localGTPU env.draws event).2).answer
  else if req.type = msgDeleteBearerReq then
    (handleDeleteBearerRequest w (fun ebi => env.faults ebi.toNat) req).2
  else if req.type = msgUpdateBearerReq then (handleUpdateBearerRequest w env.faults req).2
  else none

theorem createBearers_spec (localGTPU : Option IP) (id : Session.ID) (defaultEBI : UInt8)
    (m : Gtpu.Manager) (draws : Nat → Nat → Gtpu.TeidDraw) (bearers : List CreateBearerContext)
    (result : CreateBearerResult) :
    (createBearers localGTPU id defaultEBI m draws bearers result).2.pgwControlTEID =
        result.pgwControlTEID ∧
      (createBearers localGTPU id defaultEBI m draws bearers result).2.bearers.length =
        result.bearers.length + bearers.length := by
  induction bearers generalizing m draws result with
  | nil => exact ⟨rfl, rfl⟩
  | cons b bearers ih =>
    obtain ⟨hteid, hbearers⟩ := CreateBearerResult.add_spec result
      (createBearer m localGTPU (draws 0) id defaultEBI b).2
    obtain ⟨ihteid, ihlen⟩ := ih (createBearer m localGTPU (draws 0) id defaultEBI b).1
      (fun i => draws (i + 1))
      (result.add (createBearer m localGTPU (draws 0) id defaultEBI b).2)
    refine ⟨ihteid.trans hteid, ihlen.trans ?_⟩
    grind

theorem deleteBearersCause_cases (m : Gtpu.Manager) (tftFault : UInt8 → Bool) (id : Session.ID)
    (defaultEBI : UInt8) (ebis : List UInt8) :
    deleteBearersCause m tftFault id defaultEBI ebis = causeRequestAccepted ∨
      deleteBearersCause m tftFault id defaultEBI ebis = causeContextNotFound := by
  induction ebis generalizing m with
  | nil => exact .inl rfl
  | cons e ebis ih =>
    simp only [deleteBearersCause]
    grind

end Epdg
