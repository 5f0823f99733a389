import Epdg.S2b.Bearers

/-!
The parsers of the PGW's bearer requests (`internal/s2b/client.go`). None is an error; the
texts of the errors go to the log only.
-/
namespace Epdg.S2b
open Bytes
variable {req : Message} {event : CreateBearerEvent} {ies : List Ie}

def bearerContexts (ies : List Ie) : Option (List (List Ie)) :=
  (ies.filter fun top => top.type = ieBearerContext).mapM fun top => decodeIEs top.payload

def CreateBearerContext.note (ctx : CreateBearerContext) (child : Ie) : CreateBearerContext :=
  if child.type = ieEBI then
    match parseEBI child.payload with
    | some ebi => { ctx with ebi, hasEBI := true }
    | none => if child.payload = [0] then { ctx with unassignedEBI := true } else ctx
  else if child.type = ieFTEID then
    match parseFTEID child with
    | some (_, teid, ip) => { ctx with pgwUserTEID := teid, pgwUserIP := ip }
    | none => ctx
  else if child.type = ieBearerQoS then { ctx with qci := (child.payload[1]?).getD ctx.qci }
  else if child.type = ieTFT then { ctx with tftRaw := child.payload }
  else if child.type = ieChargingID then
    if child.payload.length < 4 then ctx
    else { ctx with chargingID := be32 child.payload, hasChargingID := true }
  else ctx

def CreateBearerContext.isBearer (ctx : CreateBearerContext) : Bool :=
  (ctx.hasEBI || ctx.unassignedEBI) && ctx.pgwUserTEID ≠ 0

def createBearerEvent (req : Message) (bearers : List CreateBearerContext) :
    CreateBearerEvent :=
  match bearers with
  | [] => { localControlTEID := req.teid, bearers }
  | first :: _ =>
    { localControlTEID := req.teid, bearers, ebi := first.ebi
      pgwUserTEID := first.pgwUserTEID, pgwUserIP := first.pgwUserIP, qci := first.qci
      tftRaw := first.tftRaw }

def linkedDefaultEBI (ies : List Ie) : UInt8 :=
  ((ies.filter fun top => top.type = ieEBI).findSome? fun top => parseEBI top.payload).getD 0

def parseCreateBearerRequest (req : Message) : Option CreateBearerEvent := do
  let ies ← decodeIEs req.payload
  let contexts ← bearerContexts ies
  let bearers := (contexts.map fun children =>
    children.foldl CreateBearerContext.note {}).filter CreateBearerContext.isBearer
  let event := createBearerEvent req bearers
  if event.ebi = 0 then
    if bearers ≠ [] ∧ linkedDefaultEBI ies ≠ 0 then some event else none
  else if event.pgwUserTEID = 0 then none
  else some event

def UpdateBearerContext.note (bc : UpdateBearerContext) (child : Ie) : UpdateBearerContext :=
  if child.type = ieEBI then { bc with ebi := (parseEBI child.payload).getD bc.ebi }
  else if child.type = ieBearerQoS then
    { bc with hasBearerQoS := true, qci := (child.payload[1]?).getD bc.qci }
  else if child.type = ieTFT then { bc with tftRaw := child.payload, hasTFT := true }
  else bc

structure UpdateBearerEvent where
  localControlTEID : UInt32
  bearers : List UpdateBearerContext
  deriving DecidableEq, Repr

def parseUpdateBearerRequest (req : Message) : Option UpdateBearerEvent := do
  let ies ← decodeIEs req.payload
  let contexts ← bearerContexts ies
  let bearers := (contexts.map fun children =>
    children.foldl UpdateBearerContext.note {}).filter fun bc => bc.ebi ≠ 0
  if bearers = [] then none else some { localControlTEID := req.teid, bearers }

structure DeleteBearerEvent where
  localControlTEID : UInt32
  ebis : List UInt8 := []
  isHandover : Bool := false
  deriving DecidableEq, Repr

def DeleteBearerEvent.note (event : DeleteBearerEvent) (e : Ie) : Option DeleteBearerEvent :=
  if e.type = ieCause then
    match e.payload with
    | [] => some event
    | cause :: _ =>
      some { event with
        isHandover := cause = causeAccessChangedTo3GPP || cause = causeReactivationRequested }
  else if e.type = ieEBI then
    some { event with ebis := event.ebis ++ (parseEBI e.payload).toList }
  else if e.type = ieBearerContext then
    (decodeIEs e.payload).map fun children =>
      { event with
        ebis := event.ebis ++
          ((findIEAnyInstance children ieEBI).bind fun ebi => parseEBI ebi.payload).toList }
  else some event

def parseDeleteBearerRequest (req : Message) : Option DeleteBearerEvent := do
  let ies ← decodeIEs req.payload
  let event ← ies.foldlM DeleteBearerEvent.note { localControlTEID := req.teid }
  if event.ebis = [] then none else some event

def isHandoverIndication (req : Message) : Bool :=
  match (decodeIEs req.payload).bind fun ies => findIEAnyInstance ies ieIndication with
  | some ind => ind.payload.length ≥ 3 && ((ind.payload[2]?).getD 0) &&& 0x02 ≠ 0
  | none => false

theorem length_mapM_option {α β : Type} {f : α → Option β} {l : List α} {l' : List β}
    (h : l.mapM f = some l') : l'.length = l.length := by
  induction l generalizing l' with
  | nil =>
    cases h
    rfl
  | cons a l ih =>
    simp only [List.mapM_cons, Option.bind_eq_bind, Option.pure_def,
      Option.bind_eq_some_iff] at h
    grind

theorem bearerContexts_length {contexts : List (List Ie)} (h : bearerContexts ies = some contexts)
    : contexts.length ≤ ies.length := by
  rw [length_mapM_option h]
  grind

def createContexts (contexts : List (List Ie)) : List CreateBearerContext :=
  contexts.map fun children => children.foldl CreateBearerContext.note {}

def updateContexts (contexts : List (List Ie)) : List UpdateBearerContext :=
  contexts.map fun children => children.foldl UpdateBearerContext.note {}

section
variable (h : parseCreateBearerRequest req = some event)
include h

theorem parseCreateBearerRequest_eq :
    ∃ ies contexts, decodeIEs req.payload = some ies ∧ bearerContexts ies = some contexts ∧
      (createContexts contexts).filter CreateBearerContext.isBearer ≠ [] ∧
      event = createBearerEvent req
        ((createContexts contexts).filter CreateBearerContext.isBearer) := by
  simp only [parseCreateBearerRequest, Option.bind_eq_bind] at h
  obtain ⟨ies, hies, h⟩ := Option.bind_eq_some_iff.mp h
  obtain ⟨contexts, hctx, h⟩ := Option.bind_eq_some_iff.mp h
  refine ⟨ies, contexts, hies, hctx, ?_⟩
  simp only [createContexts]
  generalize ((contexts.map fun children => children.foldl CreateBearerContext.note {}).filter
    CreateBearerContext.isBearer) = bearers at h ⊢
  split at h
  · simp_all
  rename_i hebi
  split at h
  · cases h
  refine ⟨?_, (Option.some.inj h).symm⟩
  rintro rfl
  exact hebi rfl

theorem parseCreateBearerRequest_spec :
    ∃ ies contexts, decodeIEs req.payload = some ies ∧ bearerContexts ies = some contexts ∧
      event.localControlTEID = req.teid ∧ event.bearers ≠ [] ∧
      event.bearers = (createContexts contexts).filter CreateBearerContext.isBearer := by
  obtain ⟨ies, contexts, hies, hctx, hne, rfl⟩ := parseCreateBearerRequest_eq h
  refine ⟨ies, contexts, hies, hctx, ?_⟩
  generalize (createContexts contexts).filter CreateBearerContext.isBearer = bearers at hne ⊢
  cases bearers with
  | nil => exact absurd rfl hne
  | cons first rest => exact ⟨rfl, hne, rfl⟩

theorem parseCreateBearerRequest_ebi : event.ebi = (event.bearers.headD {}).ebi := by
  obtain ⟨_, contexts, _, _, _, rfl⟩ := parseCreateBearerRequest_eq h
  cases (createContexts contexts).filter CreateBearerContext.isBearer <;> rfl

end

theorem parseUpdateBearerRequest_spec {event : UpdateBearerEvent}
    (h : parseUpdateBearerRequest req = some event) :
    ∃ ies contexts, decodeIEs req.payload = some ies ∧ bearerContexts ies = some contexts ∧
      event.localControlTEID = req.teid ∧
      event.bearers = (updateContexts contexts).filter fun bc => bc.ebi ≠ 0 := by
  simp only [parseUpdateBearerRequest, Option.bind_eq_bind] at h
  obtain ⟨ies, hies, h⟩ := Option.bind_eq_some_iff.mp h
  obtain ⟨contexts, hctx, h⟩ := Option.bind_eq_some_iff.mp h
  refine ⟨ies, contexts, hies, hctx, ?_⟩
  split at h
  · cases h
  · cases h
    exact ⟨rfl, rfl⟩

theorem parseUpdateBearerRequest_ne_nil {event : UpdateBearerEvent}
    (h : parseUpdateBearerRequest req = some event) : event.bearers ≠ [] := by
  simp only [parseUpdateBearerRequest, Option.bind_eq_bind] at h
  obtain ⟨ies, hies, h⟩ := Option.bind_eq_some_iff.mp h
  obtain ⟨contexts, hctx, h⟩ := Option.bind_eq_some_iff.mp h
  grind

theorem foldlM_note {event event' : DeleteBearerEvent}
    (h : ies.foldlM DeleteBearerEvent.note event = some event') :
    event'.localControlTEID = event.localControlTEID ∧
      event'.ebis.length ≤ event.ebis.length + ies.length := by
  induction ies generalizing event with
  | nil => simp_all
  | cons e ies ih =>
    rw [List.foldlM_cons] at h
    obtain ⟨next, hnext, h⟩ := Option.bind_eq_some_iff.mp h
    have hone : ∀ o : Option UInt8, o.toList.length ≤ 1 := by simp_all
    have hstep : next.localControlTEID = event.localControlTEID ∧
        next.ebis.length ≤ event.ebis.length + 1 := by
      simp only [DeleteBearerEvent.note] at hnext
      split at hnext
      · grind
      split at hnext
      · grind
      split at hnext
      · obtain ⟨children, -, rfl⟩ := Option.map_eq_some_iff.mp hnext
        simp_all
      · simp_all
    grind

theorem parseDeleteBearerRequest_spec {event : DeleteBearerEvent}
    (h : parseDeleteBearerRequest req = some event) : ∃ ies, decodeIEs req.payload = some ies ∧
      ies.foldlM DeleteBearerEvent.note { localControlTEID := req.teid } = some event ∧
      event.ebis ≠ [] := by
  simp only [parseDeleteBearerRequest, Option.bind_eq_bind] at h
  obtain ⟨ies, hies, h⟩ := Option.bind_eq_some_iff.mp h
  obtain ⟨event', hfold, h⟩ := Option.bind_eq_some_iff.mp h
  grind

theorem parseDeleteBearerRequest_teid {event : DeleteBearerEvent}
    (h : parseDeleteBearerRequest req = some event) : event.localControlTEID = req.teid := by
  obtain ⟨_, _, hfold, _⟩ := parseDeleteBearerRequest_spec h
  exact (foldlM_note hfold).1

end Epdg.S2b
