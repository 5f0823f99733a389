import Epdg.Gtpu.Tables
import Epdg.Properties.Addressing
import Epdg.S2b.Reports

/-!
The Bearer Contexts of the responses to bearer requests.

A Create Bearer Response has one for each bearer that the handler reports, and one in all when
there is no session. The parser may have dropped bearers before. An Update Bearer Response gives
the overall cause to all bearers, also to those that were updated before another one failed. A
Delete Bearer Response has a single Bearer Context with all EBIs in it.
-/
namespace Epdg
open S2b
variable {sess : Session.Session}

def contextOf (bearer : UInt8 × UInt8) : List UInt8 × List UInt8 := ([bearer.1], [bearer.2])

def ReportsEach (answer : Option Bytes) (due : List (UInt8 × UInt8)) : Prop :=
  answeredContexts answer = some (due.map contextOf)

theorem contextOf_injective : Function.Injective contextOf := by
  rintro ⟨ebi, cause⟩ ⟨ebi', cause'⟩ h
  simpa [contextOf] using h

theorem reportsEach_iff {answer : Option Bytes} {l : List (UInt8 × UInt8)}
    (h : answeredContexts answer = some (l.map contextOf)) (due : List (UInt8 × UInt8)) :
    ReportsEach answer due ↔ l = due := by
  rw [ReportsEach, h, Option.some.injEq]
  exact contextOf_injective.list_map.eq_iff

section Due

def dueEach {α : Type} (keep : α → Bool) (ebi : α → UInt8) :
    List α → List (UInt8 × UInt8) → List (UInt8 × UInt8)
  | [], _ => []
  | a :: rest, outcomes =>
    if keep a then
      outcomes.headD (ebi a, causeContextNotFound) :: dueEach keep ebi rest outcomes.tail
    else (ebi a, causeContextNotFound) :: dueEach keep ebi rest outcomes

variable {α : Type} {keep : α → Bool} {ebi : α → UInt8}

theorem length_dueEach (l : List α) (outcomes : List (UInt8 × UInt8)) :
    (dueEach keep ebi l outcomes).length = l.length := by
  induction l generalizing outcomes with
  | nil => rfl
  | cons a l ih =>
    simp only [dueEach]
    grind

theorem dueEach_of_kept {l : List α} {outcomes : List (UInt8 × UInt8)}
    (hkeep : ∀ a ∈ l, keep a = true) (hlen : outcomes.length = l.length) :
    dueEach keep ebi l outcomes = outcomes := by
  induction l generalizing outcomes with
  | nil => exact (List.length_eq_zero_iff.mp hlen).symm
  | cons a l ih =>
    cases outcomes with
    | nil => cases hlen
    | cons o outcomes =>
      have hrest := ih (fun a' ha => hkeep a' (List.mem_cons_of_mem a ha))
        (Nat.succ.inj hlen)
      simp only [dueEach, hkeep a List.mem_cons_self, if_true, List.headD_cons,
        List.tail_cons, hrest]

end Due

section Update
variable {m : Gtpu.Manager} {id : Session.ID}

def updateOutcomes (id : Session.ID) :
    Gtpu.Manager → (faults : Nat → Bool) → List UpdateBearerContext → List (UInt8 × UInt8)
  | _, _, [] => []
  | m, faults, b :: bearers =>
    if b.hasBearerQoS = false ∧ b.hasTFT = false then
      (b.ebi, causeRequestAccepted) :: updateOutcomes id m (fun i => faults (i + 1)) bearers
    else
      match m.updateBearer (faults 0) id b.ebi b.qci b.tftRaw with
      | (m, true) =>
        (b.ebi, causeRequestAccepted) :: updateOutcomes id m (fun i => faults (i + 1)) bearers
      | (_, false) => (b :: bearers).map fun b => (b.ebi, causeContextNotFound)

def updatable (m : Gtpu.Manager) (id : Session.ID) (fault : Bool) (b : UpdateBearerContext) :
    Bool :=
  !b.hasBearerQoS && !b.hasTFT || m.hasBearer id b.ebi && !fault

def allUpdatable (m : Gtpu.Manager) (id : Session.ID) :
    (faults : Nat → Bool) → List UpdateBearerContext → Bool
  | _, [] => true
  | faults, b :: bearers =>
    updatable m id (faults 0) b && allUpdatable m id (fun i => faults (i + 1)) bearers

variable (m id) in
theorem updateBearer_succeeds (fault : Bool) (ebi qci : UInt8) (tftRaw : Bytes) :
    (m.updateBearer fault id ebi qci tftRaw).2 = (m.hasBearer id ebi && !fault) := by
  simp only [Gtpu.Manager.updateBearer, Gtpu.Manager.hasBearer]
  grind

variable (m id) in
theorem hasBearer_updateBearer (fault : Bool) (ebi qci : UInt8) (tftRaw : Bytes) (ebi' : UInt8) :
    (m.updateBearer fault id ebi qci tftRaw).1.hasBearer id ebi' = m.hasBearer id ebi' := by
  cases hb : m.bearerOf ⟨id, ebi⟩ with
  | none => rw [Gtpu.Manager.updateBearer_none hb]
  | some b =>
    rw [(Gtpu.Manager.updateBearer_edits hb fault qci tftRaw).1.hasBearer]
    split
    · rename_i he
      rw [he, Gtpu.Manager.hasBearer_eq, show m.bearerAt id ebi = some b from hb]
      rfl
    · rfl

theorem allUpdatable_congr {m' : Gtpu.Manager}
    (h : ∀ ebi, m'.hasBearer id ebi = m.hasBearer id ebi) (faults : Nat → Bool)
    (bearers : List UpdateBearerContext) :
    allUpdatable m' id faults bearers = allUpdatable m id faults bearers := by
  induction bearers generalizing faults with
  | nil => rfl
  | cons b bearers ih => simp only [allUpdatable, updatable, h, ih]

variable (m id) in
theorem updateBearers_cons (faults : Nat → Bool) (b : UpdateBearerContext)
    (bearers : List UpdateBearerContext) :
    if updatable m id (faults 0) b then
      ∃ m', (∀ ebi, m'.hasBearer id ebi = m.hasBearer id ebi) ∧
        updateBearers id m faults (b :: bearers) =
          updateBearers id m' (fun i => faults (i + 1)) bearers ∧
        updateOutcomes id m faults (b :: bearers) = (b.ebi, causeRequestAccepted) ::
          updateOutcomes id m' (fun i => faults (i + 1)) bearers
    else
      (updateBearers id m faults (b :: bearers)).2 = causeContextNotFound ∧
        updateOutcomes id m faults (b :: bearers) =
          (b :: bearers).map fun b => (b.ebi, causeContextNotFound) := by
  by_cases hnothing : b.hasBearerQoS = false ∧ b.hasTFT = false
  · have hup : updatable m id (faults 0) b = true := by simp [updatable, hnothing]
    rw [if_pos hup]
    refine ⟨m, fun _ => rfl, ?_, ?_⟩
    · simp only [updateBearers, if_pos hnothing]
    · simp only [updateOutcomes, if_pos hnothing]
  have hasked : (!b.hasBearerQoS && !b.hasTFT) = false := by grind
  have hup : updatable m id (faults 0) b = (m.hasBearer id b.ebi && !faults 0) := by
    rw [updatable, hasked, Bool.false_or]
  have hkept := hasBearer_updateBearer m id (faults 0) b.ebi b.qci b.tftRaw
  rw [hup, ← updateBearer_succeeds m id (faults 0) b.ebi b.qci b.tftRaw]
  simp only [updateBearers, updateOutcomes, if_neg hnothing]
  generalize m.updateBearer (faults 0) id b.ebi b.qci b.tftRaw = out at hkept ⊢
  obtain ⟨m', ok⟩ := out
  cases ok with
  | true => exact ⟨m', hkept, rfl, rfl⟩
  | false => exact ⟨rfl, rfl⟩

variable (m id) in
theorem updateBearers_cause (faults : Nat → Bool) (bearers : List UpdateBearerContext) :
    (updateBearers id m faults bearers).2 =
      if allUpdatable m id faults bearers then causeRequestAccepted else causeContextNotFound := by
  induction bearers generalizing m faults with
  | nil => rfl
  | cons b bearers ih =>
    have hround := updateBearers_cons m id faults b bearers
    cases hup : updatable m id (faults 0) b with
    | true =>
      rw [if_pos hup] at hround
      obtain ⟨m', hsame, hloop, -⟩ := hround
      rw [hloop, ih, allUpdatable, hup, Bool.true_and, allUpdatable_congr hsame]
    | false =>
      rw [if_neg (by rw [hup]; decide)] at hround
      rw [hround.1, allUpdatable, hup]
      rfl

theorem updateOutcomes_accepted {faults : Nat → Bool} {bearers : List UpdateBearerContext}
    (h : allUpdatable m id faults bearers = true) :
    updateOutcomes id m faults bearers =
      bearers.map fun b => (b.ebi, causeRequestAccepted) := by
  induction bearers generalizing m faults with
  | nil => rfl
  | cons b bearers ih =>
    rw [allUpdatable, Bool.and_eq_true] at h
    have hround := updateBearers_cons m id faults b bearers
    rw [if_pos h.1] at hround
    obtain ⟨m', hsame, -, houtcomes⟩ := hround
    rw [houtcomes, ih ((allUpdatable_congr hsame _ _).trans h.2), List.map_cons]

theorem updateOutcomes_iff (faults : Nat → Bool) (b : UpdateBearerContext)
    (bearers : List UpdateBearerContext) :
    updateOutcomes id m faults (b :: bearers) = (b :: bearers).map (fun bc =>
        (bc.ebi, (updateBearers id m faults (b :: bearers)).2)) ↔
      allUpdatable m id faults (b :: bearers) = true ∨ updatable m id (faults 0) b = false := by
  have hcause := updateBearers_cause m id faults (b :: bearers)
  have hround := updateBearers_cons m id faults b bearers
  cases hup : updatable m id (faults 0) b with
  | false => simp_all
  | true =>
    rw [if_pos hup] at hround
    obtain ⟨m', -, -, houtcomes⟩ := hround
    constructor
    · intro h
      rw [houtcomes, List.map_cons] at h
      have hok := congrArg Prod.snd (List.cons.inj h).1
      cases hall : allUpdatable m id faults (b :: bearers) with
      | true => exact .inl rfl
      | false =>
        rw [hall] at hcause
        have hsame : causeRequestAccepted = causeContextNotFound := hok.trans hcause
        exact absurd hsame (by decide)
    · intro h
      have hall := h.resolve_right (by decide)
      rw [updateOutcomes_accepted hall, hcause, if_pos hall]

end Update

section Create

theorem createBearers_named {m : Gtpu.Manager} {localGTPU : Option IP}
    {draws : Nat → Nat → Gtpu.TeidDraw} {id : Session.ID} {defaultEBI : UInt8}
    {bearers : List CreateBearerContext} {result : CreateBearerResult}
    (hbearers : ∀ b ∈ bearers, IsEBI b.ebi)
    (hresult : ∀ br ∈ result.bearers, IsEBI br.ebi ∧ br.cause ≠ 0) :
    ∀ br ∈ (createBearers localGTPU id defaultEBI m draws bearers result).2.bearers,
      IsEBI br.ebi ∧ br.cause ≠ 0 := by
  induction bearers generalizing m draws result with
  | nil => exact hresult
  | cons b bearers ih =>
    apply ih fun b' hb => hbearers b' (List.mem_cons_of_mem b hb)
    rw [(CreateBearerResult.add_spec _ _).2]
    intro br hbr
    rcases List.mem_append.mp hbr with hbr | hbr
    · exact hresult br hbr
    · rw [List.mem_singleton.mp hbr]
      exact createBearer_named (hbearers b List.mem_cons_self)

def createOutcomes (w : World) (localGTPU : Option IP) (draws : Nat → Nat → Gtpu.TeidDraw)
    (event : CreateBearerEvent) : List (UInt8 × UInt8) :=
  match w.sessions.findByLocalControlTEID event.localControlTEID with
  | none => event.contexts.map fun b => (b.ebi, causeContextNotFound)
  | some _ => (handlePGWCreateBearer w localGTPU draws event).2.bearers.map fun br =>
    (br.ebi, br.cause)

def createDue (w : World) (localGTPU : Option IP) (draws : Nat → Nat → Gtpu.TeidDraw)
    (contexts : List (List Ie)) (event : CreateBearerEvent) : List (UInt8 × UInt8) :=
  dueEach CreateBearerContext.isBearer CreateBearerContext.ebi (createContexts contexts)
    (createOutcomes w localGTPU draws event)

variable {w : World} {req : Message} {event : CreateBearerEvent} {contexts : List (List Ie)}
variable {localGTPU : Option IP} {draws : Nat → Nat → Gtpu.TeidDraw}

theorem handlePGWCreateBearer_length (localGTPU : Option IP) (draws : Nat → Nat → Gtpu.TeidDraw)
    (hfind : w.sessions.findByLocalControlTEID event.localControlTEID = some sess) :
    (handlePGWCreateBearer w localGTPU draws event).2.bearers.length = event.contexts.length := by
  simp only [handlePGWCreateBearer, hfind]
  rw [(createBearers_spec _ _ _ _ _ _ _).2, List.length_nil, Nat.zero_add]

theorem createBearer_contexts_unknown (hin : Inbound req)
    (hebi : IsEBI event.ebi)
    (hfind : w.sessions.findByLocalControlTEID event.localControlTEID = none) :
    answeredContexts (createBearerResponse localGTPU req event
        (handlePGWCreateBearer w localGTPU draws event).2).encode =
      some ([(event.ebi, causeContextNotFound)].map contextOf) := by
  have hresult : (handlePGWCreateBearer w localGTPU draws event).2 =
      { accepted := false, cause := causeContextNotFound } := by
    simp only [handlePGWCreateBearer, hfind]
  rw [hresult, createBearerResponse_contexts
    (hin.createBearerResponse_encode localGTPU event (by simp))]
  have hsame : event.ebi &&& 0x0f = event.ebi := hebi
  simp only [CreateBearerResult.reported, CreateBearerResult.bearersOr, List.map_cons,
    List.map_nil, if_true, hsame]
  rfl

section
variable (hin : Inbound req) (hparse : parseCreateBearerRequest req = some event)
include hin hparse

theorem createBearer_contexts_found (hnamed : ∀ b ∈ event.contexts, IsEBI b.ebi)
    (hfind : w.sessions.findByLocalControlTEID event.localControlTEID = some sess) :
    answeredContexts (createBearerResponse localGTPU req event
        (handlePGWCreateBearer w localGTPU draws event).2).encode =
      some (((handlePGWCreateBearer w localGTPU draws event).2.bearers.map fun br =>
        (br.ebi, br.cause)).map contextOf) := by
  have hlen := handlePGWCreateBearer_length localGTPU draws hfind
  have hbearers : ∀ br ∈ (handlePGWCreateBearer w localGTPU draws event).2.bearers,
      IsEBI br.ebi ∧ br.cause ≠ 0 := by
    simp only [handlePGWCreateBearer, hfind]
    exact createBearers_named hnamed (by simp)
  generalize (handlePGWCreateBearer w localGTPU draws event).2 = result at hlen hbearers ⊢
  have hne : result.bearers ≠ [] := by
    intro hnil
    rw [hnil, List.length_nil] at hlen
    exact (contexts_ne_nil event) (List.length_eq_zero_iff.mp hlen.symm)
  rw [createBearerResponse_contexts (hin.createBearerResponse_encode localGTPU event
    (hlen ▸ hin.createContexts_length hparse))]
  have hreported : result.reported event.ebi = result.bearers := if_neg hne
  rw [hreported, List.map_map]
  refine congrArg some (List.map_congr_left fun br hbr => ?_)
  obtain ⟨hebi, hcause⟩ := hbearers br hbr
  have hsame : br.ebi &&& 0x0f = br.ebi := hebi
  simp only [Function.comp_apply, contextOf, hsame, if_neg hcause]

theorem createBearer_reports_iff
    (hcontexts : (decodeIEs req.payload).bind bearerContexts = some contexts) :
    ReportsEach (createBearerResponse localGTPU req event
        (handlePGWCreateBearer w localGTPU draws event).2).encode
        (createDue w localGTPU draws contexts event) ↔
      (∀ ctx ∈ createContexts contexts, ctx.isBearer = true) ∧
        ((w.sessions.findByLocalControlTEID req.teid).isSome ∨ contexts.length = 1) := by
  obtain ⟨ies, contexts', hies, hctx, hteid, hne, hbearers⟩ := parseCreateBearerRequest_spec hparse
  rw [hies, Option.bind_some, hctx] at hcontexts
  cases hcontexts
  have hkept : event.contexts = (createContexts contexts).filter CreateBearerContext.isBearer := by
    rw [CreateBearerEvent.contexts, if_neg hne, hbearers]
  have hnamed : ∀ b ∈ event.contexts, IsEBI b.ebi := by
    rw [hkept]
    exact fun b hb => createContexts_named contexts b (List.mem_filter.mp hb).1
  have hlen : (createContexts contexts).length = contexts.length := List.length_map _
  rw [← hteid]
  cases hfind : w.sessions.findByLocalControlTEID event.localControlTEID with
  | some sess =>
    have hcount := handlePGWCreateBearer_length localGTPU draws hfind
    rw [reportsEach_iff (createBearer_contexts_found hin hparse hnamed hfind)]
    simp only [Option.isSome_some, true_or, and_true, createDue, createOutcomes, hfind]
    constructor
    · intro h
      have hsame := congrArg List.length h
      rw [length_dueEach, List.length_map, hcount, hkept] at hsame
      exact List.length_filter_eq_length_iff.mp hsame
    · intro h
      rw [dueEach_of_kept h]
      rw [List.length_map, hcount, hkept, List.filter_eq_self.mpr h]
  | none =>
    have hfirst : event.ebi = (event.contexts.headD {}).ebi := by
      rw [CreateBearerEvent.contexts, if_neg hne]
      exact parseCreateBearerRequest_ebi hparse
    have hebi : IsEBI event.ebi := by
      rw [hfirst]
      cases hl : event.contexts with
      | nil => decide
      | cons b l => exact hnamed b (hl ▸ List.mem_cons_self)
    rw [reportsEach_iff (createBearer_contexts_unknown hin hebi hfind)]
    simp only [Option.isSome_none, Bool.false_eq_true, false_or, createDue, createOutcomes, hfind]
    constructor
    · intro h
      have hsame := congrArg List.length h
      rw [length_dueEach, List.length_singleton, hlen] at hsame
      refine ⟨List.length_filter_eq_length_iff.mp ?_, hsame.symm⟩
      have hpos := List.length_pos_of_ne_nil (contexts_ne_nil event)
      grind
    · rintro ⟨h, hone⟩
      rw [hkept, List.filter_eq_self.mpr h] at hfirst ⊢
      rw [dueEach_of_kept h (List.length_map _), hfirst]
      obtain ⟨b, hb⟩ := List.length_eq_one_iff.mp (hlen.trans hone)
      rw [hb]
      rfl

end

end Create

section UpdateRequest
variable {w : World} {req : Message} {event : UpdateBearerEvent} {contexts : List (List Ie)}
variable {faults : Nat → Bool}

theorem length_updateOutcomes (id : Session.ID) (m : Gtpu.Manager) (faults : Nat → Bool)
    (bearers : List UpdateBearerContext) :
    (updateOutcomes id m faults bearers).length = bearers.length := by
  induction bearers generalizing m faults with
  | nil => rfl
  | cons b bearers ih =>
    simp only [updateOutcomes]
    grind

def updateRequestOutcomes (w : World) (faults : Nat → Bool) (event : UpdateBearerEvent) :
    List (UInt8 × UInt8) :=
  match w.sessions.findByLocalControlTEID event.localControlTEID with
  | none => event.bearers.map fun b => (b.ebi, causeContextNotFound)
  | some sess => updateOutcomes sess.id w.gtpu faults event.bearers

def updateDue (w : World) (faults : Nat → Bool) (contexts : List (List Ie))
    (event : UpdateBearerEvent) : List (UInt8 × UInt8) :=
  dueEach (fun bc => bc.ebi ≠ 0) UpdateBearerContext.ebi (updateContexts contexts)
    (updateRequestOutcomes w faults event)

def sharedFate (w : World) (faults : Nat → Bool) (event : UpdateBearerEvent) : Bool :=
  match w.sessions.findByLocalControlTEID event.localControlTEID with
  | none => true
  | some sess =>
    allUpdatable w.gtpu sess.id faults event.bearers ||
      event.bearers.head?.any fun b => !updatable w.gtpu sess.id (faults 0) b

theorem updateRequestOutcomes_iff (w : World) (faults : Nat → Bool) (hne : event.bearers ≠ []) :
    event.bearers.map (fun bc => (bc.ebi, (handlePGWUpdateBearer w faults event).2.cause)) =
        updateRequestOutcomes w faults event ↔ sharedFate w faults event = true := by
  cases hfind : w.sessions.findByLocalControlTEID event.localControlTEID with
  | none => simp [handlePGWUpdateBearer, updateRequestOutcomes, sharedFate, hfind]
  | some sess =>
    cases hb : event.bearers with
    | nil => exact absurd hb hne
    | cons b bearers =>
      simp only [handlePGWUpdateBearer, updateRequestOutcomes, sharedFate, hfind, hb]
      rw [eq_comm, updateOutcomes_iff]
      simp

theorem updateBearer_cause_ne_zero (w : World) (faults : Nat → Bool) (event : UpdateBearerEvent) :
    (handlePGWUpdateBearer w faults event).2.cause ≠ 0 := by
  simp only [handlePGWUpdateBearer]
  split
  · exact (by decide : causeContextNotFound ≠ 0)
  simp only [updateBearers_cause]
  split
  · exact (by decide : causeRequestAccepted ≠ 0)
  · exact (by decide : causeContextNotFound ≠ 0)

theorem updateBearer_reports_iff (hin : Inbound req)
    (hparse : parseUpdateBearerRequest req = some event)
    (hcontexts : (decodeIEs req.payload).bind bearerContexts = some contexts) :
    ReportsEach (handleUpdateBearerRequest w faults req).2 (updateDue w faults contexts event) ↔
      (∀ bc ∈ updateContexts contexts, bc.ebi ≠ 0) ∧ sharedFate w faults event = true := by
  obtain ⟨ies, contexts', hies, hctx, -, hbearers⟩ := parseUpdateBearerRequest_spec hparse
  rw [hies, Option.bind_some, hctx] at hcontexts
  cases hcontexts
  have hnamed : ∀ bc ∈ event.bearers, IsEBI bc.ebi := by
    rw [hbearers]
    exact fun bc hbc => updateContexts_named contexts bc (List.mem_filter.mp hbc).1
  have hreports : answeredContexts (handleUpdateBearerRequest w faults req).2 =
      some ((event.bearers.map fun bc =>
        (bc.ebi, (handlePGWUpdateBearer w faults event).2.cause)).map contextOf) := by
    simp only [handleUpdateBearerRequest, hparse]
    rw [updateBearerResponse_contexts
      (hin.updateBearerResponse_encode _ (hin.updateContexts_length hparse)), List.map_map]
    refine congrArg some (List.map_congr_left fun bc hbc => ?_)
    have hsame : bc.ebi &&& 0x0f = bc.ebi := hnamed bc hbc
    have hcause : accepted (handlePGWUpdateBearer w faults event).2.cause =
        (handlePGWUpdateBearer w faults event).2.cause :=
      if_neg (updateBearer_cause_ne_zero w faults event)
    simp only [Function.comp_apply, contextOf, hsame, hcause]
  have hlength : (updateRequestOutcomes w faults event).length = event.bearers.length := by
    simp only [updateRequestOutcomes]
    split
    · grind
    · exact length_updateOutcomes _ _ _ _
  have hkept : (∀ bc ∈ updateContexts contexts, decide (bc.ebi ≠ 0) = true) →
      updateDue w faults contexts event = updateRequestOutcomes w faults event := by
    intro h
    apply dueEach_of_kept h
    simp_all
  have hiff := updateRequestOutcomes_iff w faults (parseUpdateBearerRequest_ne_nil hparse)
  rw [reportsEach_iff hreports]
  constructor
  · intro h
    have hsame := congrArg List.length h
    rw [updateDue, length_dueEach, List.length_map, hbearers] at hsame
    simp_all
  · simp_all

end UpdateRequest

section Delete
variable {w : World} {req : Message} {event : DeleteBearerEvent} {ies : List Ie}
variable {tftFault : UInt8 → Bool}

def listedEBI (e : Ie) : List (Option UInt8) :=
  if e.type = ieEBI then [parseEBI e.payload]
  else if e.type = ieBearerContext then
    ((decodeIEs e.payload).bind fun children => findIEAnyInstance children ieEBI).toList.map
      fun ebi => parseEBI ebi.payload
  else []

theorem listedEBI_named {ebi : UInt8} (h : some ebi ∈ ies.flatMap listedEBI) : IsEBI ebi := by
  obtain ⟨e, -, he⟩ := List.mem_flatMap.mp h
  simp only [listedEBI] at he
  split at he
  · exact IsEBI.of_parse (List.mem_singleton.mp he).symm
  split at he
  · obtain ⟨child, -, hchild⟩ := List.mem_map.mp he
    exact IsEBI.of_parse hchild
  · cases he

theorem foldlM_note_ebis {event event' : DeleteBearerEvent}
    (h : ies.foldlM DeleteBearerEvent.note event = some event') :
    event'.ebis = event.ebis ++ (ies.flatMap listedEBI).filterMap id := by
  induction ies generalizing event with
  | nil => simp_all
  | cons e ies ih =>
    obtain ⟨next, hnext, h⟩ := Option.bind_eq_some_iff.mp h
    have hstep : next.ebis = event.ebis ++ (listedEBI e).filterMap id := by
      simp only [DeleteBearerEvent.note] at hnext
      split at hnext
      · rename_i hcause
        have hlist : listedEBI e = [] := by
          simp [listedEBI, hcause, ieCause, ieEBI, ieBearerContext]
        grind
      split at hnext
      · rename_i hebi
        cases hnext
        cases hp : parseEBI e.payload <;> simp [listedEBI, hebi, hp]
      rename_i hebi
      split at hnext
      · rename_i hctx
        obtain ⟨children, hdec, rfl⟩ := Option.map_eq_some_iff.mp hnext
        simp only [listedEBI, if_neg hebi, if_pos hctx, hdec, Option.bind_some]
        cases findIEAnyInstance children ieEBI with
        | none => simp
        | some child => cases hp : parseEBI child.payload <;> simp [hp]
      · rename_i hctx
        cases hnext
        simp [listedEBI, hebi, hctx]
    grind

def deleteOutcomes (m : Gtpu.Manager) (tftFault : UInt8 → Bool) (id : Session.ID)
    (defaultEBI : UInt8) : List UInt8 → List (UInt8 × UInt8)
  | [] => []
  | ebi :: rest =>
    if defaultEBI ≠ 0 ∧ ebi = defaultEBI then
      (ebi :: rest).map fun ebi => (ebi, causeRequestAccepted)
    else
      match m.removeBearer (tftFault ebi) id ebi with
      | (m, true) => (ebi, causeRequestAccepted) :: deleteOutcomes m tftFault id defaultEBI rest
      | (_, false) => (ebi :: rest).map fun ebi => (ebi, causeContextNotFound)

theorem deleteOutcomes_single (m : Gtpu.Manager) (id : Session.ID) (defaultEBI ebi : UInt8) :
    deleteOutcomes m tftFault id defaultEBI [ebi] =
      [(ebi, deleteBearersCause m tftFault id defaultEBI [ebi])] := by
  simp only [deleteOutcomes, deleteBearersCause]
  split
  · rfl
  grind

def deleteRequestOutcomes (w : World) (tftFault : UInt8 → Bool) (event : DeleteBearerEvent) :
    List (UInt8 × UInt8) :=
  match w.sessions.findByLocalControlTEID event.localControlTEID with
  | none => event.ebis.map fun ebi => (ebi, causeContextNotFound)
  | some sess =>
    deleteOutcomes w.gtpu tftFault sess.id ((sess.s2b.map Session.S2BContext.ebi).getD 0)
      event.ebis

def deleteDue (w : World) (tftFault : UInt8 → Bool) (ies : List Ie) (event : DeleteBearerEvent) :
    List (UInt8 × UInt8) :=
  dueEach Option.isSome (fun ebi => ebi.getD 0) (ies.flatMap listedEBI)
    (deleteRequestOutcomes w tftFault event)

theorem deleteRequestOutcomes_single {ebi : UInt8} (h : event.ebis = [ebi]) :
    deleteRequestOutcomes w tftFault event = [(ebi, accepted
      (handlePGWDeleteBearerResult w tftFault event.localControlTEID event.ebis).cause)] := by
  simp only [deleteRequestOutcomes, handlePGWDeleteBearerResult, h]
  cases w.sessions.findByLocalControlTEID event.localControlTEID with
  | none => rfl
  | some sess =>
    simp only [deleteOutcomes_single]
    rcases deleteBearersCause_cases w.gtpu tftFault sess.id
      ((sess.s2b.map Session.S2BContext.ebi).getD 0) [ebi] with hc | hc <;> rw [hc] <;> rfl

theorem deleteBearer_reports_iff (hin : Inbound req)
    (hparse : parseDeleteBearerRequest req = some event)
    (hies : decodeIEs req.payload = some ies) :
    ReportsEach (handleDeleteBearerRequest w tftFault req).2 (deleteDue w tftFault ies event) ↔
      (ies.flatMap listedEBI).length = 1 := by
  obtain ⟨ies', hies', hfold, hne⟩ := parseDeleteBearerRequest_spec hparse
  rw [hies] at hies'
  cases hies'
  have hebis : event.ebis = (ies.flatMap listedEBI).filterMap id :=
    (foldlM_note_ebis hfold).trans (List.nil_append _)
  have hreports : answeredContexts (handleDeleteBearerRequest w tftFault req).2 = some
      [(event.ebis.map (· &&& 0x0f), [accepted (handlePGWDeleteBearerResult w tftFault
        event.localControlTEID event.ebis).cause])] := by
    simp only [handleDeleteBearerRequest, hparse]
    have hlen := hin.ebis_length hparse
    exact deleteBearerResponse_contexts hlen (hin.deleteBearerResponse_encode _ hlen)
  rw [ReportsEach, hreports, Option.some.injEq]
  constructor
  · intro h
    have hsame := congrArg List.length h
    rw [List.length_singleton, List.length_map, deleteDue, length_dueEach] at hsame
    exact hsame.symm
  · intro h
    obtain ⟨listed, hlisted⟩ := List.length_eq_one_iff.mp h
    rw [hlisted] at hebis
    cases listed with
    | none => exact absurd hebis hne
    | some ebi =>
      have hone : event.ebis = [ebi] := hebis
      have hsame : ebi &&& 0x0f = ebi := listedEBI_named (hlisted ▸ List.mem_singleton_self _)
      rw [deleteDue, hlisted, deleteRequestOutcomes_single hone, hone]
      simp only [dueEach, Option.isSome_some, if_true, List.headD_cons, List.map_cons,
        List.map_nil, contextOf, hsame]

end Delete

def contextsOf (req : Message) : List (List Ie) :=
  ((decodeIEs req.payload).bind bearerContexts).getD []

def listedEBIs (req : Message) : List (Option UInt8) :=
  ((decodeIEs req.payload).getD []).flatMap listedEBI

def dueContexts (w : World) (localGTPU : Option IP) (env : RequestEnv) (req : Message) :
    List (UInt8 × UInt8) :=
  if req.type = msgCreateBearerReq then
    (parseCreateBearerRequest req).elim []
      (createDue w localGTPU env.draws (contextsOf req))
  else if req.type = msgDeleteBearerReq then
    (parseDeleteBearerRequest req).elim []
      (deleteDue w (fun ebi => env.faults ebi.toNat) ((decodeIEs req.payload).getD []))
  else
    (parseUpdateBearerRequest req).elim [] (updateDue w env.faults (contextsOf req))

def Reportable (w : World) (env : RequestEnv) (req : Message) : Prop :=
  if req.type = msgCreateBearerReq then
    (∀ ctx ∈ createContexts (contextsOf req), ctx.isBearer = true) ∧
      ((w.sessions.findByLocalControlTEID req.teid).isSome ∨ (contextsOf req).length = 1)
  else if req.type = msgDeleteBearerReq then (listedEBIs req).length = 1
  else
    (∀ bc ∈ updateContexts (contextsOf req), bc.ebi ≠ 0) ∧
      ∀ event, parseUpdateBearerRequest req = some event → sharedFate w env.faults event = true

/-- The response to a bearer request that parses has one Bearer Context for each bearer exactly
when the request is reportable. -/
theorem reportsEach_bearer_iff (F : AddrFormat) (localGTPU : Option IP) (w : World)
    (cache : ResponseCache) (env : RequestEnv) (peer : UDPAddr) {req : Message}
    (hin : Inbound req) (hparses : parses req = true)
    (hnew : cachedAnswer F cache env.now peer req = none) :
    ReportsEach (answerRequest F localGTPU w cache env peer req)
        (dueContexts w localGTPU env req) ↔
      Reportable w env req := by
  have hcases : req.type = msgCreateBearerReq ∧ (parseCreateBearerRequest req).isSome ∨
      req.type = msgDeleteBearerReq ∧ (parseDeleteBearerRequest req).isSome ∨
      req.type = msgUpdateBearerReq ∧ (parseUpdateBearerRequest req).isSome := by
    simpa [parses, or_assoc] using hparses
  have hdistinct : msgCreateBearerReq ≠ msgDeleteSessionReq ∧
      msgDeleteBearerReq ≠ msgDeleteSessionReq ∧ msgUpdateBearerReq ≠ msgDeleteSessionReq ∧
      msgDeleteBearerReq ≠ msgCreateBearerReq ∧ msgUpdateBearerReq ≠ msgCreateBearerReq ∧
      msgUpdateBearerReq ≠ msgDeleteBearerReq := by
    decide
  obtain ⟨hcs, hds, hus, hdc, huc, hud⟩ := hdistinct
  rcases hcases with ⟨ht, hparse⟩ | ⟨ht, hparse⟩ | ⟨ht, hparse⟩
  · obtain ⟨event, hparse⟩ := Option.isSome_iff_exists.mp hparse
    obtain ⟨ies, contexts, hies, hctx, -⟩ := parseCreateBearerRequest_spec hparse
    have hcontexts : (decodeIEs req.payload).bind bearerContexts = some contexts := by
      rw [hies, Option.bind_some, hctx]
    have hmiss : (cache.purge env.now).lookup (createBearerCacheKey F peer req) = none := by
      simpa [cachedAnswer, ht] using hnew
    have hanswer : answerRequest F localGTPU w cache env peer req =
        (createBearerResponse localGTPU req event
          (handlePGWCreateBearer w localGTPU env.draws event).2).encode := by
      simp only [answerRequest, ht, if_neg hcs, if_true,
        handleCreateBearerRequest_answer hmiss hparse]
    rw [hanswer]
    simp only [dueContexts, Reportable, ht, if_true, contextsOf, hcontexts, hparse,
      Option.elim_some, Option.getD_some]
    exact createBearer_reports_iff hin hparse hcontexts
  · obtain ⟨event, hparse⟩ := Option.isSome_iff_exists.mp hparse
    obtain ⟨ies, hies, -, -⟩ := parseDeleteBearerRequest_spec hparse
    simp only [answerRequest, dueContexts, Reportable, ht, if_neg hds, if_neg hdc, if_true,
      listedEBIs, hies, hparse, Option.elim_some, Option.getD_some]
    exact deleteBearer_reports_iff hin hparse hies
  obtain ⟨event, hparse⟩ := Option.isSome_iff_exists.mp hparse
  obtain ⟨ies, contexts, hies, hctx, -⟩ := parseUpdateBearerRequest_spec hparse
  have hcontexts : (decodeIEs req.payload).bind bearerContexts = some contexts := by
    rw [hies, Option.bind_some, hctx]
  simp only [answerRequest, dueContexts, Reportable, ht, if_neg hus, if_neg huc, if_neg hud,
    if_true, contextsOf, hcontexts, hparse, Option.elim_some, Option.getD_some,
    Option.some.injEq, forall_eq']
  exact updateBearer_reports_iff hin hparse hcontexts

section Runs

instance (answer : Option Bytes) (due : List (UInt8 × UInt8)) :
    Decidable (ReportsEach answer due) :=
  inferInstanceAs (Decidable (answeredContexts answer = some (due.map contextOf)))

def servedDue (req : Message) : List (UInt8 × UInt8) :=
  dueContexts servedWorld servedGTPU quietEnv req

theorem update_reported :
    servedDue servedUpdate = [(5, causeRequestAccepted)] ∧
      ReportsEach (servedAnswer servedUpdate) (servedDue servedUpdate) := by
  have hrun : servedDue servedUpdate = [(5, causeRequestAccepted)] ∧
      (servedUpdate.encode.any fun b => b.length ≤ readBuffer) = true ∧
      parses servedUpdate = true ∧
      (∀ bc ∈ updateContexts (contextsOf servedUpdate), bc.ebi ≠ 0) ∧
      (parseUpdateBearerRequest servedUpdate).all
        (sharedFate servedWorld quietEnv.faults) = true := by
    decide +kernel
  obtain ⟨hdue, hlen, hparses, hkept, hfate⟩ := hrun
  refine ⟨hdue, (reportsEach_bearer_iff AddrFormat.numeric servedGTPU servedWorld ∅ quietEnv
    servedPGW (inbound_of_encode rfl hlen) hparses rfl).mpr ⟨hkept, ?_⟩⟩
  intro event hevent
  rw [hevent] at hfate
  exact hfate

def incompleteCreate : Message :=
  servedRequest msgCreateBearerReq
    [bearerContextIE [ebiValueIE 6, fteidIE 5 ifaceS2BPGWGTPU 0x6002 (some (.v4 0xc0000202))],
      bearerContextIE [ebiValueIE 7]]

def deleteTwo : Message := servedRequest msgDeleteBearerReq [ebiValueIE 6, ebiValueIE 7]

def updateTwo : Message :=
  servedRequest msgUpdateBearerReq
    [bearerContextIE [ebiValueIE 5, { type := ieBearerQoS, payload := [0, 9] }],
      bearerContextIE [ebiValueIE 9, { type := ieBearerQoS, payload := [0, 9] }]]

/-- A bearer without a Bearer Context, two bearers in one, and a bearer that was updated with the
cause of one that was not. -/
theorem contexts_misreported :
    (incompleteCreate.encode.isSome ∧ deleteTwo.encode.isSome ∧ updateTwo.encode.isSome) ∧
    (parses incompleteCreate ∧ parses deleteTwo ∧ parses updateTwo) ∧
    answeredContexts (servedAnswer incompleteCreate) = some [([6], [16])] ∧
    ¬ReportsEach (servedAnswer incompleteCreate) (servedDue incompleteCreate) ∧
    answeredContexts (servedAnswer deleteTwo) = some [([6, 7], [16])] ∧
    ¬ReportsEach (servedAnswer deleteTwo) (servedDue deleteTwo) ∧
    servedDue updateTwo = [(5, 16), (9, 64)] ∧
    answeredContexts (servedAnswer updateTwo) = some [([5], [64]), ([9], [64])] ∧
    ¬ReportsEach (servedAnswer updateTwo) (servedDue updateTwo) := by
  decide +kernel

end Runs

end Epdg
