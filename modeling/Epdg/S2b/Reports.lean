import Epdg.S2b.Responses

/-!
What a peer reads from the responses to bearer requests: the EBIs and the causes in each Bearer
Context.
-/
namespace Epdg.S2b
variable {defaultEBI ebi : UInt8} {m : Gtpu.Manager} {id : Session.ID} {l : List (List Ie)}
  {localGTPU : Option IP} {result : HandlerResult} {b : CreateBearerContext}

def valuesOf (type : UInt8) (ies : List Ie) : List UInt8 :=
  (ies.filter fun e => e.type = type).map fun e => (e.payload.head?).getD 0

theorem valuesOf_cons (type : UInt8) (e : Ie) (ies : List Ie) :
    valuesOf type (e :: ies) = if e.type = type then
      (e.payload.head?).getD 0 :: valuesOf type ies else valuesOf type ies := by
  by_cases h : e.type = type
  · simp [valuesOf, h]
  · simp [valuesOf, h]

def reportedContexts (payload : Bytes) : Option (List (List UInt8 × List UInt8)) :=
  ((decodeIEs payload).bind bearerContexts).map fun contexts =>
    contexts.map fun children => (valuesOf ieEBI children, valuesOf ieCause children)

def answeredContexts (answer : Option Bytes) : Option (List (List UInt8 × List UInt8)) :=
  (answer.bind decodeMessage).bind fun m => reportedContexts m.payload

section Reading

private theorem mapM_decode_contexts (h : ∀ children ∈ l, ∀ e ∈ children, e.Fits) :
    (l.map bearerContextIE).mapM (fun top => decodeIEs top.payload) = some l := by
  induction l with
  | nil => rfl
  | cons children l ih =>
    have hdec : decodeIEs (bearerContextIE children).payload = some children :=
      decodeIEs_encodeIEs (h children List.mem_cons_self)
    grind

theorem reportedContexts_encode {before after : List Ie}
    (hbefore : ∀ e ∈ before, e.Fits ∧ e.type ≠ ieBearerContext)
    (hafter : ∀ e ∈ after, e.Fits ∧ e.type ≠ ieBearerContext)
    (hfits : ∀ children ∈ l, ∀ e ∈ children, e.Fits)
    (hlen : ∀ children ∈ l, (encodeIEs children).length < 2 ^ 16) :
    reportedContexts (encodeIEs (before ++ l.map bearerContextIE ++ after)) =
      some (l.map fun children =>
        (valuesOf ieEBI children, valuesOf ieCause children)) := by
  have hall : ∀ e ∈ before ++ l.map bearerContextIE ++ after, e.Fits := by
    intro e he
    rcases List.mem_append.mp he with he | he
    · rcases List.mem_append.mp he with he | he
      · exact (hbefore e he).1
      · obtain ⟨children, hc, rfl⟩ := List.mem_map.mp he
        exact ⟨hlen children hc, (by decide : (0 : UInt8) &&& 0x0f = 0)⟩
    · exact (hafter e he).1
  have hfilter : (before ++ l.map bearerContextIE ++ after).filter
      (fun top => top.type = ieBearerContext) = l.map bearerContextIE := by
    have hnone : ∀ {ies : List Ie}, (∀ e ∈ ies, e.Fits ∧ e.type ≠ ieBearerContext) →
        ies.filter (fun top => decide (top.type = ieBearerContext)) = [] := by
      simp_all
    have hself : (l.map bearerContextIE).filter (fun top => decide (top.type = ieBearerContext)) =
        l.map bearerContextIE := by
      rw [List.filter_eq_self]
      intro e he
      obtain ⟨children, -, rfl⟩ := List.mem_map.mp he
      rfl
    grind
  rw [reportedContexts, decodeIEs_encodeIEs hall, Option.bind_some, bearerContexts, hfilter,
    mapM_decode_contexts hfits]
  rfl

theorem fits_of_short {e : Ie} (hlen : e.payload.length ≤ 9) (hinst : e.inst &&& 0x0f = e.inst) :
    e.Fits :=
  ⟨Nat.lt_of_le_of_lt hlen (by decide), hinst⟩

theorem causeIE_fits (cause : UInt8) : (causeIE cause).Fits :=
  fits_of_short (by simp [causeIE]) (by decide : (0 : UInt8) &&& 0x0f = 0)

theorem ebiValueIE_fits (ebi : UInt8) : (ebiValueIE ebi).Fits :=
  fits_of_short (by simp [ebiValueIE]) (by decide : (0 : UInt8) &&& 0x0f = 0)

section
variable (br : CreateBearerBearerResult) (localGTPU : Option IP) (cause : UInt8)

theorem children_spec :
    ∃ rest, br.children localGTPU cause =
        ebiValueIE br.ebi :: causeIE (if br.cause = 0 then cause else br.cause) :: rest ∧
      ∀ e ∈ rest, e.Fits ∧ (e.type = ieFTEID ∨ e.type = ieChargingID) := by
  refine ⟨_, rfl, ?_⟩
  intro e he
  replace he := (List.mem_append.mp he).resolve_left (List.not_mem_nil)
  by_cases haccepted : br.accepted ∧ br.localUserTEID ≠ 0
  · rw [if_pos haccepted] at he
    rcases List.mem_append.mp he with he | he
    · rcases List.mem_append.mp he with he | he
      · rw [List.mem_singleton.mp he]
        exact ⟨fits_of_short (length_fteidIE _ _ _ _) (by decide : (8 : UInt8) &&& 0x0f = 8),
          .inl rfl⟩
      split at he
      · rw [List.mem_singleton.mp he]
        exact ⟨fits_of_short (length_fteidIE _ _ _ _) (by decide : (9 : UInt8) &&& 0x0f = 9),
          .inl rfl⟩
      · cases he
    · split at he
      · rw [List.mem_singleton.mp he]
        exact ⟨fits_of_short (by simp [Bytes.putUint32_eq])
          (by decide : (0 : UInt8) &&& 0x0f = 0), .inr rfl⟩
      · cases he
  · simp_all

theorem children_fit : ∀ e ∈ br.children localGTPU cause, e.Fits := by
  obtain ⟨rest, hchildren, hrest⟩ := children_spec br localGTPU cause
  rw [hchildren]
  intro e he
  rcases List.mem_cons.mp he with rfl | he
  · exact ebiValueIE_fits _
  rcases List.mem_cons.mp he with rfl | he
  · exact causeIE_fits _
  · exact (hrest e he).1

theorem valuesOf_children :
    valuesOf ieEBI (br.children localGTPU cause) = [br.ebi &&& 0x0f] ∧
      valuesOf ieCause (br.children localGTPU cause) =
        [if br.cause = 0 then cause else br.cause] := by
  obtain ⟨rest, hchildren, hrest⟩ := children_spec br localGTPU cause
  have hnone : ∀ type, type = ieEBI ∨ type = ieCause → valuesOf type rest = [] := by
    intro type htype
    rw [valuesOf, List.map_eq_nil_iff, List.filter_eq_nil_iff]
    intro e he
    rcases (hrest e he).2 with h | h <;> rcases htype with rfl | rfl <;> rw [h] <;> decide
  rw [hchildren, valuesOf_cons, valuesOf_cons, valuesOf_cons, valuesOf_cons,
    hnone _ (.inl rfl), hnone _ (.inr rfl)]
  exact ⟨rfl, rfl⟩

end

end Reading

section Responses
variable {req : Message}

theorem answeredContexts_encode {m : Message} (hteid : m.hasTEID = true)
    (hsent : ∃ b, m.encode = some b) :
    answeredContexts m.encode = reportedContexts m.payload := by
  obtain ⟨b, hb⟩ := hsent
  rw [answeredContexts, hb, Option.bind_some, decode_encode hteid hb, Option.bind_some]

theorem createBearerResponse_contexts {event : CreateBearerEvent} {result : CreateBearerResult}
    (hsent : ∃ b, (createBearerResponse localGTPU req event result).encode = some b) :
    answeredContexts (createBearerResponse localGTPU req event result).encode =
      some ((result.reported event.ebi).map fun br =>
        ([br.ebi &&& 0x0f], [if br.cause = 0 then accepted result.cause else br.cause])) := by
  rw [answeredContexts_encode rfl hsent, createBearerResponse_eq]
  have hmap : (result.reported event.ebi).map (fun br =>
      bearerContextIE (br.children localGTPU (accepted result.cause))) =
        ((result.reported event.ebi).map fun br =>
          br.children localGTPU (accepted result.cause)).map bearerContextIE := by
    rw [List.map_map]
    rfl
  simp only [response, hmap]
  rw [reportedContexts_encode]
  · rw [List.map_map]
    refine congrArg some (List.map_congr_left fun br _ => ?_)
    obtain ⟨hebi, hcause⟩ := valuesOf_children br localGTPU (accepted result.cause)
    simp_all
  · intro e he
    rw [List.mem_singleton.mp he]
    exact ⟨causeIE_fits _, (by decide : ieCause ≠ ieBearerContext)⟩
  · intro e he
    rw [List.mem_singleton.mp he]
    exact ⟨fits_of_short (by simp [recoveryIE]) (by decide : (0 : UInt8) &&& 0x0f = 0),
      (by decide : ieRecovery ≠ ieBearerContext)⟩
  · intro children hc
    obtain ⟨br, -, rfl⟩ := List.mem_map.mp hc
    exact children_fit br localGTPU _
  · intro children hc
    obtain ⟨br, -, rfl⟩ := List.mem_map.mp hc
    exact Nat.lt_of_le_of_lt (length_children br localGTPU _) (by decide)

theorem updateBearerResponse_contexts {event : UpdateBearerEvent}
    (hsent : ∃ b, (updateBearerResponse req event result).encode = some b) :
    answeredContexts (updateBearerResponse req event result).encode =
      some (event.bearers.map fun bc => ([bc.ebi &&& 0x0f], [accepted result.cause])) := by
  rw [answeredContexts_encode rfl hsent]
  have hpayload : (updateBearerResponse req event result).payload =
      encodeIEs ([causeIE (accepted result.cause)] ++
        (event.bearers.map fun bc =>
          [causeIE (accepted result.cause), ebiValueIE bc.ebi]).map bearerContextIE ++ []) := by
    simp only [updateBearerResponse, response, List.map_map, List.append_nil,
      List.singleton_append]
    rfl
  rw [hpayload, reportedContexts_encode]
  · rw [List.map_map]
    rfl
  · intro e he
    rw [List.mem_singleton.mp he]
    exact ⟨causeIE_fits _, (by decide : ieCause ≠ ieBearerContext)⟩
  · grind
  · intro children hc
    obtain ⟨bc, -, rfl⟩ := List.mem_map.mp hc
    intro e he
    rcases List.mem_pair.mp he with rfl | rfl
    · exact causeIE_fits _
    · exact ebiValueIE_fits _
  · intro children hc
    obtain ⟨bc, -, rfl⟩ := List.mem_map.mp hc
    simp [length_encode, causeIE, ebiValueIE]

private theorem valuesOf_ebis (ebis : List UInt8) :
    valuesOf ieEBI (ebis.map ebiValueIE) = ebis.map (· &&& 0x0f) ∧
      valuesOf ieCause (ebis.map ebiValueIE) = [] := by
  induction ebis with
  | nil => exact ⟨rfl, rfl⟩
  | cons ebi ebis ih =>
    rw [List.map_cons, valuesOf_cons, valuesOf_cons, ih.1, ih.2]
    exact ⟨rfl, rfl⟩

theorem deleteBearerResponse_contexts {event : DeleteBearerEvent} (hlen : event.ebis.length ≤ 1024)
    (hsent : ∃ b, (deleteBearerResponse req event result).encode = some b) :
    answeredContexts (deleteBearerResponse req event result).encode =
      some [(event.ebis.map (· &&& 0x0f), [accepted result.cause])] := by
  rw [answeredContexts_encode rfl hsent]
  have hpayload : (deleteBearerResponse req event result).payload =
      encodeIEs ([causeIE (accepted result.cause)] ++
        [causeIE (accepted result.cause) :: event.ebis.map ebiValueIE].map bearerContextIE ++
          []) := rfl
  have hebis : ∀ e ∈ event.ebis.map ebiValueIE, e.payload.length ≤ 1 := by
    intro e he
    obtain ⟨v, -, rfl⟩ := List.mem_map.mp he
    exact Nat.le_refl 1
  have hbound := length_encodeIEs_le hebis
  rw [List.length_map] at hbound
  rw [hpayload, reportedContexts_encode]
  · obtain ⟨hebi, hcause⟩ := valuesOf_ebis event.ebis
    rw [List.map_singleton, valuesOf_cons, valuesOf_cons, hebi, hcause]
    rfl
  · intro e he
    rw [List.mem_singleton.mp he]
    exact ⟨causeIE_fits _, (by decide : ieCause ≠ ieBearerContext)⟩
  · grind
  · intro children hc e he
    rw [List.mem_singleton.mp hc] at he
    rcases List.mem_cons.mp he with rfl | he
    · exact causeIE_fits _
    · obtain ⟨v, -, rfl⟩ := List.mem_map.mp he
      exact ebiValueIE_fits v
  · intro children hc
    rw [List.mem_singleton.mp hc, encodeIEs_cons, List.length_append, length_encode]
    simp only [causeIE, List.length_cons, List.length_nil]
    omega

end Responses

def IsEBI (ebi : UInt8) : Prop := ebi &&& 0x0f = ebi

instance : DecidablePred IsEBI := fun ebi => inferInstanceAs (Decidable (ebi &&& 0x0f = ebi))

theorem IsEBI.of_parse {payload : Bytes} (h : parseEBI payload = some ebi) : IsEBI ebi := by
  cases payload with
  | nil => cases h
  | cons b payload =>
    simp only [parseEBI] at h
    split at h
    · cases h
    cases h
    rw [IsEBI, UInt8.and_assoc]
    rfl

section Named

theorem allocateDedicatedEBI_named (h : m.allocateDedicatedEBI id defaultEBI = some ebi)
    : IsEBI ebi := by
  have hall : ([6, 7, 8, 9, 10, 11, 12, 13, 14, 15] : List UInt8).all
      (fun e => decide (IsEBI e)) = true := by decide
  exact of_decide_eq_true (List.all_eq_true.mp hall ebi (List.mem_of_find?_eq_some h))

theorem dedicatedEBI_named (hb : IsEBI b.ebi)
    (h : dedicatedEBI m id defaultEBI b = .ok ebi ∨ dedicatedEBI m id defaultEBI b = .error ebi) :
    IsEBI ebi := by
  simp only [dedicatedEBI] at h
  split at h
  · split at h
    · rename_i allocated halloc
      rcases h with h | h <;> cases h
      exact allocateDedicatedEBI_named halloc
    · rcases h with h | h <;> cases h
      decide
  · grind

theorem createBearer_named {draws : Nat → Gtpu.TeidDraw} (hb : IsEBI b.ebi) :
    IsEBI (createBearer m localGTPU draws id defaultEBI b).2.ebi ∧
      (createBearer m localGTPU draws id defaultEBI b).2.cause ≠ 0 := by
  simp only [createBearer]
  split
  · rename_i ebi hded
    exact ⟨dedicatedEBI_named hb (.inr hded), (by decide : causeContextNotFound ≠ 0)⟩
  rename_i ebi hded
  split
  · exact ⟨dedicatedEBI_named hb (.inl hded), (by decide : causeContextNotFound ≠ 0)⟩
  · exact ⟨dedicatedEBI_named hb (.inl hded), (by decide : causeRequestAccepted ≠ 0)⟩

theorem note_named {ctx : CreateBearerContext} (h : IsEBI ctx.ebi)
    (child : Ie) : IsEBI (ctx.note child).ebi := by
  simp only [CreateBearerContext.note]
  split
  · split
    · rename_i ebi hebi
      exact IsEBI.of_parse hebi
    · split <;> exact h
  grind

theorem createContexts_named (contexts : List (List Ie)) :
    ∀ ctx ∈ createContexts contexts, IsEBI ctx.ebi := by
  intro ctx hctx
  obtain ⟨children, -, rfl⟩ := List.mem_map.mp hctx
  have hfold : ∀ (l : List Ie) (ctx : CreateBearerContext), IsEBI ctx.ebi →
      IsEBI (l.foldl CreateBearerContext.note ctx).ebi := by
    intro l
    induction l with
    | nil => exact fun _ h => h
    | cons child l ih => exact fun ctx h => ih _ (note_named h child)
  exact hfold children {} (by decide)

theorem updateContexts_named (contexts : List (List Ie)) :
    ∀ bc ∈ updateContexts contexts, IsEBI bc.ebi := by
  intro bc hbc
  obtain ⟨children, -, rfl⟩ := List.mem_map.mp hbc
  have hnote : ∀ {bc : UpdateBearerContext} (child : Ie), IsEBI bc.ebi →
      IsEBI (bc.note child).ebi := by
    intro bc child h
    simp only [UpdateBearerContext.note]
    split
    · cases hebi : parseEBI child.payload with
      | none => exact h
      | some ebi => exact IsEBI.of_parse hebi
    · grind
  have hfold : ∀ (l : List Ie) (bc : UpdateBearerContext), IsEBI bc.ebi →
      IsEBI (l.foldl UpdateBearerContext.note bc).ebi := by
    intro l
    induction l with
    | nil => exact fun _ h => h
    | cons child l ih => exact fun bc h => ih _ (hnote child h)
  exact hfold children {} (by decide)

theorem contexts_ne_nil (event : CreateBearerEvent) : event.contexts ≠ [] := by
  simp only [CreateBearerEvent.contexts]
  grind

end Named

end Epdg.S2b
