import Epdg.System.GatewayEffects

/-!
The history of control TEIDs: what a step leaves in the state was there before, or the step that
made it is known. While no TEID is drawn twice, everything that mentions a control TEID belongs
to the one call that drew it.
-/
namespace Epdg
open S2b Ikev2

namespace Gateway
variable {teid : UInt32} {id : Session.ID} {src : UDPAddr} {w : World}
variable {cfg : GatewayConfig} {g : Gateway} {a : GatewayAct}

theorem Calls.of_step {c : CreateCall} (h : (g.step cfg a).Calls c) :
    g.Calls c ∨ ∃ id ip, a = .createSession id ip ∧
      c = ⟨id, ip, nextTEID g.localControl, nextTEID g.localUser⟩ := by
  have hw := workers_step cfg g a
  simp only [Calls] at h
  generalize (g.step cfg a).workers = ws, (g.step cfg a).next = next at hw h
  cases hw with
  | same => exact .inl h
  | erase => exact .inl h.of_erase
  | become _ ho | spawn ho =>
    rcases h.of_insert with hc | hc
    · cases ho with
      | creating ha =>
        cases hc
        simp_all
      | answered hl => exact .inl ⟨_, _, hl, hc⟩
      | recorded hl hr => exact .inl ⟨_, _, hl, hc⟩
      | pgwDelete | pgwRemove | s2bDelete | teardownEnd | deleted => cases hc
    · exact .inl hc

theorem Requests.of_step (h : (g.step cfg a).Requests src teid) :
    g.Requests src teid ∨ ∃ req, a = .read src req ∧ req.teid = teid ∧
      g.admits cfg.s2b src teid = true := by
  rcases h with h | h
  · have hr := reader_step cfg g a
    generalize (g.step cfg a).reader = reader at hr h
    cases hr with
    | same => exact .inl (.inl h)
    | idle => cases h
    | request ha hadm =>
      cases h
      simp_all
    | polling attempts hr =>
      cases h
      exact .inl (.inl hr)
    | finds | adding => cases h
  · have hw := workers_step cfg g a
    generalize (g.step cfg a).workers = ws, (g.step cfg a).next = next at hw h
    cases hw with
    | same => exact .inl (.inr h)
    | erase => exact .inl (.inr h.of_erase)
    | become _ ho | spawn ho =>
      rcases h.of_insert with hc | hc
      · cases ho with
        | pgwDelete _ hrd =>
          cases hc
          exact .inl (.inl (by rw [hrd]; rfl))
        | creating | answered | recorded | pgwRemove | s2bDelete | teardownEnd | deleted =>
          cases hc
      · exact .inl (.inr hc)

theorem Found.of_step (hk : g.world.sessions.Keyed) (h : (g.step cfg a).Found src id) :
    g.Found src id ∨ ∃ teid, g.Requests src teid ∧ g.control id = some teid := by
  rcases h with h | h
  · have hr := reader_step cfg g a
    generalize (g.step cfg a).reader = reader at hr h
    cases hr with
    | same => exact .inl (.inl h)
    | finds hrd hf =>
      cases h
      exact .inr ⟨_, .inl hrd, control_of_find hk hf⟩
    | adding hrd =>
      cases h
      exact .inl (.inl hrd)
    | idle | request | polling => cases h
  · have hw := workers_step cfg g a
    generalize (g.step cfg a).workers = ws, (g.step cfg a).next = next at hw h
    cases hw with
    | same => exact .inl (.inr h)
    | erase => exact .inl (.inr h.of_erase)
    | become _ ho | spawn ho =>
      rcases h.of_insert with hc | hc
      · cases ho with
        | pgwRemove _ hl hf =>
          cases hc
          exact .inr ⟨_, .inr ⟨_, _, hl, rfl⟩, control_of_find hk hf⟩
        | creating | answered | recorded | pgwDelete | s2bDelete | teardownEnd | deleted =>
          cases hc
      · exact .inl (.inr hc)

theorem s2bOf_touched {w' : World} (h : TouchesOnly id w w') {id' : Session.ID}
    {c : Session.S2BContext} (hc : w'.s2bOf id' = some c) : w.s2bOf id' = some c := by
  by_cases e : id' = id
  · subst e
    exact h.s2b c hc
  · simp only [World.s2bOf, h.sessions id' e] at hc
    exact hc

theorem s2bOf_stored (w : World) (r : CreateSessionResult) (id id' : Session.ID) :
    (w.updateSession (some id) (sessionS2b r)).s2bOf id' =
      if id' = id then (w.sessions.get id).map fun _ => s2bContext r else w.s2bOf id' := by
  simp only [World.s2bOf, World.updateSession, World.setSessions_sessions,
    Session.Manager.get_update]
  split
  · cases w.sessions.get id with
    | none => rfl
    | some s => simp [sessionS2b]
  · rfl

theorem control_of_step (hk : g.world.sessions.Keyed) (h : (g.step cfg a).control id = some teid) :
    g.control id = some teid ∨ ∃ n, a = .store n ∧ ∃ c r,
      g.workers.lookup n = some (.recorded c r) ∧ c.session = id ∧
      r.localControlTEID = teid := by
  obtain ⟨ctx, hctx, hteid⟩ := Option.map_eq_some_iff.mp h
  have hw := world_step cfg hk a
  generalize (g.step cfg a).world = w at hw hctx
  have hkeep (hold : g.world.s2bOf id = some ctx) : g.control id = some teid := by
    rw [control, hold, Option.map_some, hteid]
  cases hw with
  | same => exact .inl (hkeep hctx)
  | own ht _ | asked ht _ _ _ | found ht _ _ => exact .inl (hkeep (s2bOf_touched ht hctx))
  | @store n c r ha hl =>
    rw [s2bOf_stored] at hctx
    split at hctx
    · rename_i e
      obtain ⟨s, -, hs⟩ := Option.map_eq_some_iff.mp hctx
      refine .inr ⟨n, ha, c, r, hl, e.symm, ?_⟩
      rw [← hteid, ← hs]
      rfl
    · grind

theorem keyed_step (hk : g.world.sessions.Keyed) : (g.step cfg a).world.sessions.Keyed := by
  have hw := world_step cfg hk a
  generalize (g.step cfg a).world = w at hw
  cases hw with
  | same => exact hk
  | own ht _ | asked ht _ _ _ | found ht _ _ => exact ht.keyed hk
  | store ha h => exact hk.update fun s => by simp [sessionS2b]

def freshDraw (g : Gateway) : Bool := (g.drawn.lookup (nextTEID g.localControl)).isNone

structure History (cfg : GatewayConfig) (g : Gateway) : Prop where
  keyed : g.world.sessions.Keyed
  calls : ∀ c, g.Calls c →
    g.drawn.lookup c.localControl = some (c.session, peerFor cfg.s2b c.pgwControlIP)
  recorded : ∀ n c r, g.workers.lookup n = some (.recorded c r) →
    r.localControlTEID = c.localControl
  peers : ∀ teid peer, g.peers.lookup teid = some peer →
    ∃ id, g.drawn.lookup teid = some (id, peer)
  control : ∀ id teid, g.control id = some teid → ∃ peer, g.drawn.lookup teid = some (id, peer)

theorem History.initial (hw : w.sessions = {}) : History cfg (Gateway.initial w) where
  keyed id s h := by
    simp only [Gateway.initial, hw] at h
    cases h
  calls c h := by
    obtain ⟨n, worker, hl, -⟩ := h
    cases hl
  recorded n c r h := by cases h
  peers teid peer h := by cases h
  control id teid h := by
    simp only [Gateway.control, World.s2bOf, Gateway.initial, hw] at h
    cases h

theorem drawn_kept (hd : ∀ id ip, a = .createSession id ip → g.freshDraw = true)
    {v : Session.ID × IP} (h : g.drawn.lookup teid = some v) :
    (g.step cfg a).drawn.lookup teid = some v := by
  rcases drawn_step cfg g a with he | ⟨id, ip, ha, he⟩
  · rw [he, h]
  have hf := hd id ip ha
  simp only [freshDraw, Option.isNone_iff_eq_none] at hf
  rw [he, Table.lookup_insert_ite, if_neg, h]
  grind

theorem History.step (h : History cfg g)
    (hd : ∀ id ip, a = .createSession id ip → g.freshDraw = true) :
    History cfg (g.step cfg a) where
  keyed := keyed_step h.keyed
  calls c hc := by
    rcases hc.of_step with hc | ⟨id, ip, ha, rfl⟩
    · exact drawn_kept hd (h.calls c hc)
    · subst ha
      simp [Gateway.step, spawn]
  recorded n c r hl := by
    have hw := workers_step cfg g a
    generalize (g.step cfg a).workers = ws, (g.step cfg a).next = next at hw hl
    cases hw with
    | same => exact h.recorded n c r hl
    | erase =>
      rw [Table.lookup_erase_ite] at hl
      split at hl
      · cases hl
      · exact h.recorded n c r hl
    | become _ ho | spawn ho =>
      rw [Table.lookup_insert_ite] at hl
      split at hl
      · cases hl
        cases ho with
        | recorded _ hr =>
          obtain ⟨-, -, hteid, -⟩ := parseCreateSessionResponse_spec hr
          exact hteid
      · exact h.recorded n c r hl
  peers teid peer hp := by
    have hs := peers_step cfg g a
    generalize (g.step cfg a).peers = peers at hs hp
    have hkeep (hold : g.peers.lookup teid = some peer) :
        ∃ id, (g.step cfg a).drawn.lookup teid = some (id, peer) := by
      obtain ⟨id, hdr⟩ := h.peers teid peer hold
      exact ⟨id, drawn_kept hd hdr⟩
    cases hs with
    | same => exact hkeep hp
    | erase t =>
      rw [Table.lookup_erase_ite] at hp
      simp_all
    | @insert n c resp r hl _ =>
      rw [Table.lookup_insert_ite] at hp
      split at hp
      · rename_i e
        cases hp
        subst e
        exact ⟨_, drawn_kept hd (h.calls c ⟨n, _, hl, rfl⟩)⟩
      · exact hkeep hp
  control id teid hc := by
    rcases control_of_step h.keyed hc with hc | ⟨n, -, c, r, hl, rfl, rfl⟩
    · obtain ⟨peer, hp⟩ := h.control id teid hc
      exact ⟨peer, drawn_kept hd hp⟩
    · rw [h.recorded n c r hl]
      exact ⟨_, drawn_kept hd (h.calls c ⟨n, _, hl, rfl⟩)⟩

end Gateway
end Epdg
