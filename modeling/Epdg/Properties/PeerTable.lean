import Epdg.Properties.RequestSource

/-!
Entries of `sessionPeers` against the life of a session.

The entry of a session is dropped when the ePDG asks the PGW to delete the PDN connection, and
when the PGW asks the ePDG to. A session also ends when the PGW deletes its default bearer, when
it is torn down after a handover took its S2b context away, or when its context has no EBI; then
the entry stays.
-/
namespace Epdg
open S2b Ikev2

def KeepsS2b (w w' : World) : Prop := ∀ id, w'.s2bOf id = w.s2bOf id

namespace KeepsS2b
variable {w w1 w2 : World}

theorem of_eq (h : w1.sessions = w.sessions) : KeepsS2b w w1 := by
  intro id
  rw [World.s2bOf, World.s2bOf, h]

theorem trans (h1 : KeepsS2b w w1) (h2 : KeepsS2b w1 w2) : KeepsS2b w w2 :=
  fun id => (h2 id).trans (h1 id)

theorem update (h : KeepsS2b w w1) (id : Session.ID) {f : Session.Session → Session.Session}
    (hf : ∀ s, (f s).s2b = s.s2b) :
    KeepsS2b w (w1.setSessions (w1.sessions.update id f)) := by
  refine h.trans fun id' => ?_
  simp only [World.s2bOf, World.setSessions_sessions, Session.Manager.get_update]
  split
  · rename_i e
    subst e
    cases w1.sessions.get id' with
    | none => rfl
    | some s => exact hf s
  · rfl

theorem getOrCreate (w : World) (id : Session.ID) :
    KeepsS2b w (w.setSessions (w.sessions.getOrCreate id)) := by
  intro id'
  simp only [World.s2bOf, World.setSessions_sessions, Session.Manager.get_getOrCreate]
  split
  · rename_i e
    subst e
    cases w.sessions.get id' <;> rfl
  · rfl

theorem cleanupSession (h : KeepsS2b w w1) (sess : Session.Session) :
    KeepsS2b w (cleanupSession w1 sess) := by
  simp only [Epdg.cleanupSession]
  split
  · exact h
  have h1 := h.update sess.id (f := (·.transition .cleaningUp)) (by simp)
  apply KeepsS2b.update _ _ (by simp)
  split
  · exact h1.trans (.of_eq rfl)
  · exact h1

theorem pgwCleanup (w : World) (strOpen : Bool) (sess : Session.Session) (isHandover : Bool) :
    KeepsS2b w (pgwCleanup w strOpen sess isHandover) := by
  have h1 : KeepsS2b w (if isHandover then w.emit (.handoverSignalled sess.id) else w) := by
    split <;> exact .of_eq rfl
  have h2 := h1.cleanupSession sess
  simp only [Epdg.pgwCleanup, terminateSession]
  split
  · split
    · exact h2.trans (.of_eq rfl)
    · exact h2
  · exact h2

theorem teardownBegin (w : World) (sess : Session.Session) :
    KeepsS2b w (teardownBegin w sess) := by
  have h : KeepsS2b w w := fun _ => rfl
  have h1 := h.update sess.id (f := (·.transition .cleaningUp)) (by simp)
  simp only [Epdg.teardownBegin]
  split
  · exact h1.trans (.of_eq rfl)
  · exact h1

theorem releases {touched : Session.ID → Prop} (h : Releases touched (fun _ => False) w w1) :
    KeepsS2b w w1 := by
  refine h.closed (fun _ => .of_eq rfl) .trans fun h1 => ?_
  cases h1 with
  | transition ht | removeSession ht | delete ht | clear ht => exact ht.elim
  | mark => exact update (.of_eq rfl) _ fun _ => rfl
  | _ => exact .of_eq rfl

end KeepsS2b

def Worker.removes (id : Session.ID) : Worker → Bool
  | .pgwRemove _ id' | .s2bDelete id' _ | .teardownEnd id' => id' = id
  | _ => false

def Worker.unrecorded (teid : UInt32) : Worker → Bool
  | .creating c | .answered c _ => c.localControl = teid
  | _ => false

def Worker.concerns (id : Session.ID) (teid : UInt32) : Worker → Bool
  | .creating c | .answered c _ | .recorded c _ => c.session = id || c.localControl = teid
  | .pgwDelete _ teid' _ => teid' = teid
  | .s2bDelete id' c => id' = id || c.localControlTEID = teid
  | .pgwRemove _ id' | .teardownEnd id' => id' = id

namespace Gateway
variable {n : Nat} {id : Session.ID} {teid : UInt32}

def busy (g : Gateway) (id : Session.ID) (teid : UInt32) : Bool :=
  g.workers.values.any (Worker.concerns id teid) ||
    g.reader.asks.map Prod.snd = some teid || g.reader.found.map Prod.snd = some id

def releases (g : Gateway) : GatewayAct → Bool
  | .createSession _ _ => g.freshDraw && !g.requested (nextTEID g.localControl)
  | .store n =>
    match g.workers.lookup n with
    | some (.recorded c _) =>
      (g.world.sessions.get c.session).isSome && (g.world.s2bOf c.session).isNone &&
        !g.workers.values.any (Worker.removes c.session)
    | _ => true
  | .handle _ _ =>
    match g.reader with
    | .request _ (.deleteSession teid _) => !g.workers.values.any (Worker.unrecorded teid)
    | .request _ (.deleteBearer teid ebis _) =>
      match (g.world.sessions.findByLocalControlTEID teid).bind Session.Session.s2b with
      | some c => c.ebi = 0 || !ebis.contains c.ebi
      | none => true
    | _ => true
  | .teardown id =>
    match g.world.s2bOf id with
    | some c => c.pgwControlTEID ≠ 0 && c.ebi ≠ 0
    | none => true
  | _ => true

variable {cfg : GatewayConfig} {g : Gateway} {a : GatewayAct}

theorem control_eq_of_keeps {w w' : World} (h : KeepsS2b w w') (id : Session.ID) :
    (w'.s2bOf id).map Session.S2BContext.localControlTEID =
      (w.s2bOf id).map Session.S2BContext.localControlTEID := by
  rw [h id]

theorem control_kept (hok : g.releases a = true) (h : g.control id = some teid) :
    (g.step cfg a).control id = some teid ∨
      (∃ n src, a = .remove n ∧ g.workers.lookup n = some (.pgwRemove src id)) ∨
      ∃ n, a = .finish n ∧ g.workers.lookup n = some (.teardownEnd id) := by
  have hkeep (hk : KeepsS2b g.world (g.step cfg a).world) :
      (g.step cfg a).control id = some teid := (control_eq_of_keeps hk id).trans h
  cases a with
  | store n =>
    simp only [step]
    split
    · rename_i c r hl
      simp only [releases, hl, Bool.and_eq_true, Option.isNone_iff_eq_none] at hok
      by_cases e : id = c.session
      · subst e
        simp only [control, hok.1.2] at h
        cases h
      · refine .inl ?_
        simp only [control, done, setWorld, s2bOf_stored, if_neg e]
        exact h
    · exact .inl h
  | remove n =>
    simp only [step]
    split
    · rename_i src id' hl
      by_cases e : id = id'
      · simp_all
      · refine .inl ?_
        simpa [control, done, setWorld, World.s2bOf, e] using h
    · exact .inl h
  | finish n =>
    simp only [step]
    split
    · rename_i id' hl
      by_cases e : id = id'
      · simp_all
      · refine .inl ?_
        simpa [control, done, setWorld, World.s2bOf, teardownFinish, e] using h
    · exact .inl h
  | handle sent faults =>
    refine .inl (hkeep ?_)
    simp only [step]
    split
    · rename_i src req hr
      cases req with
      | deleteSession teid' isHandover =>
        simp only [handleRequest]
        split <;> exact .of_eq rfl
      | createBearer ev => exact .of_eq rfl
      | deleteBearer teid' ebis isHandover =>
        have hkept : Releases (fun _ => True) (fun _ => False) g.world
            (g.handleRequest sent faults src (.deleteBearer teid' ebis isHandover)).world :=
          handlePGWDeleteBearer_releases (fun _ _ => trivial) fun sess c hf hs h0 hm => by
            simp [releases, hr, hf, hs, h0, hm] at hok
        exact .releases hkept
      | updateBearer teid' bearers =>
        simp only [handleRequest]
        split <;> exact .of_eq rfl
    · exact .of_eq rfl
  | cleanup n strOpen =>
    refine .inl (hkeep ?_)
    simp only [step]
    split
    · split
      · exact .of_eq rfl
      · exact KeepsS2b.pgwCleanup _ _ _ _
    · exact .of_eq rfl
  | teardown id' =>
    refine .inl (hkeep ?_)
    simp only [step, beginTeardown]
    split
    · exact .of_eq rfl
    rename_i sess _
    split
    · split <;> exact KeepsS2b.teardownBegin _ sess
    · exact KeepsS2b.teardownBegin _ sess
  | openSession id' => exact .inl (hkeep (KeepsS2b.getOrCreate _ _))
  | touch id' f keeps =>
    have h0 : KeepsS2b g.world g.world := fun _ => rfl
    exact .inl (hkeep (h0.update id' fun s => (keeps s).2))
  | install id' fault =>
    refine .inl (hkeep ?_)
    simp only [step, installBearer]
    split
    · exact .of_eq rfl
    split
    · exact .of_eq rfl
    rename_i m d _
    have h0 : KeepsS2b g.world (g.world.setGtpu m) := .of_eq rfl
    exact h0.update id' fun _ => rfl
  | createSession id' ip => exact .inl h
  | respond n resp | giveUp n | drop | deleted n | add draws =>
    refine .inl (hkeep ?_)
    simp only [step]
    split <;> exact .of_eq rfl
  | accept n | read src req | poll =>
    refine .inl (hkeep ?_)
    simp only [step, acceptResponse, pollSession]
    split
    · split <;> exact .of_eq rfl
    · exact .of_eq rfl

theorem lookup_of_step {worker : Worker} (h : (g.step cfg a).workers.lookup n = some worker) :
    g.workers.lookup n = some worker ∨ Origin cfg g a n worker := by
  have hw := workers_step cfg g a
  generalize (g.step cfg a).workers = ws, (g.step cfg a).next = next at hw h
  cases hw with
  | same => exact .inl h
  | erase =>
    rw [Table.lookup_erase_ite] at h
    simp_all
  | become _ ho | spawn ho =>
    rw [Table.lookup_insert_ite] at h
    grind

theorem peers_of_step {peer : IP} (h : (g.step cfg a).peers.lookup teid = some peer) :
    g.peers.lookup teid = some peer ∨ ∃ n c resp r,
      g.workers.lookup n = some (.answered c resp) ∧ c.localControl = teid ∧
      (g.step cfg a).workers = g.workers.insert n (.recorded c r) := by
  have hp := peers_step cfg g a
  generalize (g.step cfg a).peers = peers at hp h
  cases hp with
  | same => exact .inl h
  | erase t =>
    rw [Table.lookup_erase_ite] at h
    simp_all
  | @insert n c resp r hl hw =>
    rw [Table.lookup_insert_ite] at h
    grind

def Numbered (g : Gateway) : Prop := ∀ n worker, g.workers.lookup n = some worker → n < g.next

theorem Numbered.step (h : g.Numbered) : (g.step cfg a).Numbered := by
  intro n worker hl
  have hw := workers_step cfg g a
  generalize (g.step cfg a).workers = ws, (g.step cfg a).next = next at hw hl
  cases hw with
  | same => exact h n worker hl
  | erase =>
    rw [Table.lookup_erase_ite] at hl
    split at hl
    · cases hl
    · exact h n worker hl
  | become hold _ =>
    rw [Table.lookup_insert_ite] at hl
    split at hl
    · rename_i e
      subst e
      exact h n _ hold
    · exact h n worker hl
  | spawn _ =>
    rw [Table.lookup_insert_ite] at hl
    split at hl
    · omega
    · have := h n worker hl
      omega

theorem worker_kept (hn : g.Numbered) {old : Worker} (h : g.workers.lookup n = some old) :
    (g.step cfg a).workers.lookup n = some old ∨ Ends a n old ∨
      ∃ worker, Origin cfg g a n worker := by
  have hlt := hn n _ h
  have hw := workers_step cfg g a
  generalize (g.step cfg a).workers = ws, (g.step cfg a).next = next at hw
  cases hw with
  | same => exact .inl h
  | erase hold he =>
    rw [Table.lookup_erase_ite]
    grind
  | become hold ho =>
    rw [Table.lookup_insert_ite]
    grind
  | spawn _ =>
    rw [Table.lookup_insert_ite, if_neg (by omega)]
    exact .inl h

theorem recorded_kept (cfg : GatewayConfig) (a : GatewayAct) (hn : g.Numbered) {c : CreateCall}
    {r : CreateSessionResult} (h : g.workers.lookup n = some (.recorded c r)) :
    (g.step cfg a).workers.lookup n = some (.recorded c r) ∨ a = .store n := by
  rcases worker_kept hn h with hl | he | ⟨worker, ho⟩
  · exact .inl hl
  · exact .inr he
  cases ho with
  | creating | pgwDelete | s2bDelete | teardownEnd =>
    exact absurd (hn _ _ h) (Nat.lt_irrefl _)
  | answered hl | recorded hl | pgwRemove _ hl | deleted _ hl => simp_all

theorem s2bDelete_kept (cfg : GatewayConfig) (a : GatewayAct) (hn : g.Numbered)
    {c : Session.S2BContext} (h : g.workers.lookup n = some (.s2bDelete id c)) :
    (g.step cfg a).workers.lookup n = some (.s2bDelete id c) ∨ a = .deleted n := by
  rcases worker_kept hn h with hl | he | ⟨worker, ho⟩
  · exact .inl hl
  · exact he.elim
  cases ho with
  | creating | pgwDelete | s2bDelete | teardownEnd =>
    exact absurd (hn _ _ h) (Nat.lt_irrefl _)
  | answered hl | recorded hl | pgwRemove _ hl => simp_all
  | deleted ha => exact .inr ha

structure PeersInv (cfg : GatewayConfig) (g : Gateway) : Prop extends History cfg g where
  numbered : g.Numbered
  single : ∀ n n' worker worker' c c', g.workers.lookup n = some worker →
    g.workers.lookup n' = some worker' → worker.call = some c → worker'.call = some c' →
    c.localControl = c'.localControl → n = n'
  settled : ∀ id c, g.Calls c → g.control id ≠ some c.localControl
  owned : ∀ teid peer, g.peers.lookup teid = some peer →
    (∃ id, g.control id = some teid) ∨
    (∃ n c r, g.workers.lookup n = some (.recorded c r) ∧ c.localControl = teid) ∨
    ∃ n id c, g.workers.lookup n = some (.s2bDelete id c) ∧ c.localControlTEID = teid
  deleting : ∀ n src teid isHandover,
    g.workers.lookup n = some (.pgwDelete src teid isHandover) →
    g.peers.lookup teid = none ∧ ∀ m worker, g.workers.lookup m = some worker →
      worker.unrecorded teid = false
  removing : ∀ n src id, g.workers.lookup n = some (.pgwRemove src id) →
    ∀ teid, g.control id = some teid → g.peers.lookup teid = none
  ending : ∀ n id, g.workers.lookup n = some (.teardownEnd id) →
    ∀ teid, g.control id = some teid → g.peers.lookup teid = none
  tearing : ∀ n id c, g.workers.lookup n = some (.s2bDelete id c) →
    ∀ teid, g.control id = some teid → teid = c.localControlTEID

namespace PeersInv
variable {teid : UInt32} {n : Nat} {id : Session.ID} {worker : Worker} {c : CreateCall}
  {src : UDPAddr}

theorem initial {w : World} (hw : w.sessions = {}) : PeersInv cfg (Gateway.initial w) where
  toHistory := .initial hw
  numbered n worker h := by cases h
  single n _ worker _ _ _ h := by cases h
  settled id c h := by
    obtain ⟨n, worker, hl, -⟩ := h
    cases hl
  owned teid peer h := by cases h
  deleting n src teid isHandover h := by cases h
  removing n src id h := by cases h
  ending n id h := by cases h
  tearing n id c h := by cases h

theorem peers_none (h : PeersInv cfg g) (hc : g.control id = some teid)
    (hp : g.peers.lookup teid = none) : (g.step cfg a).peers.lookup teid = none := by
  by_contra hne
  obtain ⟨peer, hpeer⟩ := Option.ne_none_iff_exists'.mp hne
  rcases peers_of_step hpeer with hold | ⟨n, c, resp, r, hl, rfl, -⟩
  · simp_all
  · exact h.settled id c ⟨n, _, hl, rfl⟩ hc

theorem control_of_removed (h : PeersInv cfg g) (hok : g.releases a = true)
    (hl : g.workers.lookup n = some worker) (hr : worker.removes id = true)
    (hc : (g.step cfg a).control id = some teid) : g.control id = some teid := by
  rcases control_of_step h.keyed hc with hc | ⟨m, ha, c, r, hl', rfl, -⟩
  · exact hc
  subst ha
  simp only [releases, hl', Bool.and_eq_true, Bool.not_eq_true',
    List.any_eq_false] at hok
  exact absurd hr (hok.2 worker ((Table.mem_values _ _).mpr ⟨n, hl⟩))

theorem call_of_step (hl : (g.step cfg a).workers.lookup n = some worker)
    (hc : worker.call = some c) : (∃ old, g.workers.lookup n = some old ∧ old.call = some c) ∨
      n = g.next ∧ ∃ id ip, a = .createSession id ip ∧
        c = ⟨id, ip, nextTEID g.localControl, nextTEID g.localUser⟩ := by
  rcases lookup_of_step hl with hl | ho
  · simp_all
  cases ho with
  | creating ha =>
    cases hc
    simp_all
  | answered hold | recorded hold => exact .inl ⟨_, hold, hc⟩
  | pgwDelete | pgwRemove | s2bDelete | teardownEnd | deleted => cases hc

theorem fresh_of_releases (hok : g.releases a = true) :
    ∀ id ip, a = .createSession id ip → g.freshDraw = true := by
  rintro id ip rfl
  exact (Bool.and_eq_true_iff.mp hok).1

theorem next_not_drawn (h : PeersInv cfg g) (hf : g.freshDraw = true)
    (hl : g.workers.lookup n = some worker) (hc : worker.call = some c)
    : c.localControl ≠ nextTEID g.localControl := by
  intro e
  have hd := h.calls c ⟨n, worker, hl, hc⟩
  simp only [freshDraw, Option.isNone_iff_eq_none] at hf
  grind

section
variable (h : PeersInv cfg g) (hok : g.releases a = true)
include h hok

theorem single_step {n' : Nat} {worker' : Worker} {c' : CreateCall}
    (hl : (g.step cfg a).workers.lookup n = some worker)
    (hl' : (g.step cfg a).workers.lookup n' = some worker') (hc : worker.call = some c)
    (hc' : worker'.call = some c') (he : c.localControl = c'.localControl) : n = n' := by
  have hf := fresh_of_releases hok
  rcases call_of_step hl hc with ⟨old, hold, hc⟩ | ⟨hn, id, ip, ha, rfl⟩
  · rcases call_of_step hl' hc' with ⟨old', hold', hc'⟩ | ⟨-, id, ip, ha, rfl⟩
    · exact h.single n n' old old' c c' hold hold' hc hc' he
    · exact absurd he (h.next_not_drawn (hf id ip ha) hold hc)
  · rcases call_of_step hl' hc' with ⟨old', hold', hc'⟩ | ⟨hn', -⟩
    · exact absurd he.symm (h.next_not_drawn (hf id ip ha) hold' hc')
    · rw [hn, hn']

theorem settled_step (hc : (g.step cfg a).Calls c) :
    (g.step cfg a).control id ≠ some c.localControl := by
  intro hctl
  obtain ⟨n, worker, hl, hcall⟩ := hc
  rcases control_of_step h.keyed hctl with hctl | ⟨m, rfl, c0, r0, hm, -, hteid⟩
  · rcases call_of_step hl hcall with ⟨old, hold, hc⟩ | ⟨-, id', ip, ha, rfl⟩
    · exact h.settled id c ⟨n, old, hold, hc⟩ hctl
    obtain ⟨peer, hd⟩ := h.control id _ hctl
    have hf := fresh_of_releases hok id' ip ha
    simp only [freshDraw, Option.isNone_iff_eq_none] at hf
    simp_all
  · -- The call that is stored here drew the TEID, and its worker ends.
    rcases call_of_step hl hcall with ⟨old, hold, hc⟩ | ⟨-, id', ip, ha, -⟩
    · rw [h.recorded m c0 r0 hm] at hteid
      obtain rfl := h.single n m old _ c c0 hold hm hc rfl hteid.symm
      simp only [Gateway.step, hm, done, Table.lookup_erase_ite, if_true] at hl
      cases hl
    · cases ha

theorem owned_step {peer : IP} (hp : (g.step cfg a).peers.lookup teid = some peer) :
    (∃ id, (g.step cfg a).control id = some teid) ∨
    (∃ n c r, (g.step cfg a).workers.lookup n = some (.recorded c r) ∧
      c.localControl = teid) ∨
    ∃ n id c, (g.step cfg a).workers.lookup n = some (.s2bDelete id c) ∧
      c.localControlTEID = teid := by
  rcases peers_of_step hp with hold | ⟨n, c, resp, r, -, ht, hw⟩
  · rcases h.owned teid peer hold with ⟨id, hc⟩ | ⟨n, c, r, hl, ht⟩ | ⟨n, id, c, hl, ht⟩
    · rcases control_kept hok hc with hc | ⟨n, src, -, hl⟩ | ⟨n, -, hl⟩
      · exact .inl ⟨id, hc⟩
      · have hnone := h.removing n src id hl teid hc
        simp_all
      · have hnone := h.ending n id hl teid hc
        simp_all
    · rcases recorded_kept cfg a h.numbered hl with hl | rfl
      · grind
      simp only [releases, hl, Bool.and_eq_true] at hok
      obtain ⟨s, hs⟩ := Option.isSome_iff_exists.mp hok.1.1
      refine .inl ⟨c.session, ?_⟩
      simp only [Gateway.step, hl, Gateway.control, done, setWorld, s2bOf_stored, if_true, hs,
        Option.map_some]
      exact congrArg some ((h.recorded n c r hl).trans ht)
    · rcases s2bDelete_kept cfg a h.numbered hl with hl | rfl
      · grind
      · simp only [Gateway.step, hl, become, ht, Table.lookup_erase_ite, if_true] at hp
        cases hp
  · refine .inr (.inl ⟨n, c, r, ?_, ht⟩)
    simp_all

end

theorem unrecorded_of_step {m : Nat} (hl : (g.step cfg a).workers.lookup m = some worker)
    (hu : worker.unrecorded teid = true) :
    (∃ old, g.workers.lookup m = some old ∧ old.unrecorded teid = true) ∨
      ∃ id ip, a = .createSession id ip ∧ teid = nextTEID g.localControl := by
  rcases lookup_of_step hl with hl | ho
  · simp_all
  cases ho with
  | creating ha => exact .inr ⟨_, _, ha, (of_decide_eq_true hu).symm⟩
  | answered hold => exact .inl ⟨_, hold, hu⟩
  | recorded | pgwDelete | pgwRemove | s2bDelete | teardownEnd | deleted => cases hu

section
variable (h : PeersInv cfg g) (hok : g.releases a = true)
include h hok

theorem deleting_step {isHandover : Bool}
    (hl : (g.step cfg a).workers.lookup n = some (.pgwDelete src teid isHandover)) :
    (g.step cfg a).peers.lookup teid = none ∧
      ∀ m worker, (g.step cfg a).workers.lookup m = some worker →
        worker.unrecorded teid = false := by
  have hbefore : g.Requests src teid ∧ ∀ m worker, g.workers.lookup m = some worker →
      worker.unrecorded teid = false := by
    rcases lookup_of_step hl with hl | ho
    · exact ⟨.inr ⟨n, _, hl, rfl⟩, (h.deleting n src teid isHandover hl).2⟩
    cases ho with
    | pgwDelete ha hr =>
      subst ha
      simp only [releases, hr, Bool.not_eq_true', List.any_eq_false] at hok
      refine ⟨.inl (by rw [hr]; rfl), fun m worker hm => ?_⟩
      exact Bool.of_not_eq_true (hok worker ((Table.mem_values _ _).mpr ⟨m, hm⟩))
  refine ⟨?_, fun m worker hm => ?_⟩
  · by_contra hne
    obtain ⟨peer, hpeer⟩ := Option.ne_none_iff_exists'.mp hne
    rcases peers_of_step hpeer with hold | ⟨m, c, resp, r, hm, ht, -⟩
    · rcases lookup_of_step hl with hl | ho
      · rw [(h.deleting n src teid isHandover hl).1] at hold
        cases hold
      cases ho with
      | pgwDelete ha hr =>
        subst ha
        simp [Gateway.step, hr, handleRequest, spawn] at hpeer
    · have hu := hbefore.2 m _ hm
      simp only [Worker.unrecorded, ht, decide_true] at hu
      cases hu
  · by_contra hu
    rcases unrecorded_of_step hm (Bool.of_not_eq_false hu) with ⟨old, hold, hu⟩ | ⟨id, ip, ha, ht⟩
    · grind
    subst ha
    have hnot := (Bool.and_eq_true_iff.mp hok).2
    rw [← ht, requested_of hbefore.1] at hnot
    cases hnot

theorem removing_step (hl : (g.step cfg a).workers.lookup n = some (.pgwRemove src id))
    (hc : (g.step cfg a).control id = some teid) : (g.step cfg a).peers.lookup teid = none := by
  rcases lookup_of_step hl with hl | ho
  · have hold := h.control_of_removed hok hl (by simp [Worker.removes]) hc
    exact h.peers_none hold (h.removing n src id hl teid hold)
  cases ho with
  | @pgwRemove _ _ _ teid' isHandover sess ha hl' hf =>
    -- The request found the session, so its TEID is the session's.
    have hfound := control_of_find h.keyed hf
    rcases control_of_step h.keyed hc with hold | ⟨m, ha', -⟩
    · rw [hfound] at hold
      cases hold
      exact h.peers_none hfound (h.deleting n src _ isHandover hl').1
    · simp_all

theorem ending_step (hl : (g.step cfg a).workers.lookup n = some (.teardownEnd id))
    (hc : (g.step cfg a).control id = some teid) : (g.step cfg a).peers.lookup teid = none := by
  rcases lookup_of_step hl with hl | ho
  · have hold := h.control_of_removed hok hl (by simp [Worker.removes]) hc
    exact h.peers_none hold (h.ending n id hl teid hold)
  cases ho with
  | @teardownEnd _ sess ha hget hs =>
    subst ha
    rcases control_of_step h.keyed hc with hold | ⟨m, ha, -⟩
    · obtain ⟨c, hctx, -⟩ := Option.map_eq_some_iff.mp hold
      have hc' : sess.s2b = some c := by
        simpa only [World.s2bOf, hget, Option.bind_some] using hctx
      simp only [releases, hctx, Bool.and_eq_true, decide_eq_true_eq] at hok
      simp_all
    · cases ha
  | @deleted _ _ c ha hl' =>
    subst ha
    have hold := h.control_of_removed hok hl' (by simp [Worker.removes]) hc
    obtain rfl := h.tearing n id c hl' teid hold
    simp [Gateway.step, hl', become]

theorem tearing_step {c : Session.S2BContext}
    (hl : (g.step cfg a).workers.lookup n = some (.s2bDelete id c))
    (hc : (g.step cfg a).control id = some teid) : teid = c.localControlTEID := by
  rcases lookup_of_step hl with hl | ho
  · exact h.tearing n id c hl teid (h.control_of_removed hok hl (by simp [Worker.removes]) hc)
  cases ho with
  | @s2bDelete _ sess _ ha hget hs =>
    subst ha
    rcases control_of_step h.keyed hc with hold | ⟨m, ha, -⟩
    · simp only [Gateway.control, World.s2bOf, hget, Option.bind_some, hs, Option.map_some,
        Option.some.injEq] at hold
      exact hold.symm
    · cases ha

theorem step : PeersInv cfg (g.step cfg a) where
  toHistory := h.toHistory.step (fresh_of_releases hok)
  numbered := h.numbered.step
  single _ _ _ _ _ _ hl hl' hc hc' he := h.single_step hok hl hl' hc hc' he
  settled _ _ hc := h.settled_step hok hc
  owned _ _ hp := h.owned_step hok hp
  deleting _ _ _ _ hl := h.deleting_step hok hl
  removing _ _ _ hl _ hc := h.removing_step hok hl hc
  ending _ _ hl _ hc := h.ending_step hok hl hc
  tearing _ _ _ hl _ hc := h.tearing_step hok hl hc

end

end PeersInv

/-- In every run whose steps meet the condition, a session that is gone has no entry, once the
handlers that were about it have finished. -/
theorem removed_session_unlisted {w : World} (hw : w.sessions = {}) {acts : List GatewayAct}
    (hg : Machine.Guarded (step cfg) (fun g a => g.releases a = true) (initial w) acts)
    {id : Session.ID} {teid : UInt32} {peer : IP}
    (hd : (runFrom cfg (initial w) acts).drawn.lookup teid = some (id, peer))
    (hgone : (runFrom cfg (initial w) acts).world.sessions.get id = none)
    (hidle : (runFrom cfg (initial w) acts).busy id teid = false) :
    (runFrom cfg (initial w) acts).peers.lookup teid = none := by
  have hinv : PeersInv cfg (runFrom cfg (initial w) acts) :=
    hg.invariant (PeersInv cfg) (fun g a hi hok => hi.step hok) (.initial hw)
  generalize runFrom cfg (initial w) acts = g at hd hgone hidle hinv
  simp only [busy, Bool.or_eq_false_iff, List.any_eq_false] at hidle
  by_contra hne
  obtain ⟨p, hp⟩ := Option.ne_none_iff_exists'.mp hne
  rcases hinv.owned teid p hp with ⟨id', hc⟩ | ⟨n, c, r, hl, ht⟩ | ⟨n, id', c, hl, ht⟩
  · obtain ⟨peer', hd'⟩ := hinv.control id' teid hc
    rw [hd] at hd'
    cases hd'
    simp only [control, World.s2bOf, hgone, Option.bind_none] at hc
    cases hc
  · exact hidle.1.1 _ ((Table.mem_values _ _).mpr ⟨n, hl⟩) (by simp [Worker.concerns, ht])
  · exact hidle.1.1 _ ((Table.mem_values _ _).mpr ⟨n, hl⟩) (by simp [Worker.concerns, ht])

section Runs

def tornDown : List GatewayAct :=
  creating ++ completing ++ [.teardown attachedID, .deleted 1, .finish 1]

theorem torn_down_unlisted :
    (runFrom strictGateway gatewayStart tornDown).drawn.lookup 1 =
        some (attachedID, configuredPGW) ∧
      (runFrom strictGateway gatewayStart tornDown).peers.lookup 1 = none := by
  have hrun : Machine.checks (step strictGateway) releases gatewayStart tornDown = true ∧
      (runFrom strictGateway gatewayStart tornDown).drawn.lookup 1 =
        some (attachedID, configuredPGW) ∧
      (runFrom strictGateway gatewayStart tornDown).world.sessions.get attachedID = none ∧
      (runFrom strictGateway gatewayStart tornDown).busy attachedID 1 = false := by
    decide +kernel
  exact ⟨hrun.2.1, removed_session_unlisted rfl (.of_checks (fun _ _ h => h) hrun.1) hrun.2.1
    hrun.2.2.1 hrun.2.2.2⟩

def defaultBearerDeleted : List GatewayAct :=
  creating ++ completing ++
    [.read trustedPGW (.deleteBearer 1 [5] false), .handle true fun _ => false]

/-- The session is gone and nothing is left to do, but its TEID is still listed. -/
theorem deleted_session_listed :
    (runFrom strictGateway gatewayStart defaultBearerDeleted).drawn.lookup 1 =
        some (attachedID, configuredPGW) ∧
      (runFrom strictGateway gatewayStart defaultBearerDeleted).world.sessions.get attachedID =
        none ∧
      attachedID ∈
        (runFrom strictGateway gatewayStart defaultBearerDeleted).world.sessions.deleted ∧
      (runFrom strictGateway gatewayStart defaultBearerDeleted).busy attachedID 1 = false ∧
      (runFrom strictGateway gatewayStart defaultBearerDeleted).peers.lookup 1 =
        some configuredPGW := by
  decide +kernel

end Runs
end Gateway
end Epdg
