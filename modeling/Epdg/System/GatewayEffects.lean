import Epdg.System.Gateway
import Epdg.System.Sessions

/-!
What one step of the gateway can do: which session it touches and on whose behalf, where the
workers and the state of the read loop come from, and how the table of trusted peers grows.
-/
namespace Epdg
open S2b Ikev2

def World.s2bOf (w : World) (id : Session.ID) : Option Session.S2BContext :=
  (w.sessions.get id).bind Session.Session.s2b

structure TouchesOnly (id : Session.ID) (w w' : World) : Prop where
  sessions : ∀ id', id' ≠ id → w'.sessions.get id' = w.sessions.get id'
  gtpu : Gtpu.Manager.OnlyAt id w.gtpu w'.gtpu
  s2b : ∀ c, w'.s2bOf id = some c → w.s2bOf id = some c
  keyed : w.sessions.Keyed → w'.sessions.Keyed

namespace TouchesOnly
variable {id : Session.ID} {w w1 w2 : World}

theorem of_eq (hs : w1.sessions = w.sessions) (hg : Gtpu.Manager.OnlyAt id w.gtpu w1.gtpu) :
    TouchesOnly id w w1 where
  sessions id' _ := by rw [hs]
  gtpu := hg
  s2b c h := by rwa [World.s2bOf, hs] at h
  keyed h := hs ▸ h

theorem refl (w : World) : TouchesOnly id w w := of_eq rfl (.refl _)

theorem trans (h1 : TouchesOnly id w w1) (h2 : TouchesOnly id w1 w2) : TouchesOnly id w w2 where
  sessions id' hne := (h2.sessions id' hne).trans (h1.sessions id' hne)
  gtpu := h1.gtpu.trans h2.gtpu
  s2b c h := h1.s2b c (h2.s2b c h)
  keyed h := h2.keyed (h1.keyed h)

section
variable (h : TouchesOnly id w w1)
include h

theorem setGtpu {m : Gtpu.Manager} (hm : Gtpu.Manager.OnlyAt id w1.gtpu m) :
    TouchesOnly id w (w1.setGtpu m) :=
  h.trans (of_eq rfl hm)

theorem emit (e : Event) : TouchesOnly id w (w1.emit e) :=
  h.trans (of_eq rfl (.refl _))

theorem update {f : Session.Session → Session.Session} (hid : ∀ s, (f s).id = s.id)
    (hs : ∀ s, (f s).s2b = s.s2b ∨ (f s).s2b = none) :
    TouchesOnly id w (w1.setSessions (w1.sessions.update id f)) := by
  refine h.trans ⟨fun id' hne => ?_, .refl _, fun c hc => ?_, fun hk => hk.update hid⟩
  · simp_all
  · simp only [World.s2bOf, World.setSessions_sessions, Session.Manager.get_update,
      if_true] at hc ⊢
    cases hg : w1.sessions.get id with
    | none => simp_all
    | some s => grind

theorem transition (next : Session.State) :
    TouchesOnly id w (w1.setSessions (w1.sessions.update id (·.transition next))) :=
  h.update (by simp) (by simp)

theorem delete : TouchesOnly id w (w1.setSessions (w1.sessions.delete id)) := by
  refine h.trans ⟨fun id' hne => ?_, .refl _, fun c hc => ?_, fun hk => hk.delete⟩
  · simp_all
  · simp [World.s2bOf] at hc

theorem getOrCreate : TouchesOnly id w (w1.setSessions (w1.sessions.getOrCreate id)) := by
  refine h.trans ⟨fun id' hne => ?_, .refl _, fun c hc => ?_, fun hk => hk.getOrCreate⟩
  · simp only [World.setSessions_sessions, Session.Manager.get_getOrCreate, if_neg hne]
  · simp only [World.s2bOf, World.setSessions_sessions, Session.Manager.get_getOrCreate,
      if_true, Option.bind_some] at hc ⊢
    cases hg : w1.sessions.get id with
    | none => simp_all
    | some s => rwa [hg] at hc

end

end TouchesOnly

section Handlers
variable {w w' : World} {sess : Session.Session}

theorem Releases.touches {id : Session.ID} (h : Releases (· = id) (· = id) w w') :
    TouchesOnly id w w' := by
  refine h.closed .refl .trans fun {w w'} h1 => ?_
  have h0 : TouchesOnly id w w := .refl w
  cases h1 with
  | transition ht => exact ht ▸ h0.transition _
  | removeSession ht => exact ht ▸ h0.setGtpu (Gtpu.Manager.removeSession_onlyAt _ _)
  | delete ht => exact ht ▸ h0.delete
  | clear ht =>
    cases ht
    exact h0.update (fun _ => rfl) fun _ => .inr rfl
  | mark ht =>
    cases ht
    exact h0.update (fun _ => rfl) fun _ => .inl rfl
  | removeBearer ht => exact ht ▸ h0.setGtpu (Gtpu.Manager.removeBearer_onlyAt _ _ _ _)
  | emit => exact h0.emit _
  | erase => exact .of_eq rfl (.refl _)

theorem pgwCleanup_releases (w : World) (strOpen : Bool) (sess : Session.Session)
    (isHandover : Bool) :
    Releases (· = sess.id) (· = sess.id) w (pgwCleanup w strOpen sess isHandover) := by
  have h1 : Releases (· = sess.id) (· = sess.id) w
      (if isHandover then w.emit (.handoverSignalled sess.id) else w) := by
    split
    · exact .single (.emit rfl)
    · exact .refl
  have h2 := h1.trans (cleanupSession_releases _ rfl)
  simp only [pgwCleanup]
  split
  · exact h2.trans (terminateSession_releases _ _ _ _ _)
  · exact h2

theorem handlePGWDeleteBearer_touches {teid : UInt32}
    (hf : w.sessions.findByLocalControlTEID teid = some sess) (tftFault : UInt8 → Bool)
    (isHandover : Bool) (ebis : List UInt8) :
    TouchesOnly sess.id w (handlePGWDeleteBearer w tftFault teid ebis isHandover) := by
  have hid (s : Session.Session) (h : w.sessions.findByLocalControlTEID teid = some s) :
      s.id = sess.id := by
    simp_all
  exact (handlePGWDeleteBearer_releases hid fun s _ h _ _ _ => hid s h).touches

theorem teardownBegin_releases (w : World) (sess : Session.Session) :
    Releases (· = sess.id) (· = sess.id) w (teardownBegin w sess) := by
  have h : Releases (· = sess.id) (· = sess.id) w (w.setSessions (w.sessions.update sess.id
      (·.transition .cleaningUp))) := .single (.transition (by rfl) (.inl rfl))
  simp only [teardownBegin]
  split
  · exact h.tail (.removeSession rfl)
  · exact h

theorem teardownFinish_touches (w : World) (id : Session.ID) :
    TouchesOnly id w (teardownFinish w id) :=
  ((TouchesOnly.refl w).transition .deleted).delete

end Handlers

def Worker.call : Worker → Option CreateCall
  | .creating c | .answered c _ | .recorded c _ => some c
  | _ => none

def Worker.asks : Worker → Option (UDPAddr × UInt32)
  | .pgwDelete src teid _ => some (src, teid)
  | _ => none

def Worker.found : Worker → Option (UDPAddr × Session.ID)
  | .pgwRemove src id => some (src, id)
  | _ => none

def ReadLoop.asks : ReadLoop → Option (UDPAddr × UInt32)
  | .request src req => some (src, req.teid)
  | .polling src ev _ => some (src, ev.localControlTEID)
  | _ => none

def ReadLoop.found : ReadLoop → Option (UDPAddr × Session.ID)
  | .adding src id _ _ _ => some (src, id)
  | _ => none

namespace Gateway
variable {g : Gateway} {teid : UInt32} {sess : Session.Session}

def control (g : Gateway) (id : Session.ID) : Option UInt32 :=
  (g.world.s2bOf id).map Session.S2BContext.localControlTEID

def Calls (g : Gateway) (c : CreateCall) : Prop := g.workers.Any (·.call = some c)

def Requests (g : Gateway) (src : UDPAddr) (teid : UInt32) : Prop :=
  g.reader.asks = some (src, teid) ∨ g.workers.Any (·.asks = some (src, teid))

def Found (g : Gateway) (src : UDPAddr) (id : Session.ID) : Prop :=
  g.reader.found = some (src, id) ∨ g.workers.Any (·.found = some (src, id))

def source (g : Gateway) : GatewayAct → Option UDPAddr
  | .handle _ _ | .poll | .add _ =>
    match g.reader with
    | .request src _ | .polling src _ _ | .adding src _ _ _ _ => some src
    | .idle => none
  | .cleanup n _ | .remove n =>
    match g.workers.lookup n with
    | some (.pgwDelete src _ _) | some (.pgwRemove src _) => some src
    | _ => none
  | _ => none

inductive Origin (cfg : GatewayConfig) (g : Gateway) (a : GatewayAct) : Nat → Worker → Prop
  | creating {id ip} (ha : a = .createSession id ip) :
      Origin cfg g a g.next
        (.creating ⟨id, ip, nextTEID g.localControl, nextTEID g.localUser⟩)
  | answered {n c resp} (h : g.workers.lookup n = some (.creating c)) :
      Origin cfg g a n (.answered c resp)
  | recorded {n c resp r} (h : g.workers.lookup n = some (.answered c resp))
      (hr : parseCreateSessionResponse cfg.s2b resp c.localControl c.localUser = some r) :
      Origin cfg g a n (.recorded c r)
  | pgwDelete {faults src teid isHandover} (ha : a = .handle true faults)
      (h : g.reader = .request src (.deleteSession teid isHandover)) :
      Origin cfg g a g.next (.pgwDelete src teid isHandover)
  | pgwRemove {n strOpen src teid isHandover sess} (ha : a = .cleanup n strOpen)
      (h : g.workers.lookup n = some (.pgwDelete src teid isHandover))
      (hf : g.world.sessions.findByLocalControlTEID teid = some sess) :
      Origin cfg g a n (.pgwRemove src sess.id)
  | s2bDelete {id sess c} (ha : a = .teardown id) (h : g.world.sessions.get id = some sess)
      (hc : sess.s2b = some c) : Origin cfg g a g.next (.s2bDelete id c)
  | teardownEnd {id sess} (ha : a = .teardown id) (h : g.world.sessions.get id = some sess)
      (hc : ∀ c, sess.s2b = some c → ¬(c.pgwControlTEID ≠ 0 ∧ c.ebi ≠ 0)) :
      Origin cfg g a g.next (.teardownEnd id)
  | deleted {n id c} (ha : a = .deleted n) (h : g.workers.lookup n = some (.s2bDelete id c)) :
      Origin cfg g a n (.teardownEnd id)

def Ends (a : GatewayAct) (n : Nat) : Worker → Prop
  | .recorded _ _ => a = .store n
  | .s2bDelete _ _ => False
  | _ => True

inductive WorkersStep (cfg : GatewayConfig) (g : Gateway) (a : GatewayAct) :
    Table Nat Worker → Nat → Prop
  | same : WorkersStep cfg g a g.workers g.next
  | erase {n old} (hold : g.workers.lookup n = some old) (he : Ends a n old) :
      WorkersStep cfg g a (g.workers.erase n) g.next
  | become {n old worker} (hold : g.workers.lookup n = some old)
      (h : Origin cfg g a n worker) : WorkersStep cfg g a (g.workers.insert n worker) g.next
  | spawn {worker} (h : Origin cfg g a g.next worker) :
      WorkersStep cfg g a (g.workers.insert g.next worker) (g.next + 1)

theorem workers_step (cfg : GatewayConfig) (g : Gateway) (a : GatewayAct) :
    WorkersStep cfg g a (g.step cfg a).workers (g.step cfg a).next := by
  cases a with
  | createSession id ip => exact .spawn (.creating rfl)
  | respond n resp =>
    simp only [step]
    split
    · rename_i c h _
      exact .become h (.answered h)
    · exact .same
  | giveUp n =>
    simp only [step]
    split
    · rename_i h
      exact .erase h trivial
    · exact .same
  | accept n =>
    simp only [step, acceptResponse]
    split
    · rename_i c resp h
      cases hr : parseCreateSessionResponse cfg.s2b resp c.localControl c.localUser with
      | none => exact .erase h trivial
      | some r => exact .become h (.recorded h hr)
    · exact .same
  | store n =>
    simp only [step]
    split
    · rename_i h
      exact .erase h rfl
    · exact .same
  | read src req =>
    simp only [step]
    split
    · split <;> exact .same
    · exact .same
  | drop =>
    simp only [step]
    split <;> exact .same
  | handle sent faults =>
    simp only [step]
    split
    · rename_i src req h
      cases req with
      | deleteSession teid isHandover =>
        cases sent with
        | true => exact .spawn (.pgwDelete rfl h)
        | false => exact .same
      | createBearer ev => exact .same
      | deleteBearer teid ebis isHandover => exact .same
      | updateBearer teid bearers =>
        simp only [handleRequest]
        split <;> exact .same
    · exact .same
  | poll =>
    simp only [step, pollSession]
    split
    · split <;> exact .same
    · exact .same
  | add draws =>
    simp only [step]
    split <;> exact .same
  | cleanup n strOpen =>
    simp only [step]
    split
    · rename_i src teid isHandover h
      split
      · exact .erase h trivial
      · rename_i sess hf
        exact .become h (.pgwRemove rfl h hf)
    · exact .same
  | remove n =>
    simp only [step]
    split
    · rename_i h
      exact .erase h trivial
    · exact .same
  | teardown id =>
    simp only [step, beginTeardown]
    split
    · exact .same
    rename_i sess h
    split
    · rename_i c hc
      split
      · exact .spawn (.s2bDelete rfl h hc)
      rename_i hne
      refine .spawn (.teardownEnd rfl h fun c' hc' => ?_)
      simp_all
    · rename_i hc
      refine .spawn (.teardownEnd rfl h fun c' hc' => ?_)
      simp_all
  | deleted n =>
    simp only [step]
    split
    · rename_i id c h
      exact .become h (.deleted rfl h)
    · exact .same
  | finish n =>
    simp only [step]
    split
    · rename_i h
      exact .erase h trivial
    · exact .same
  | openSession id => exact .same
  | touch id f keeps => exact .same
  | install id fault =>
    simp only [step, installBearer]
    split
    · exact .same
    · split <;> exact .same

inductive ReaderStep (cfg : GatewayConfig) (g : Gateway) (a : GatewayAct) : ReadLoop → Prop
  | same : ReaderStep cfg g a g.reader
  | idle : ReaderStep cfg g a .idle
  | request {src req} (ha : a = .read src req) (h : g.admits cfg.s2b src req.teid = true) :
      ReaderStep cfg g a (.request src req)
  | polling {src ev} (attempts : Nat)
      (h : g.reader.asks = some (src, ev.localControlTEID)) :
      ReaderStep cfg g a (.polling src ev attempts)
  | finds {src teid sess defaultEBI todo result} (h : g.reader.asks = some (src, teid))
      (hf : g.world.sessions.findByLocalControlTEID teid = some sess) :
      ReaderStep cfg g a (.adding src sess.id defaultEBI todo result)
  | adding {src id defaultEBI todo result} (h : g.reader.found = some (src, id)) :
      ReaderStep cfg g a (.adding src id defaultEBI todo result)

theorem reader_step (cfg : GatewayConfig) (g : Gateway) (a : GatewayAct) :
    ReaderStep cfg g a (g.step cfg a).reader := by
  cases a with
  | createSession id ip => exact .same
  | respond n resp =>
    simp only [step]
    split <;> exact .same
  | giveUp n | store n | remove n | deleted n | finish n =>
    simp only [step]
    split <;> exact .same
  | accept n =>
    simp only [step, acceptResponse]
    split
    · split <;> exact .same
    · exact .same
  | read src req =>
    simp only [step]
    split
    · split
      · rename_i h
        exact .request rfl h
      · exact .same
    · exact .same
  | drop =>
    simp only [step]
    split
    · exact .idle
    · exact .same
  | handle sent faults =>
    simp only [step]
    split
    · rename_i src req h
      cases req with
      | deleteSession teid isHandover =>
        simp only [handleRequest]
        split <;> exact .idle
      | createBearer ev => exact .polling 0 (by rw [h]; rfl)
      | deleteBearer teid ebis isHandover => exact .idle
      | updateBearer teid bearers =>
        simp only [handleRequest]
        split <;> exact .idle
    · exact .same
  | poll =>
    simp only [step, pollSession]
    split
    · rename_i src ev attempts h
      have hr : g.reader.asks = some (src, ev.localControlTEID) := by rw [h]; rfl
      split
      · rename_i sess hf
        exact .finds hr hf
      split
      · exact .polling _ hr
      · exact .idle
    · exact .same
  | add draws =>
    simp only [step]
    split
    · exact .idle
    · rename_i src id defaultEBI b todo result h
      exact .adding (by rw [h]; rfl)
    · exact .same
  | cleanup n strOpen =>
    simp only [step]
    split
    · split <;> exact .same
    · exact .same
  | teardown id =>
    simp only [step, beginTeardown]
    split
    · exact .same
    split
    · split <;> exact .same
    · exact .same
  | openSession id => exact .same
  | touch id f keeps => exact .same
  | install id fault =>
    simp only [step, installBearer]
    split
    · exact .same
    · split <;> exact .same

inductive WorldStep (g : Gateway) (a : GatewayAct) : World → Prop
  | same : WorldStep g a g.world
  | store {n c r} (ha : a = .store n) (h : g.workers.lookup n = some (.recorded c r)) :
      WorldStep g a (g.world.updateSession (some c.session) (sessionS2b r))
  | own {id w} (ht : TouchesOnly id g.world w) (hs : g.source a = none) : WorldStep g a w
  | asked {id w src teid} (ht : TouchesOnly id g.world w) (hs : g.source a = some src)
      (hr : g.Requests src teid) (hc : g.control id = some teid) : WorldStep g a w
  | found {id w src} (ht : TouchesOnly id g.world w) (hs : g.source a = some src)
      (hf : g.Found src id) : WorldStep g a w

theorem control_of_find (hk : g.world.sessions.Keyed)
    (hf : g.world.sessions.findByLocalControlTEID teid = some sess) :
    g.control sess.id = some teid := by
  obtain ⟨hget, c, hc, hteid⟩ := Session.Manager.findByLocalControlTEID_keyed hk hf
  simp only [control, World.s2bOf, hget, Option.bind_some, hc, Option.map_some, hteid]

theorem world_step (cfg : GatewayConfig) (hk : g.world.sessions.Keyed) (a : GatewayAct)
    : WorldStep g a (g.step cfg a).world := by
  cases a with
  | createSession id ip => exact .same
  | respond n resp =>
    simp only [step]
    split <;> exact .same
  | giveUp n =>
    simp only [step]
    split <;> exact .same
  | accept n =>
    simp only [step, acceptResponse]
    split
    · split <;> exact .same
    · exact .same
  | store n =>
    simp only [step]
    split
    · rename_i c r h
      exact .store rfl h
    · exact .same
  | read src req =>
    simp only [step]
    split
    · split <;> exact .same
    · exact .same
  | drop =>
    simp only [step]
    split <;> exact .same
  | handle sent faults =>
    simp only [step]
    split
    · rename_i src req h
      have hs : g.source (.handle sent faults) = some src := by simp only [source, h]
      have hr : g.Requests src req.teid := .inl (by rw [h]; rfl)
      cases req with
      | deleteSession teid isHandover =>
        simp only [handleRequest]
        split <;> exact .same
      | createBearer ev => exact .same
      | deleteBearer teid ebis isHandover =>
        cases hf : g.world.sessions.findByLocalControlTEID teid with
        | none =>
          simp only [handleRequest, handlePGWDeleteBearer, hf]
          exact .same
        | some sess =>
          exact .asked (handlePGWDeleteBearer_touches hf _ _ _) hs hr
            (control_of_find hk hf)
      | updateBearer teid bearers =>
        simp only [handleRequest]
        split
        · exact .same
        rename_i sess hf
        exact .asked ((TouchesOnly.refl _).setGtpu (updateBearers_onlyAt _ _ _ _)) hs hr
          (control_of_find hk hf)
    · exact .same
  | poll =>
    simp only [step, pollSession]
    split
    · split <;> exact .same
    · exact .same
  | add draws =>
    simp only [step]
    split
    · exact .same
    · rename_i src id defaultEBI b todo result h
      have hs : g.source (.add draws) = some src := by simp only [source, h]
      exact .found ((TouchesOnly.refl _).setGtpu (createBearer_onlyAt _ id _ _ _ _)) hs
        (.inl (by rw [h]; rfl))
    · exact .same
  | cleanup n strOpen =>
    simp only [step]
    split
    · rename_i src teid isHandover h
      split
      · exact .same
      rename_i sess hf
      exact .asked (pgwCleanup_releases _ _ _ _).touches (by simp only [source, h])
        (.inr ⟨n, _, h, rfl⟩) (control_of_find hk hf)
    · exact .same
  | remove n =>
    simp only [step]
    split
    · rename_i src id h
      have hs : g.source (.remove n) = some src := by simp only [source, h]
      exact .found (TouchesOnly.refl _).delete hs (.inr ⟨n, _, h, rfl⟩)
    · exact .same
  | teardown id =>
    simp only [step, beginTeardown]
    split
    · exact .same
    rename_i sess h
    have ht := (teardownBegin_releases g.world sess).touches
    split
    · split <;> exact .own ht rfl
    · exact .own ht rfl
  | deleted n =>
    simp only [step]
    split
    · rename_i id c h
      exact .own (show TouchesOnly id g.world _ from .of_eq rfl (.refl _)) rfl
    · exact .same
  | finish n =>
    simp only [step]
    split
    · exact .own (teardownFinish_touches _ _) rfl
    · exact .same
  | openSession id => exact .own (TouchesOnly.refl _).getOrCreate rfl
  | touch id f keeps =>
    exact .own ((TouchesOnly.refl _).update (fun s => (keeps s).1) fun s => .inl (keeps s).2) rfl
  | install id fault =>
    simp only [step, installBearer]
    split
    · exact .same
    rename_i sess h
    have hid : sess.id = id := hk id sess h
    have hadd := Gtpu.Manager.addSession_onlyAt g.world.gtpu cfg.localGTPU fault sess
    rw [hid] at hadd
    split
    · rename_i m heq
      rw [heq] at hadd
      exact .own ((TouchesOnly.refl _).setGtpu hadd) rfl
    rename_i m d heq
    rw [heq] at hadd
    exact .own (((TouchesOnly.refl _).setGtpu hadd).update (fun _ => rfl)
      fun _ => .inl rfl) rfl

inductive PeersStep (cfg : GatewayConfig) (g : Gateway) (a : GatewayAct) :
    Table UInt32 IP → Prop
  | same : PeersStep cfg g a g.peers
  | erase (teid : UInt32) : PeersStep cfg g a (g.peers.erase teid)
  | insert {n c resp r} (h : g.workers.lookup n = some (.answered c resp))
      (hr : (g.step cfg a).workers = g.workers.insert n (.recorded c r)) :
      PeersStep cfg g a (g.peers.insert c.localControl (peerFor cfg.s2b c.pgwControlIP))

section
variable (cfg : GatewayConfig)
include cfg

theorem peers_step (g : Gateway) (a : GatewayAct) : PeersStep cfg g a (g.step cfg a).peers := by
  cases a with
  | accept n =>
    cases h : g.workers.lookup n with
    | none =>
      simp only [step, h]
      exact .same
    | some worker =>
      cases worker with
      | answered c resp =>
        cases hr : parseCreateSessionResponse cfg.s2b resp c.localControl c.localUser with
        | none =>
          simp only [step, acceptResponse, h, hr]
          exact .same
        | some r =>
          have hw : (g.step cfg (.accept n)).workers =
              g.workers.insert n (.recorded c r) := by
            simp only [step, acceptResponse, h, hr, become]
          have hp : (g.step cfg (.accept n)).peers =
              g.peers.insert c.localControl (peerFor cfg.s2b c.pgwControlIP) := by
            simp only [step, acceptResponse, h, hr, become]
          rw [hp]
          exact .insert h hw
      | creating | recorded | pgwDelete | pgwRemove | s2bDelete | teardownEnd =>
        simp only [step, h]
        exact .same
  | handle sent faults =>
    simp only [step]
    split
    · rename_i src req h
      cases req with
      | deleteSession teid isHandover =>
        simp only [handleRequest]
        split <;> exact .erase teid
      | createBearer ev => exact .same
      | deleteBearer teid ebis isHandover => exact .same
      | updateBearer teid bearers =>
        simp only [handleRequest]
        split <;> exact .same
    · exact .same
  | deleted n =>
    simp only [step]
    split
    · exact .erase _
    · exact .same
  | createSession id ip => exact .same
  | openSession id => exact .same
  | touch id f keeps => exact .same
  | respond n resp | giveUp n | store n | drop | remove n | finish n | add draws =>
    simp only [step]
    split <;> exact .same
  | read src req | poll | cleanup n strOpen =>
    simp only [step, pollSession]
    split
    · split <;> exact .same
    · exact .same
  | teardown id =>
    simp only [step, beginTeardown]
    split
    · exact .same
    split
    · split <;> exact .same
    · exact .same
  | install id fault =>
    simp only [step, installBearer]
    split
    · exact .same
    · split <;> exact .same

theorem drawn_step (g : Gateway) (a : GatewayAct) :
    (g.step cfg a).drawn = g.drawn ∨ ∃ id ip, a = .createSession id ip ∧
      (g.step cfg a).drawn =
        g.drawn.insert (nextTEID g.localControl) (id, peerFor cfg.s2b ip) := by
  cases a with
  | createSession id ip => exact .inr ⟨id, ip, rfl, rfl⟩
  | openSession id => exact .inl rfl
  | touch id f keeps => exact .inl rfl
  | respond n resp | giveUp n | store n | drop | remove n | deleted n | finish n | add draws =>
    simp only [step]
    split <;> exact .inl rfl
  | accept n | read src req | poll | cleanup n strOpen =>
    simp only [step, pollSession, acceptResponse]
    split
    · split <;> exact .inl rfl
    · exact .inl rfl
  | handle sent faults =>
    simp only [step]
    split
    · rename_i src req h
      cases req with
      | createBearer ev => exact .inl rfl
      | deleteBearer teid ebis isHandover => exact .inl rfl
      | deleteSession teid isHandover | updateBearer teid bearers =>
        simp only [handleRequest]
        split <;> exact .inl rfl
    · exact .inl rfl
  | teardown id =>
    simp only [step, beginTeardown]
    split
    · exact .inl rfl
    split
    · split <;> exact .inl rfl
    · exact .inl rfl
  | install id fault =>
    simp only [step, installBearer]
    split
    · exact .inl rfl
    · split <;> exact .inl rfl

end

end Gateway
end Epdg
