import Epdg.System.World
import Mathlib.Logic.Relation

/-!
Teardown of IKE SAs and of sessions: `removeXFRMChildSA` and `fullTeardown`
(`internal/ikev2/inform.go`), and the PGW-initiated deletes of `cmd/epdg/main.go`.
-/
namespace Epdg
open Ikev2
variable {sess : Session.Session} {isHandover : Bool} {teid : UInt32} {tftFault : UInt8 → Bool}
  {ebis : List UInt8}

def terminateSession (w : World) (strOpen : Bool) (sid : SWMSessionID)
    (session : Option Session.ID) (handover : Bool) : World :=
  if strOpen then w.emit (.strSent sid session (if handover then 8 else 1)) else w

namespace Ikev2

def removeXFRMChildSA (P : Primitives) (w : World) (sa : IkeSA) : World :=
  match sa.espProp, sa.localIP with
  | some prop, some localIP =>
    if sa.localESPSPI = 0 then w
    else
      w.setKernel
        (Xfrm.removeChildSA w.xfrm
          (childParams sa prop (currentKeys P sa prop) (sa.currentPair localIP)
            sa.remoteAddr.port (w.remoteTS sa.sessionID)))
  | _, _ => w

def removePendingStates (w : World) (sa : IkeSA) : World :=
  match sa.pendingESPProp, sa.localIP with
  | some _, some localIP =>
    w.setKernel
      (Xfrm.removeChildSAStates w.xfrm (sa.stateParams (sa.pendingPair localIP)))
  | _, _ => w

def releaseS2b (w : World) (id : Session.ID) (c : Session.S2BContext) : World :=
  let w := w.setGtpu (w.gtpu.removeSession id)
  if c.pgwControlTEID ≠ 0 ∧ c.ebi ≠ 0 then
    { w.emit (.s2bDelete c.localControlTEID) with pgw := w.pgw.erase c.localControlTEID }
  else w

def teardownSession (w : World) (id : Option Session.ID) : World :=
  match id, w.sessionOf id with
  | some id, some sess =>
    let w := w.setSessions (w.sessions.update id (·.transition .cleaningUp))
    let w :=
      match sess.s2b with
      | some c => releaseS2b w id c
      | none => w
    w.setSessions ((w.sessions.update id (·.transition .deleted)).delete id)
  | _, _ => w

def handoverComplete (w : World) (id : Option Session.ID) : Bool :=
  ((w.sessionOf id).map Session.Session.handoverComplete).getD false

def teardownSwm (w : World) (strOpen : Bool) (sa : IkeSA) (handover : Bool) : World :=
  match sa.swmSessionID with
  | some sid => terminateSession w strOpen sid sa.sessionID handover
  | none => w

def fullTeardown (P : Primitives) (strOpen : Bool) (w : World) (sa : IkeSA) : World :=
  let handover := handoverComplete w sa.sessionID
  let w := removePendingStates (removeXFRMChildSA P w sa) sa
  let w := teardownSwm (teardownSession w sa.sessionID) strOpen sa handover
  w.deleteSA sa.spiI

end Ikev2

def cleanupSession (w : World) (sess : Session.Session) : World :=
  if sess.state = .deleted then w
  else
    let w := w.setSessions (w.sessions.update sess.id (·.transition .cleaningUp))
    let w := if sess.s2b.isSome then w.setGtpu (w.gtpu.removeSession sess.id) else w
    w.setSessions (w.sessions.update sess.id (·.transition .deleted))

def handlePGWDelete (w : World) (strOpen : Bool) (teid : UInt32) (isHandover : Bool) : World :=
  match w.sessions.findByLocalControlTEID teid with
  | none => w
  | some sess =>
    let w := if isHandover then w.emit (.handoverSignalled sess.id) else w
    let w := cleanupSession w sess
    let w :=
      match sess.swmSessionID with
      | some sid => terminateSession w strOpen sid (some sess.id) isHandover
      | none => w
    w.setSessions (w.sessions.delete sess.id)

def deleteBearers (w : World) (tftFault : UInt8 → Bool) (sess : Session.Session) (defaultEBI : UInt8) :
    List UInt8 → World
  | [] => w
  | ebi :: rest =>
    if defaultEBI ≠ 0 ∧ ebi = defaultEBI then
      let cleaned := cleanupSession w sess
      if sess.handoverComplete then
        cleaned.setSessions (cleaned.sessions.update sess.id fun s => { s with s2b := none })
      else cleaned.setSessions (cleaned.sessions.delete sess.id)
    else
      match w.gtpu.removeBearer (tftFault ebi) sess.id ebi with
      | (m, true) => deleteBearers (w.setGtpu m) tftFault sess defaultEBI rest
      | (m, false) => w.setGtpu m

def handlePGWDeleteBearer (w : World) (tftFault : UInt8 → Bool) (teid : UInt32) (ebis : List UInt8)
    (isHandover : Bool) : World :=
  match w.sessions.findByLocalControlTEID teid with
  | none => w
  | some sess =>
    let defaultEBI := (sess.s2b.map Session.S2BContext.ebi).getD 0
    let w :=
      if isHandover then
        (w.emit (.handoverSignalled sess.id)).setSessions
          (w.sessions.update sess.id fun s => { s with handoverComplete := true })
      else w
    deleteBearers w tftFault
      { sess with handoverComplete := sess.handoverComplete || isHandover } defaultEBI ebis

def pgwRelease (w : World) : PgwEvent → World
  | .deleteSession teid _ => { w with pgw := w.pgw.erase teid }
  | .deleteBearer teid ebis _ =>
    match w.pgw.lookup teid with
    | some ebi => if ebi ∈ ebis then { w with pgw := w.pgw.erase teid } else w
    | none => w

def handlePGW (w : World) (env : Env) (ev : PgwEvent) : World :=
  match ev with
  | .deleteSession teid isHandover =>
    handlePGWDelete (pgwRelease w ev) env.strOpen teid isHandover
  | .deleteBearer teid ebis isHandover =>
    handlePGWDeleteBearer (pgwRelease w ev) (fun _ => env.gtpuFault) teid ebis isHandover

def pgwEvents (w : World) (env : Env) (pos : Nat) : World :=
  (env.pgwAt pos).foldl (fun w ev => handlePGW w env ev) w

def Event.isRelease : Event → Bool
  | .s2bDelete _ | .strSent _ _ _ | .handoverSignalled _ => true
  | _ => false

inductive Release (touched taken : Session.ID → Prop) (w : World) : World → Prop
  | transition {id : Session.ID} (h : taken id) {next : Session.State}
      (hn : next = .cleaningUp ∨ next = .deleted) :
      Release touched taken w (w.setSessions (w.sessions.update id (·.transition next)))
  | removeSession {id : Session.ID} (h : taken id) :
      Release touched taken w (w.setGtpu (w.gtpu.removeSession id))
  | delete {id : Session.ID} (h : taken id) :
      Release touched taken w (w.setSessions (w.sessions.delete id))
  | clear {id : Session.ID} (h : taken id)
      (hu : w.sessions.Keyed → ∀ s, w.sessions.get id = some s → s.state = .new ∨ s.state = .deleted) :
      Release touched taken w
        (w.setSessions (w.sessions.update id fun s => { s with s2b := none }))
  | mark {id : Session.ID} (h : touched id) :
      Release touched taken w
        (w.setSessions (w.sessions.update id fun s => { s with handoverComplete := true }))
  | removeBearer {id : Session.ID} (h : touched id) (fault : Bool) (ebi : UInt8) :
      Release touched taken w (w.setGtpu (w.gtpu.removeBearer fault id ebi).1)
  | emit {e : Event} (h : e.isRelease = true) : Release touched taken w (w.emit e)
  | erase (teid : UInt32) : Release touched taken w { w with pgw := w.pgw.erase teid }

abbrev Releases (touched taken : Session.ID → Prop) : World → World → Prop :=
  Relation.ReflTransGen (Release touched taken)

section Releases
variable {touched taken : Session.ID → Prop} {w w' : World}

theorem Releases.closed {R : World → World → Prop} (h : Releases touched taken w w')
    (refl : ∀ w, R w w) (trans : ∀ {w w1 w2}, R w w1 → R w1 w2 → R w w2)
    (one : ∀ {w w'}, Release touched taken w w' → R w w') : R w w' := by
  induction h with
  | refl => exact refl w
  | tail _ h1 ih => exact trans ih (one h1)

theorem terminateSession_releases (w : World) (strOpen : Bool) (sid : SWMSessionID)
    (session : Option Session.ID) (handover : Bool) :
    Releases touched taken w (terminateSession w strOpen sid session handover) := by
  unfold terminateSession
  split
  · exact .single (.emit rfl)
  · exact .refl

theorem cleanupSession_releases (w : World) (h : taken sess.id) :
    Releases touched taken w (cleanupSession w sess) := by
  simp only [cleanupSession]
  split
  · exact .refl
  have h1 : Releases touched taken w (w.setSessions (w.sessions.update sess.id
      (·.transition .cleaningUp))) := .single (.transition h (by decide))
  split
  · exact (h1.tail (.removeSession h)).tail (.transition h (by decide))
  · exact h1.tail (.transition h (by decide))

theorem keyed_of_cleanupSession (h : (cleanupSession w sess).sessions.Keyed)
    : w.sessions.Keyed := by
  simp only [cleanupSession] at h
  split at h
  · exact h
  · have h1 := Session.Manager.Keyed.of_update h (by simp)
    split at h1 <;> exact h1.of_update (by simp)

theorem cleanupSession_unused {s : Session.Session}
    (hsess : ∀ s, w.sessions.get sess.id = some s → s.state = sess.state)
    (hs : (cleanupSession w sess).sessions.get sess.id = some s) :
    s.state = .new ∨ s.state = .deleted := by
  simp only [cleanupSession] at hs
  split at hs
  · simp_all
  have hget : ((w.sessions.update sess.id (·.transition .cleaningUp)).update sess.id
      (·.transition .deleted)).get sess.id = some s := by
    split at hs <;> exact hs
  rw [Session.Manager.get_update, if_pos rfl, Session.Manager.get_update, if_pos rfl,
    Option.map_map] at hget
  obtain ⟨s0, -, rfl⟩ := Option.map_eq_some_iff.mp hget
  cases h0 : s0.state <;> simp [Session.Session.transition, h0, Session.allowed]

theorem handlePGWDelete_releases {strOpen : Bool}
    (h : ∀ sess, w.sessions.findByLocalControlTEID teid = some sess → taken sess.id) :
    Releases touched taken w (handlePGWDelete w strOpen teid isHandover) := by
  unfold handlePGWDelete
  split
  · exact .refl
  rename_i sess hf
  have h1 : Releases touched taken w
      (if isHandover then w.emit (.handoverSignalled sess.id) else w) := by
    split
    · exact .single (.emit rfl)
    · exact .refl
  have h2 := h1.trans (cleanupSession_releases _ (h sess hf))
  refine .tail ?_ (.delete (h sess hf))
  split
  · exact h2.trans (terminateSession_releases _ _ _ _ _)
  · exact h2

theorem deleteBearers_releases {defaultEBI : UInt8} (ht : touched sess.id)
    (h : defaultEBI ≠ 0 → defaultEBI ∈ ebis → taken sess.id)
    (hsess : w.sessions.Keyed → ∀ s, w.sessions.get sess.id = some s → s.state = sess.state) :
    Releases touched taken w (deleteBearers w tftFault sess defaultEBI ebis) := by
  induction ebis generalizing w with
  | nil => exact .refl
  | cons ebi rest ih =>
    unfold deleteBearers
    split
    · rename_i hdef
      have hid : taken sess.id := h hdef.1 (by simp [hdef.2])
      have h1 : Releases touched taken w (cleanupSession w sess) := cleanupSession_releases w hid
      dsimp only
      split
      · exact h1.tail (.clear hid fun hk s hs =>
          cleanupSession_unused (hsess (keyed_of_cleanupSession hk)) hs)
      · exact h1.tail (.delete hid)
    · have hb : Release touched taken w (w.setGtpu (w.gtpu.removeBearer (tftFault ebi) sess.id
          ebi).1) := .removeBearer ht _ _
      split
      · rename_i m hm
        rw [hm] at hb
        exact .head hb (ih (fun h0 hmem => h h0 (List.mem_cons_of_mem _ hmem)) hsess)
      · grind

theorem handlePGWDeleteBearer_releases {tftFault : UInt8 → Bool} {teid : UInt32}
    {ebis : List UInt8} {isHandover : Bool}
    (ht : ∀ sess, w.sessions.findByLocalControlTEID teid = some sess → touched sess.id)
    (h : ∀ sess c, w.sessions.findByLocalControlTEID teid = some sess → sess.s2b = some c →
      c.ebi ≠ 0 → c.ebi ∈ ebis → taken sess.id) :
    Releases touched taken w (handlePGWDeleteBearer w tftFault teid ebis isHandover) := by
  unfold handlePGWDeleteBearer
  split
  · exact .refl
  rename_i sess hf
  have hget (hk : w.sessions.Keyed) : w.sessions.get sess.id = some sess :=
    (Session.Manager.findByLocalControlTEID_keyed hk hf).1
  have hd : (sess.s2b.map Session.S2BContext.ebi).getD 0 ≠ 0 →
      (sess.s2b.map Session.S2BContext.ebi).getD 0 ∈ ebis → taken sess.id := by
    cases hc : sess.s2b with
    | none => exact fun h0 => (h0 rfl).elim
    | some c => exact h sess c hf hc
  cases isHandover with
  | false =>
    refine deleteBearers_releases (ht sess hf) hd fun hk s hs => ?_
    simp_all
  | true =>
    refine .head (.emit rfl) (.head (.mark (ht sess hf))
      (deleteBearers_releases (ht sess hf) hd fun hk s hs => ?_))
    rw [World.setSessions_sessions, Session.Manager.get_update, if_pos rfl,
      World.emit_sessions, hget (Session.Manager.Keyed.of_update hk fun _ => rfl)] at hs
    cases hs
    rfl

theorem pgwRelease_releases (w : World) (ev : PgwEvent) :
    Releases touched taken w (pgwRelease w ev) := by
  cases ev with
  | deleteSession teid _ => exact .single (.erase teid)
  | deleteBearer teid ebis _ =>
    simp only [pgwRelease]
    split
    · split
      · exact .single (.erase teid)
      · exact .refl
    · exact .refl

theorem handlePGW_releases (w : World) (env : Env) (ev : PgwEvent) :
    Releases (fun _ => True) (fun _ => True) w (handlePGW w env ev) := by
  cases ev with
  | deleteSession => exact (pgwRelease_releases w _).trans (handlePGWDelete_releases (by simp))
  | deleteBearer =>
    exact (pgwRelease_releases w _).trans (handlePGWDeleteBearer_releases (by simp) (by simp))

theorem pgwEvents_releases (w : World) (env : Env) (pos : Nat) :
    Releases (fun _ => True) (fun _ => True) w (pgwEvents w env pos) := by
  unfold pgwEvents
  induction env.pgwAt pos generalizing w with
  | nil => exact .refl
  | cons ev evs ih => exact (handlePGW_releases w env ev).trans (ih _)

namespace Ikev2

theorem teardownSession_releases (w : World) {sid : Option Session.ID}
    (h : ∀ id, sid = some id → taken id) :
    Releases touched taken w (teardownSession w sid) := by
  unfold teardownSession
  split
  · rename_i id sess _
    have h1 : Releases touched taken w (w.setSessions (w.sessions.update id
        (·.transition .cleaningUp))) := .single (.transition (h id rfl) (by decide))
    refine .tail (.tail ?_ (.transition (h id rfl) (by decide))) (.delete (h id rfl))
    split
    · have h2 := h1.tail (.removeSession (h id rfl))
      simp only [releaseS2b]
      split
      · exact (h2.tail (.emit rfl)).tail (.erase _)
      · exact h2
    · exact h1
  · exact .refl

theorem teardownSwm_releases (w : World) (strOpen : Bool) (sa : IkeSA) (handover : Bool) :
    Releases touched taken w (teardownSwm w strOpen sa handover) := by
  unfold teardownSwm
  split
  · exact terminateSession_releases _ _ _ _ _
  · exact .refl

end Ikev2
end Releases

structure World.Aside (w w' : World) : Prop where
  sas : w'.sas = w.sas
  cookies : w'.cookies = w.cookies
  xfrm : w'.xfrm = w.xfrm
  nextRef : w'.nextRef = w.nextRef
  trace : ∃ new, w'.trace = new ++ w.trace ∧ ∀ e ∈ new, e.isRelease = true

namespace World.Aside
variable {e : Event}
variable {w w1 w2 w' : World}

theorem of_eq (hs : w'.sas = w.sas) (hc : w'.cookies = w.cookies) (hx : w'.xfrm = w.xfrm)
    (hr : w'.nextRef = w.nextRef) (ht : w'.trace = w.trace) : w.Aside w' :=
  ⟨hs, hc, hx, hr, [], ht, by simp⟩

theorem refl (w : World) : w.Aside w := of_eq rfl rfl rfl rfl rfl

theorem trans (h1 : w.Aside w1) (h2 : w1.Aside w2) : w.Aside w2 := by
  obtain ⟨n1, e1, a1⟩ := h1.trace
  obtain ⟨n2, e2, a2⟩ := h2.trace
  refine ⟨h2.sas.trans h1.sas, h2.cookies.trans h1.cookies, h2.xfrm.trans h1.xfrm,
    h2.nextRef.trans h1.nextRef, n2 ++ n1, by simp [e1, e2], fun e he => ?_⟩
  grind

theorem emit (w : World) (h : e.isRelease = true) : w.Aside (w.emit e) :=
  ⟨rfl, rfl, rfl, rfl, [e], rfl, by simpa using h⟩

theorem lookupSA (h : w.Aside w') (k : UInt64) : w'.lookupSA k = w.lookupSA k := by
  unfold World.lookupSA
  rw [h.sas]

theorem mem_trace (h : w.Aside w') (he : e ∈ w.trace) : e ∈ w'.trace := by
  obtain ⟨new, e1, -⟩ := h.trace
  simp_all

end World.Aside

theorem Releases.aside {touched taken : Session.ID → Prop} {w w' : World}
    (h : Releases touched taken w w') : w.Aside w' := by
  refine h.closed .refl .trans fun h1 => ?_
  cases h1 with
  | emit h => exact .emit _ h
  | _ => exact .of_eq rfl rfl rfl rfl rfl

theorem handlePGW_aside (w : World) (env : Env) (ev : PgwEvent) :
    w.Aside (handlePGW w env ev) :=
  (handlePGW_releases w env ev).aside

theorem pgwEvents_aside (w : World) (env : Env) (pos : Nat) :
    w.Aside (pgwEvents w env pos) :=
  (pgwEvents_releases w env pos).aside

namespace Ikev2

theorem removeXFRMChildSA_eq (P : Primitives) (w : World) (sa : IkeSA) :
    ∃ k, removeXFRMChildSA P w sa = w.setKernel k := by
  unfold removeXFRMChildSA
  split
  · split
    · exact ⟨w.xfrm, rfl⟩
    · exact ⟨_, rfl⟩
  · exact ⟨w.xfrm, rfl⟩

theorem removePendingStates_eq (w : World) (sa : IkeSA) :
    ∃ k, removePendingStates w sa = w.setKernel k := by
  unfold removePendingStates
  split
  · exact ⟨_, rfl⟩
  · exact ⟨w.xfrm, rfl⟩

section
variable (P : Primitives)
include P

theorem fullTeardown_releases (strOpen : Bool) (w : World) {sa : IkeSA}
    {touched taken : Session.ID → Prop} (h : ∀ id, sa.sessionID = some id → taken id) :
    ∃ w1, Releases touched taken (removePendingStates (removeXFRMChildSA P w sa) sa) w1 ∧
      fullTeardown P strOpen w sa = w1.deleteSA sa.spiI :=
  ⟨_, (teardownSession_releases _ h).trans (teardownSwm_releases _ _ _ _), rfl⟩

theorem fullTeardown_frame (strOpen : Bool) (w : World) (sa : IkeSA) :
    ∃ w1, (removePendingStates (removeXFRMChildSA P w sa) sa).Aside w1 ∧
      fullTeardown P strOpen w sa = w1.deleteSA sa.spiI := by
  obtain ⟨w1, h, he⟩ : ∃ w1, Releases (fun _ => True) (fun _ => True) _ w1 ∧ _ :=
    fullTeardown_releases P strOpen w fun _ _ => trivial
  exact ⟨w1, h.aside, he⟩

theorem lookupSA_removals (w : World) (sa : IkeSA) (k : UInt64) :
    (removePendingStates (removeXFRMChildSA P w sa) sa).lookupSA k = w.lookupSA k := by
  obtain ⟨k1, h1⟩ := removeXFRMChildSA_eq P w sa
  obtain ⟨k2, h2⟩ := removePendingStates_eq (removeXFRMChildSA P w sa) sa
  rw [h2, h1]
  rfl

@[simp] theorem lookupSA_fullTeardown (strOpen : Bool) (w : World) (sa : IkeSA) (k : UInt64) :
    (fullTeardown P strOpen w sa).lookupSA k = if k = sa.spiI then none else w.lookupSA k := by
  obtain ⟨w1, ha, he⟩ := fullTeardown_frame P strOpen w sa
  rw [he, World.lookupSA_deleteSA, ha.lookupSA, lookupSA_removals]

theorem trace_fullTeardown (strOpen : Bool) (w : World) (sa : IkeSA) :
    ∃ new, (fullTeardown P strOpen w sa).trace = new ++ w.trace ∧
      ∀ e ∈ new, e.isRelease = true := by
  obtain ⟨w1, ha, he⟩ := fullTeardown_frame P strOpen w sa
  obtain ⟨k1, h1⟩ := removeXFRMChildSA_eq P w sa
  obtain ⟨k2, h2⟩ := removePendingStates_eq (removeXFRMChildSA P w sa) sa
  obtain ⟨new, hn, hr⟩ := ha.trace
  simp_all

end

end Ikev2
end Epdg
