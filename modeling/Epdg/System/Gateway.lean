import Epdg.Ikev2.AuthFinal
import Epdg.S2b.Bearers
import Epdg.S2b.Client

/-!
PDN connections and the requests of the PGW under interleaving: `CreateSession`, `DeleteSession`
and the read loop of `internal/s2b/client.go` with the handlers of `cmd/epdg/main.go`, and the
session half of `fullTeardown` (`internal/ikev2/inform.go`).

The read loop is one goroutine and runs the bearer handlers itself. A Create Session call, a
`handlePGWDelete` and a `fullTeardown` run beside it; each is a worker that takes one step at a
time, cut where another goroutine can come between. Requests are in parsed form, and what the
ePDG answers to the PGW is not part of the state.
-/
namespace Epdg
open S2b

inductive PgwRequest where
  | deleteSession (teid : UInt32) (isHandover : Bool)
  | createBearer (ev : CreateBearerEvent)
  | deleteBearer (teid : UInt32) (ebis : List UInt8) (isHandover : Bool)
  | updateBearer (teid : UInt32) (bearers : List UpdateBearerContext)
  deriving DecidableEq, Repr

def PgwRequest.teid : PgwRequest → UInt32
  | .deleteSession teid _ | .deleteBearer teid _ _ | .updateBearer teid _ => teid
  | .createBearer ev => ev.localControlTEID

structure CreateCall where
  session : Session.ID
  pgwControlIP : Option IP
  localControl : UInt32
  localUser : UInt32
  deriving DecidableEq, Repr

inductive Worker where
  /-- The request was sent. -/
  | creating (c : CreateCall)
  /-- The read loop delivered the response. -/
  | answered (c : CreateCall) (resp : Message)
  /-- `CreateSession` recorded the peer and returned. -/
  | recorded (c : CreateCall) (r : CreateSessionResult)
  /-- `handlePGWDelete`, at its start and before `manager.Delete`. -/
  | pgwDelete (src : UDPAddr) (teid : UInt32) (isHandover : Bool)
  | pgwRemove (src : UDPAddr) (id : Session.ID)
  /-- `fullTeardown`, in `DeleteSession` and before `sessions.Delete`. -/
  | s2bDelete (id : Session.ID) (c : Session.S2BContext)
  | teardownEnd (id : Session.ID)

inductive ReadLoop where
  | idle
  /-- The request passed the check of its source. -/
  | request (src : UDPAddr) (req : PgwRequest)
  /-- `handlePGWCreateBearer` looks for the session. -/
  | polling (src : UDPAddr) (ev : CreateBearerEvent) (attempts : Nat)
  /-- It installs the bearers on the session it found. -/
  | adding (src : UDPAddr) (id : Session.ID) (defaultEBI : UInt8)
      (todo : List CreateBearerContext) (result : CreateBearerResult)

structure Gateway where
  world : World
  peers : Table UInt32 IP := ∅
  localControl : UInt32 := 0
  localUser : UInt32 := 0
  workers : Table Nat Worker := ∅
  next : Nat := 0
  reader : ReadLoop := .idle
  drawn : Table UInt32 (Session.ID × IP) := ∅

structure GatewayConfig where
  s2b : S2b.Config
  localGTPU : Option IP

inductive GatewayAct where
  | createSession (id : Session.ID) (pgwControlIP : Option IP)
  | respond (n : Nat) (resp : Message)
  /-- No response came in time, or the request was not sent. -/
  | giveUp (n : Nat)
  | accept (n : Nat)
  | store (n : Nat)
  | read (src : UDPAddr) (req : PgwRequest)
  /-- The request does not parse, or it repeats an answered one. -/
  | drop
  | handle (sent : Bool) (faults : Nat → Bool)
  | poll
  | add (draws : Nat → Gtpu.TeidDraw)
  | cleanup (n : Nat) (strOpen : Bool)
  | remove (n : Nat)
  | teardown (id : Session.ID)
  | deleted (n : Nat)
  | finish (n : Nat)
  | openSession (id : Session.ID)
  /-- What the IKE handlers write to a session otherwise. -/
  | touch (id : Session.ID) (f : Session.Session → Session.Session)
      (keeps : ∀ s, (f s).id = s.id ∧ (f s).s2b = s.s2b)
  /-- `AddSession` in `handleAuthFinal`. -/
  | install (id : Session.ID) (fault : Bool)

def nextTEID (last : UInt32) : UInt32 := if last + 1 = 0 then 1 else last + 1

def pgwCleanup (w : World) (strOpen : Bool) (sess : Session.Session) (isHandover : Bool) :
    World :=
  let w := if isHandover then w.emit (.handoverSignalled sess.id) else w
  let w := cleanupSession w sess
  match sess.swmSessionID with
  | some sid => terminateSession w strOpen sid (some sess.id) isHandover
  | none => w

def teardownBegin (w : World) (sess : Session.Session) : World :=
  let w := w.setSessions (w.sessions.update sess.id (·.transition .cleaningUp))
  if sess.s2b.isSome then w.setGtpu (w.gtpu.removeSession sess.id) else w

def teardownFinish (w : World) (id : Session.ID) : World :=
  w.setSessions ((w.sessions.update id (·.transition .deleted)).delete id)

namespace Gateway

def initial (w : World) : Gateway := { world := w }

def spawn (g : Gateway) (worker : Worker) : Gateway :=
  { g with workers := g.workers.insert g.next worker, next := g.next + 1 }

def become (g : Gateway) (n : Nat) (worker : Worker) : Gateway :=
  { g with workers := g.workers.insert n worker }

def done (g : Gateway) (n : Nat) : Gateway := { g with workers := g.workers.erase n }

def setWorld (g : Gateway) (w : World) : Gateway := { g with world := w }

def admits (cfg : S2b.Config) (g : Gateway) (src : UDPAddr) (teid : UInt32) : Bool :=
  match g.peers.lookup teid with
  | some peer => !cfg.strictPeerCheck || src.ip = peer
  | none => true

def handleRequest (g : Gateway) (sent : Bool) (faults : Nat → Bool) (src : UDPAddr) :
    PgwRequest → Gateway
  | .deleteSession teid isHandover =>
    let g := { g with peers := g.peers.erase teid, reader := .idle }
    if sent then g.spawn (.pgwDelete src teid isHandover) else g
  | .createBearer ev => { g with reader := .polling src ev 0 }
  | .deleteBearer teid ebis isHandover =>
    { g with
      world := handlePGWDeleteBearer g.world (fun ebi => faults ebi.toNat) teid ebis isHandover
      reader := .idle }
  | .updateBearer teid bearers =>
    match g.world.sessions.findByLocalControlTEID teid with
    | none => { g with reader := .idle }
    | some sess =>
      { g with
        world := g.world.setGtpu (updateBearers sess.id g.world.gtpu faults bearers).1
        reader := .idle }

def pollSession (g : Gateway) (src : UDPAddr) (ev : CreateBearerEvent) (attempts : Nat) :
    Gateway :=
  match g.world.sessions.findByLocalControlTEID ev.localControlTEID with
  | some sess =>
    let pgwControlTEID := (sess.s2b.map Session.S2BContext.pgwControlTEID).getD 0
    { g with
      reader := .adding src sess.id ((sess.s2b.map Session.S2BContext.ebi).getD 0)
        ev.contexts { pgwControlTEID } }
  | none =>
    { g with reader := if attempts + 1 < 10 then .polling src ev (attempts + 1) else .idle }

def beginTeardown (g : Gateway) (id : Session.ID) : Gateway :=
  match g.world.sessions.get id with
  | none => g
  | some sess =>
    let g := g.setWorld (teardownBegin g.world sess)
    match sess.s2b with
    | some c =>
      if c.pgwControlTEID ≠ 0 ∧ c.ebi ≠ 0 then g.spawn (.s2bDelete id c)
      else g.spawn (.teardownEnd id)
    | none => g.spawn (.teardownEnd id)

def installBearer (cfg : GatewayConfig) (g : Gateway) (id : Session.ID) (fault : Bool) : Gateway :=
  match g.world.sessions.get id with
  | none => g
  | some sess =>
    match g.world.gtpu.addSession cfg.localGTPU fault sess with
    | (m, none) => g.setWorld (g.world.setGtpu m)
    | (m, some d) =>
      g.setWorld ((g.world.setGtpu m).updateSession (some id) ({ · with datapath := some d }))

def step (cfg : GatewayConfig) (g : Gateway) : GatewayAct → Gateway
  | .createSession id pgwControlIP =>
    let teid := nextTEID g.localControl
    { g with
      localControl := teid, localUser := nextTEID g.localUser
      drawn := g.drawn.insert teid (id, peerFor cfg.s2b pgwControlIP) }.spawn
        (.creating ⟨id, pgwControlIP, teid, nextTEID g.localUser⟩)
  | .respond n resp =>
    match g.workers.lookup n, g.reader with
    | some (.creating c), .idle => g.become n (.answered c resp)
    | _, _ => g
  | .giveUp n =>
    match g.workers.lookup n with
    | some (.creating _) => g.done n
    | _ => g
  | .accept n =>
    match g.workers.lookup n with
    | some (.answered c resp) =>
      match acceptResponse cfg.s2b g.peers c.pgwControlIP resp c.localControl
        c.localUser with
      | (_, none) => g.done n
      | (peers, some r) => { g with peers }.become n (.recorded c r)
    | _ => g
  | .store n =>
    match g.workers.lookup n with
    | some (.recorded c r) =>
      (g.setWorld (g.world.updateSession (some c.session) (Ikev2.sessionS2b r))).done n
    | _ => g
  | .read src req =>
    match g.reader with
    | .idle => if g.admits cfg.s2b src req.teid then { g with reader := .request src req } else g
    | _ => g
  | .drop =>
    match g.reader with
    | .request _ _ => { g with reader := .idle }
    | _ => g
  | .handle sent faults =>
    match g.reader with
    | .request src req => g.handleRequest sent faults src req
    | _ => g
  | .poll =>
    match g.reader with
    | .polling src ev attempts => g.pollSession src ev attempts
    | _ => g
  | .add draws =>
    match g.reader with
    | .adding _ _ _ [] _ => { g with reader := .idle }
    | .adding src id defaultEBI (b :: todo) result =>
      let (m, added) := createBearer g.world.gtpu cfg.localGTPU draws id defaultEBI b
      { g with
        world := g.world.setGtpu m
        reader := .adding src id defaultEBI todo (result.add added) }
    | _ => g
  | .cleanup n strOpen =>
    match g.workers.lookup n with
    | some (.pgwDelete src teid isHandover) =>
      match g.world.sessions.findByLocalControlTEID teid with
      | none => g.done n
      | some sess =>
        (g.setWorld (pgwCleanup g.world strOpen sess isHandover)).become n
          (.pgwRemove src sess.id)
    | _ => g
  | .remove n =>
    match g.workers.lookup n with
    | some (.pgwRemove _ id) =>
      (g.setWorld (g.world.setSessions (g.world.sessions.delete id))).done n
    | _ => g
  | .teardown id => g.beginTeardown id
  | .deleted n =>
    match g.workers.lookup n with
    | some (.s2bDelete id c) =>
      { g with
        world := { g.world.emit (.s2bDelete c.localControlTEID) with
          pgw := g.world.pgw.erase c.localControlTEID }
        peers := g.peers.erase c.localControlTEID }.become n (.teardownEnd id)
    | _ => g
  | .finish n =>
    match g.workers.lookup n with
    | some (.teardownEnd id) => (g.setWorld (teardownFinish g.world id)).done n
    | _ => g
  | .openSession id => g.setWorld (g.world.setSessions (g.world.sessions.getOrCreate id))
  | .touch id f _ => g.setWorld (g.world.updateSession (some id) f)
  | .install id fault => g.installBearer cfg id fault

def runFrom (cfg : GatewayConfig) (g : Gateway) (acts : List GatewayAct) : Gateway :=
  Machine.run (step cfg) g acts

end Gateway
end Epdg
