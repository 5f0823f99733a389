import Epdg.Diameter.Codec
import Epdg.Lib.Table
import Epdg.Lib.Run

/-!
Requests of the SWm client: `sendRequest`, `readLoop`, `watchdogLoop`, `connectLoop`, `Stop` and
`failPendingLocked` (`internal/swm/client.go`).

Every request runs in a goroutine of its own, beside the loop that connects and the two loops of
each connection. A step is what happens between two operations on a channel, on the socket or on
`c.mu`. What is done under the lock is one step, except in `failPendingLocked`: it sends on
channels while it holds the lock, so its sends are steps and whoever needs the lock waits.
-/
namespace Epdg.Swm
open Diameter

structure ClientConfig where
  originHost : Bytes
  originRealm : Bytes
  deriving DecidableEq, Repr

inductive PeerError where
  | eof
  | readFailed
  | stopped
  deriving DecidableEq, Repr

inductive Response where
  | msg (m : Message)
  | err (e : PeerError)
  deriving DecidableEq, Repr

inductive CallResult where
  | ok (m : Message)
  | notOpen
  | writeFailed
  | failed (e : PeerError)
  | ctxDone
  deriving DecidableEq, Repr

inductive Phase where
  | created
  | ready (conn : Nat)
  | writing (conn : Nat)
  | waiting
  | leaving (result : CallResult)
  | returned (result : CallResult)
  deriving DecidableEq, Repr

structure Chan where
  buffer : Option Response := none
  sent : List Response := []
  deriving DecidableEq, Repr

structure Call where
  req : Message
  phase : Phase
  chan : Option Chan := none
  deriving DecidableEq, Repr

inductive Reader where
  | reading
  | answered (m : Message)
  | sending (m : Message) (ch : Nat)
  | failed (e : PeerError)
  | ended
  deriving DecidableEq, Repr

inductive Watchdog where
  | ticking
  | exchanging (call : Nat)
  | ended
  deriving DecidableEq, Repr

structure Conn where
  reader : Reader := .reading
  watchdog : Watchdog := .ticking
  deriving DecidableEq, Repr

inductive ConnectLoop where
  | unstarted
  | dialing
  | connected
  | serving (conn : Nat)
  | ended
  deriving DecidableEq, Repr

structure Failing where
  err : PeerError
  ch : Option Nat := none
  deriving DecidableEq, Repr

structure Client where
  nextHop : UInt32
  nextEnd : UInt32
  pending : Table UInt32 Nat := ∅
  calls : Table Nat Call := ∅
  nextCall : Nat := 0
  conns : Table Nat Conn := ∅
  nextConn : Nat := 0
  conn : Option Nat := none
  connectLoop : ConnectLoop := .unstarted
  cancelled : Bool := false
  failing : Option Failing := none

namespace Client

def newRequest (c : Client) (command appID : UInt32) (proxiable : Bool) (avps : List AVP) :
    Message × Client :=
  ({ flags := if proxiable then flagRequest ||| flagProxiable else flagRequest
     commandCode := command
     appID
     hopByHop := c.nextHop + 1
     endToEnd := c.nextEnd + 1
     avps },
   { c with nextHop := c.nextHop + 1, nextEnd := c.nextEnd + 1 })

def begin (c : Client) (command appID : UInt32) (proxiable : Bool) (avps : List AVP)
    (phase : Phase) : Client :=
  let (req, c) := c.newRequest command appID proxiable avps
  { c with calls := c.calls.insert c.nextCall { req, phase }, nextCall := c.nextCall + 1 }

def setCall (c : Client) (id : Nat) (f : Call → Call) : Client :=
  { c with calls := c.calls.modify id f }

def setConn (c : Client) (n : Nat) (f : Conn → Conn) : Client :=
  { c with conns := c.conns.modify n f }

def locked (c : Client) (f : Client → Client) : Client :=
  if c.failing.isSome then c else f c

end Client

def Call.choose (call : Call) (conn : Option Nat) : Call :=
  match call.phase with
  | .created =>
    { call with
      phase :=
        match conn with
        | some n => .ready n
        | none => .returned .notOpen }
  | _ => call

def Call.write (call : Call) (ok : Bool) : Call :=
  match call.phase with
  | .writing _ => { call with phase := if ok then .waiting else .leaving .writeFailed }
  | _ => call

def Response.result : Response → CallResult
  | .msg m => .ok m
  | .err e => .failed e

def Call.receive (call : Call) : Call :=
  match call.phase, call.chan with
  | .waiting, some ⟨some r, sent⟩ =>
    { call with chan := some ⟨none, sent⟩, phase := .returned r.result }
  | _, _ => call

def Call.expire (call : Call) : Call :=
  match call.phase with
  | .waiting => { call with phase := .leaving .ctxDone }
  | _ => call

def Chan.send (chan : Chan) (r : Response) : Option Chan :=
  match chan.buffer with
  | none => some ⟨some r, r :: chan.sent⟩
  | some _ => none

namespace Client

def send (c : Client) (ch : Nat) (r : Response) : Option Client :=
  match c.calls.lookup ch with
  | some call =>
    (call.chan.bind (Chan.send · r)).map fun chan => c.setCall ch ({ · with chan := some chan })
  | none => none

def register (c : Client) (id : Nat) : Client :=
  match c.calls.lookup id with
  | some call =>
    match call.phase with
    | .ready n =>
      { c.setCall id ({ · with phase := .writing n, chan := some {} }) with
        pending := c.pending.insert call.req.hopByHop id }
    | _ => c
  | none => c

def leave (c : Client) (id : Nat) : Client :=
  match c.calls.lookup id with
  | some call =>
    match call.phase with
    | .leaving result =>
      { c.setCall id ({ · with phase := .returned result }) with
        pending := c.pending.erase call.req.hopByHop }
    | _ => c
  | none => c

def read (c : Client) (n : Nat) (m : Message) : Client :=
  c.setConn n fun conn =>
    match conn.reader with
    | .reading => if m.isRequest then conn else { conn with reader := .answered m }
    | _ => conn

def readFail (c : Client) (n : Nat) (e : PeerError) : Client :=
  c.setConn n fun conn =>
    match conn.reader with
    | .reading => { conn with reader := .failed e }
    | _ => conn

def take (c : Client) (n : Nat) : Client :=
  match (c.conns.lookup n).map Conn.reader with
  | some (.answered m) =>
    { c.setConn n ({ · with reader :=
        match c.pending.lookup m.hopByHop with
        | some ch => .sending m ch
        | none => .reading }) with
      pending := c.pending.erase m.hopByHop }
  | _ => c

def put (c : Client) (n : Nat) : Client :=
  match (c.conns.lookup n).map Conn.reader with
  | some (.sending m ch) =>
    match c.send ch (.msg m) with
    | some c' => c'.setConn n ({ · with reader := .reading })
    | none => c
  | _ => c

def start (c : Client) : Client :=
  match c.connectLoop with
  | .unstarted => { c with connectLoop := .dialing }
  | _ => c

def handshake (c : Client) (ok : Bool) : Client :=
  match c.connectLoop with
  | .dialing =>
    { c with
      nextHop := c.nextHop + 1
      nextEnd := c.nextEnd + 1
      connectLoop := if ok then .connected else .dialing }
  | _ => c

def opened (c : Client) : Client :=
  match c.connectLoop with
  | .connected =>
    { c with
      conns := c.conns.insert c.nextConn {}
      nextConn := c.nextConn + 1
      conn := some c.nextConn
      connectLoop := .serving c.nextConn }
  | _ => c

def disconnected (c : Client) : Client :=
  match c.connectLoop with
  | .serving n =>
    match (c.conns.lookup n).map Conn.reader with
    | some (.failed e) =>
      { c.setConn n ({ · with reader := .ended }) with
        conn := if c.conn = some n then none else c.conn
        connectLoop := .dialing
        failing := some { err := e } }
    | _ => c
  | _ => c

def quit (c : Client) : Client :=
  match c.cancelled, c.connectLoop with
  | true, .dialing | true, .serving _ => { c with connectLoop := .ended }
  | _, _ => c

def stop (c : Client) : Client :=
  { c with
    cancelled := c.cancelled || c.connectLoop ≠ .unstarted
    failing := some { err := .stopped } }

def failTake (c : Client) (hop : UInt32) : Client :=
  match c.failing with
  | some ⟨err, none⟩ =>
    match c.pending.lookup hop with
    | some ch =>
      { c with pending := c.pending.erase hop, failing := some ⟨err, some ch⟩ }
    | none => c
  | _ => c

def failPut (c : Client) : Client :=
  match c.failing with
  | some ⟨err, some ch⟩ =>
    match c.send ch (.err err) with
    | some c' => { c' with failing := some ⟨err, none⟩ }
    | none => c
  | _ => c

def failEnd (c : Client) : Client :=
  match c.failing with
  | some ⟨_, none⟩ => if c.pending.keys = [] then { c with failing := none } else c
  | _ => c

def tick (cfg : ClientConfig) (c : Client) (n : Nat) : Client :=
  match (c.conns.lookup n).map Conn.watchdog with
  | some .ticking =>
    (c.setConn n ({ · with watchdog := .exchanging c.nextCall })).begin commandDWR 0 false
      [utf8AVP avpOriginHost 0 cfg.originHost, utf8AVP avpOriginRealm 0 cfg.originRealm]
      (.ready n)
  | _ => c

def ticked (c : Client) (n : Nat) : Client :=
  match (c.conns.lookup n).map Conn.watchdog with
  | some (.exchanging id) =>
    match (c.calls.lookup id).map Call.phase with
    | some (.returned (.ok _)) => c.setConn n ({ · with watchdog := .ticking })
    | some (.returned _) => c.setConn n ({ · with watchdog := .ended })
    | _ => c
  | some .ticking => if c.cancelled then c.setConn n ({ · with watchdog := .ended }) else c
  | _ => c

end Client

inductive ClientAct where
  | start
  | stop
  | cancel
  | handshake (ok : Bool)
  | opened
  | disconnected
  | quit
  | request (command appID : UInt32) (proxiable : Bool) (avps : List AVP)
  | choose (id : Nat)
  | register (id : Nat)
  | write (id : Nat) (ok : Bool)
  | receive (id : Nat)
  | expire (id : Nat)
  | leave (id : Nat)
  | read (n : Nat) (m : Message)
  | readFail (n : Nat) (e : PeerError)
  | take (n : Nat)
  | put (n : Nat)
  | tick (n : Nat)
  | ticked (n : Nat)
  | failTake (hop : UInt32)
  | failPut
  | failEnd
  deriving DecidableEq, Repr

def Client.step (cfg : ClientConfig) (c : Client) : ClientAct → Client
  | .start => c.locked start
  | .stop => c.locked stop
  | .cancel => { c with cancelled := true }
  | .handshake ok => c.handshake ok
  | .opened => c.locked opened
  | .disconnected => c.locked disconnected
  | .quit => c.quit
  | .request command appID proxiable avps => c.begin command appID proxiable avps .created
  | .choose id => c.locked fun c => c.setCall id (Call.choose · c.conn)
  | .register id => c.locked (register · id)
  | .write id ok => c.setCall id (Call.write · ok)
  | .receive id => c.setCall id Call.receive
  | .expire id => c.setCall id Call.expire
  | .leave id => c.locked (leave · id)
  | .read n m => c.read n m
  | .readFail n e => c.readFail n e
  | .take n => c.locked (take · n)
  | .put n => c.put n
  | .tick n => c.tick cfg n
  | .ticked n => c.ticked n
  | .failTake hop => c.failTake hop
  | .failPut => c.failPut
  | .failEnd => c.failEnd

end Epdg.Swm
