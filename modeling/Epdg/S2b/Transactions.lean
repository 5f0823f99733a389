import Epdg.Lib.Table
import Epdg.Lib.Run
import Epdg.S2b.Codec

/-!
Transactions of the GTPv2-C client: `transactionTo` and the part of `readLoop` that hands
responses to it (`internal/s2b/client.go`).

Every call of `transactionTo` runs in a goroutine of its own beside the one read loop. A step
is what happens between two operations on the shared table, on a channel or on the socket, so
every interleaving of the goroutines is a sequence of steps.
-/
namespace Epdg.S2b

def n3Requests : Nat := 3

structure Config where
  pgwGTPC : IP
  strictPeerCheck : Bool := true
  pcoEnabled : Bool := false
  pcoStrictDecode : Bool := false
  deriving DecidableEq, Repr

structure Received where
  msg : Message
  src : UDPAddr
  deriving DecidableEq, Repr

structure PendingTxn where
  ch : Nat
  peer : UDPAddr
  deriving DecidableEq, Repr

inductive TxnResult where
  | ok (r : Received)
  | encodeFailed
  | sendFailed
  | typeMismatch
  | cancelled
  | noResponse
  deriving DecidableEq, Repr

inductive Phase where
  | sending (attempt : Nat)
  | waiting (attempt : Nat)
  | leaving (result : TxnResult)
  | returned (result : TxnResult)
  deriving DecidableEq, Repr

structure Call where
  req : Message
  expected : UInt8
  peer : UDPAddr
  phase : Phase
  chan : Option Received := none
  delivered : List Received := []
  deriving DecidableEq, Repr

inductive Reader where
  | idle
  | matched (r : Received) (txn : PendingTxn)
  | claimed (r : Received) (ch : Nat)
  deriving DecidableEq, Repr

structure Client where
  pending : Table UInt32 PendingTxn := ∅
  calls : Table Nat Call := ∅
  next : Nat := 0
  reader : Reader := .idle

namespace Client

def start (c : Client) (req : Message) (expected : UInt8) (peer : UDPAddr) : Client :=
  match req.encode with
  | none =>
    { c with
      calls := c.calls.insert c.next { req, expected, peer, phase := .returned .encodeFailed }
      next := c.next + 1 }
  | some _ =>
    { c with
      pending := c.pending.insert req.sequence ⟨c.next, peer⟩
      calls := c.calls.insert c.next { req, expected, peer, phase := .sending 1 }
      next := c.next + 1 }

def setCall (c : Client) (id : Nat) (f : Call → Call) : Client :=
  { c with calls := c.calls.modify id f }

end Client

def Call.write (call : Call) (ok : Bool) : Call :=
  match call.phase with
  | .sending n => { call with phase := if ok then .waiting n else .leaving .sendFailed }
  | _ => call

def Call.receive (call : Call) : Call :=
  match call.phase, call.chan with
  | .waiting _, some r =>
    { call with
      chan := none
      phase := .leaving (if r.msg.type = call.expected then .ok r else .typeMismatch) }
  | _, _ => call

def Call.timeout (call : Call) (cancelled : Bool) : Call :=
  match call.phase with
  | .waiting n =>
    { call with
      phase :=
        if cancelled then .leaving .cancelled
        else if n < n3Requests then .sending (n + 1)
        else .leaving .noResponse }
  | _ => call

def Call.cancel (call : Call) : Call :=
  match call.phase with
  | .waiting _ => { call with phase := .leaving .cancelled }
  | _ => call

def Call.offer (call : Call) (r : Received) : Call :=
  match call.chan with
  | none => { call with chan := some r, delivered := r :: call.delivered }
  | some _ => call

def Message.isRequest (m : Message) : Bool :=
  m.type = msgEchoRequest || m.type = msgDeleteSessionReq || m.type = msgCreateBearerReq ||
    m.type = msgDeleteBearerReq || m.type = msgUpdateBearerReq

def pendingMatch (cfg : Config) (c : Client) (r : Received) : Option PendingTxn :=
  (c.pending.lookup r.msg.sequence).filter fun txn =>
    !(cfg.strictPeerCheck && decide (r.src.ip ≠ txn.peer.ip))

namespace Client

def leave (c : Client) (id : Nat) : Client :=
  match c.calls.lookup id with
  | some call =>
    match call.phase with
    | .leaving result =>
      { c.setCall id fun call => { call with phase := .returned result } with
        pending := c.pending.erase call.req.sequence }
    | _ => c
  | none => c

def read (cfg : Config) (c : Client) (src : UDPAddr) (pkt : Bytes) : Client :=
  match c.reader, decodeMessage pkt with
  | .idle, some msg =>
    if msg.isRequest then c
    else
      match pendingMatch cfg c ⟨msg, src⟩ with
      | some txn => { c with reader := .matched ⟨msg, src⟩ txn }
      | none => c
  | _, _ => c

def claim (c : Client) : Client :=
  match c.reader with
  | .matched r txn =>
    if (c.pending.lookup r.msg.sequence).isSome then
      { c with pending := c.pending.erase r.msg.sequence, reader := .claimed r txn.ch }
    else { c with reader := .idle }
  | _ => c

def deliver (c : Client) : Client :=
  match c.reader with
  | .claimed r ch => { c.setCall ch (Call.offer · r) with reader := .idle }
  | _ => c

end Client

inductive ClientAct where
  | start (req : Message) (expected : UInt8) (peer : UDPAddr)
  | write (id : Nat) (ok : Bool)
  | receive (id : Nat)
  | timeout (id : Nat) (cancelled : Bool)
  | cancel (id : Nat)
  | leave (id : Nat)
  | read (src : UDPAddr) (pkt : Bytes)
  | claim
  | deliver
  deriving DecidableEq, Repr

def Client.step (cfg : Config) (c : Client) : ClientAct → Client
  | .start req expected peer => c.start req expected peer
  | .write id ok => c.setCall id (Call.write · ok)
  | .receive id => c.setCall id Call.receive
  | .timeout id cancelled => c.setCall id (Call.timeout · cancelled)
  | .cancel id => c.setCall id Call.cancel
  | .leave id => c.leave id
  | .read src pkt => c.read cfg src pkt
  | .claim => c.claim
  | .deliver => c.deliver

end Epdg.S2b
