import Epdg.Ikev2.AuthFinal
import Epdg.Ikev2.Inform
import Epdg.Ikev2.Init
import Epdg.Ikev2.Rekey
import Epdg.Lib.Run

/-!
The ePDG as a machine: one step is one datagram, one check of a reaper, or one request
of the PGW.

Handlers run one after the other, except that PGW requests may be handled while
`handleAuthFinal` waits. Every handler works under the mutex of its SA, so packets for
one SA are serialized in the source as well.
-/
namespace Epdg
open Ikev2
variable {S : Server} {w : World}

def handleMessage (S : Server) (w : World) (env : Env) (remote : UDPAddr) (pkt : Bytes)
    (hdr : IKEHeader) (natt : Bool) : World :=
  if hdr.exchangeType = exchIKESAInit then handleIKESAInit S w env remote pkt hdr natt
  else if hdr.exchangeType = exchIKEAuth then handleIKEAuth S w env remote pkt hdr natt
  else if hdr.exchangeType = exchCreateChildSA then handleCreateChildSA S w env remote pkt hdr
  else if hdr.exchangeType = exchInformational then
    handleInformational S w env remote pkt hdr
  else w

def unwrap (natt : Bool) (pkt : Bytes) : Option Bytes :=
  if natt then
    match pkt with
    | 0 :: 0 :: 0 :: 0 :: rest => some rest
    | _ => none
  else some pkt

def frame (natt : Bool) (data : Bytes) : Bytes :=
  if natt then 0 :: 0 :: 0 :: 0 :: data else data

def parsePacket (S : Server) (natt : Bool) (pkt : Bytes) : Option (Bytes × IKEHeader) :=
  (unwrap natt pkt).bind fun msg =>
    if msg.length < ikeHeaderLen then none
    else (S.codec.parseHeader msg).map fun hdr => (msg, hdr)

def handlePacket (S : Server) (w : World) (env : Env) (remote : UDPAddr) (pkt : Bytes)
    (natt : Bool) : World :=
  match parsePacket S natt pkt with
  | none => w
  | some (msg, hdr) => handleMessage S w env remote msg hdr natt

inductive Action where
  | packet (remote : UDPAddr) (pkt : Bytes) (natt : Bool)
  | dpd (spiI : UInt64)
  | halfOpen (spiI : UInt64)
  | pgw (ev : PgwEvent)
  deriving DecidableEq, Repr

structure Input where
  act : Action
  env : Env

def step (S : Server) (w : World) (i : Input) : World :=
  match i.act with
  | .packet remote pkt natt => handlePacket S w i.env remote pkt natt
  | .dpd spiI => dpdCheck S w i.env spiI
  | .halfOpen spiI => halfOpenCheck S w i.env spiI
  | .pgw ev => handlePGW w i.env ev

structure Incoming where
  remote : UDPAddr
  msg : Bytes
  hdr : IKEHeader
  sa : IkeSA

def incoming (S : Server) (w : World) (i : Input) : Option Incoming :=
  match i.act with
  | .packet remote pkt natt =>
    (parsePacket S natt pkt).bind fun m =>
      (w.lookupSA m.2.initiatorSPI).map fun sa => ⟨remote, m.1, m.2, sa⟩
  | _ => none

def runFrom (S : Server) (secret : Bytes) (now : Time) (inputs : List Input) : World :=
  Machine.run (step S) (World.initial secret now) inputs

def Reachable (S : Server) (w : World) : Prop :=
  ∃ secret now inputs, w = runFrom S secret now inputs

theorem Reachable.invariant (I : World → Prop) (h0 : ∀ secret now, I (World.initial secret now))
    (hstep : ∀ w i, I w → I (Epdg.step S w i)) (h : Reachable S w) : I w := by
  obtain ⟨secret, now, inputs, rfl⟩ := h
  exact Machine.run_invariant I hstep (h0 secret now) inputs

end Epdg
