import Epdg.Gtpu.PathStates
import Epdg.System.Step

/-!
The server with the GTP-U socket beside it: the ticks of `pathEchoLoop` and the datagrams that
`handleDownlink` gets (`internal/gtpu/dataplane.go`), between steps of the server.
-/
namespace Epdg

def Gtpu.Manager.activePGWPeers (m : Gtpu.Manager) : List IP :=
  (m.sessionsByID.values.map Gtpu.Session.pgwGTPUIP).dedup

structure Node where
  world : World
  paths : Gtpu.Paths := {}

inductive NodeInput where
  | server (i : Input)
  /-- A tick of `pathEchoLoop`, with the time at which each peer is probed. -/
  | tick (now : IP → Nat)
  | datagram (peer : IP) (pkt : Bytes) (now : Nat)

def isEchoResponse (pkt : Bytes) : Bool :=
  (Gtpu.parseGTPU pkt).any fun parsed => parsed.messageType = Gtpu.gtpuMsgEchoResp

namespace Node

def contacts (node : Node) : NodeInput → List IP
  | .server _ => []
  | .tick _ => node.world.gtpu.activePGWPeers
  | .datagram peer pkt _ => if isEchoResponse pkt then [peer] else []

def step (S : Server) (node : Node) : NodeInput → Node
  | .server i => { node with world := Epdg.step S node.world i }
  | .tick now =>
    { node with
      paths := node.world.gtpu.activePGWPeers.foldl
        (fun m peer => (m.sendEchoRequest peer (now peer)).1) node.paths }
  | .datagram peer pkt now =>
    if isEchoResponse pkt then { node with paths := node.paths.handleEchoResponse peer now }
    else node

def start (secret : Bytes) (now : Ikev2.Time) : Node := { world := .initial secret now }

def run (S : Server) (node : Node) (inputs : List NodeInput) : Node :=
  Machine.run (step S) node inputs

def contacted (S : Server) : Node → List NodeInput → List IP
  | _, [] => []
  | node, i :: inputs => node.contacts i ++ contacted S (node.step S i) inputs

end Node

end Epdg
