import Epdg.Gtpu.Downlink
import Epdg.Lib.FixedWindow
import Epdg.Lib.Run
import Epdg.Lib.Table

/-!
What the GTP-U socket remembers: the rate limiter of the Error Indications and the state of the path
to every peer (`errorIndicationLimiter`, `pathState`, `sendEchoRequest` and `handleEchoResponse` in
`internal/gtpu/dataplane.go`). Times are in nanoseconds and the zero time of the source, which is no
reading of the clock, is none.
-/
namespace Epdg.Gtpu

def timeSecond : Nat := 1000000000

def errorIndicationMaxPerSecond : Nat := 50

structure ErrorIndicationLimiter where
  windowStart : Option Nat := none
  count : Nat := 0
  deriving DecidableEq, Repr

namespace ErrorIndicationLimiter

def allow (l : ErrorIndicationLimiter) (now : Nat) : ErrorIndicationLimiter × Bool :=
  let l :=
    if l.windowStart.all fun start => timeSecond ≤ now - start then
      { windowStart := some now, count := 0 }
    else l
  if l.count ≥ errorIndicationMaxPerSecond then (l, false)
  else ({ l with count := l.count + 1 }, true)

def answers : ErrorIndicationLimiter → List Nat → List (Nat × Bool)
  | _, [] => []
  | l, now :: times => (now, (l.allow now).2) :: answers (l.allow now).1 times

def window (l : ErrorIndicationLimiter) : FixedWindow.State := ⟨l.windowStart, l.count⟩

theorem window_allow (l : ErrorIndicationLimiter) (now : Nat) :
    FixedWindow.grant errorIndicationMaxPerSecond timeSecond l.window now =
      ((l.allow now).1.window, (l.allow now).2) := by
  obtain ⟨windowStart, count⟩ := l
  cases windowStart with
  | none => rfl
  | some start =>
    simp only [FixedWindow.grant, FixedWindow.State.restart, allow, window, Option.all_some,
      decide_eq_true_eq, ge_iff_le]
    grind

theorem answers_eq_run (l : ErrorIndicationLimiter) (times : List Nat) :
    l.answers times = FixedWindow.run errorIndicationMaxPerSecond timeSecond l.window times := by
  induction times generalizing l with
  | nil => rfl
  | cons now times ih => rw [answers, FixedWindow.run, window_allow, ih]

end ErrorIndicationLimiter

structure PathState where
  lastSentAt : Option Nat := none
  lastResponseAt : Option Nat := none
  missedEchoes : Nat := 0
  alive : Bool := false
  deriving DecidableEq, Repr

namespace PathState

def unanswered (ps : PathState) : Bool :=
  ps.lastSentAt.any fun sent => ps.lastResponseAt.all fun response => response < sent

def send (ps : PathState) (now : Nat) : PathState :=
  let ps :=
    if ps.unanswered then
      let missed := ps.missedEchoes + 1
      { ps with
        missedEchoes := missed
        alive := if ps.alive ∧ missed ≥ 3 then false else ps.alive }
    else ps
  { ps with lastSentAt := some now }

def respond (ps : PathState) (now : Nat) : PathState :=
  { ps with lastResponseAt := some now, missedEchoes := 0, alive := true }

end PathState

structure Paths where
  pathsByPeer : Table IP PathState := ∅
  echoSeq : UInt16 := 0

namespace Paths

def sendEchoRequest (m : Paths) (peer : IP) (now : Nat) : Paths × Option Bytes :=
  let ps := (m.pathsByPeer.lookup peer).getD { alive := true }
  ({ pathsByPeer := m.pathsByPeer.insert peer (ps.send now), echoSeq := m.echoSeq + 1 },
    encodePathMessage gtpuMsgEchoRequest m.echoSeq [14, 0, 1, 0])

def handleEchoResponse (m : Paths) (peer : IP) (now : Nat) : Paths :=
  let ps := (m.pathsByPeer.lookup peer).getD {}
  { m with pathsByPeer := m.pathsByPeer.insert peer (ps.respond now) }

end Paths

inductive EchoEvent where
  | request (peer : IP) (time : Nat)
  | response (peer : IP) (time : Nat)
  deriving DecidableEq, Repr

namespace EchoEvent

def peer : EchoEvent → IP
  | request peer _ | response peer _ => peer

def time : EchoEvent → Nat
  | request _ time | response _ time => time

def isRequest : EchoEvent → Bool
  | request _ _ => true
  | response _ _ => false

end EchoEvent

def Paths.echo (m : Paths) : EchoEvent → Paths
  | .request peer now => (m.sendEchoRequest peer now).1
  | .response peer now => m.handleEchoResponse peer now

def Paths.afterEchoes (events : List EchoEvent) : Paths := Machine.run Paths.echo {} events

end Epdg.Gtpu
