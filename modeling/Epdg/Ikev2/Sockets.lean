import Epdg.Ikev2.Sa

/-!
The sockets of the IKE server: which are bound when it runs, and which one a request goes out on.

The server listens on two IPv4 sockets and, with an address for it, on two IPv6 ones. Answers go
out on the socket on which the request came in; requests of the ePDG have none to follow.
-/
namespace Epdg.Ikev2

inductive Network where
  | udp4
  | udp6
  deriving DecidableEq, Repr

def Network.carries : Network → IP → Bool
  | .udp4, ip => ip.isV4
  | .udp6, ip => !ip.isV4

structure Socket where
  network : Network
  addr : String
  deriving DecidableEq, Repr

structure Sockets where
  conn500 : Option Socket := none
  conn4500 : Option Socket := none
  conn500v6 : Option Socket := none
  conn4500v6 : Option Socket := none
  deriving DecidableEq, Repr

def Sockets.bound (k : Sockets) : List Socket :=
  [k.conn500, k.conn4500, k.conn500v6, k.conn4500v6].filterMap id

structure ListenConfig where
  listenAddr : String
  listenAddrV6 : String := ""
  ikePort : Int := 0
  nattPort : Int := 0
  deriving DecidableEq, Repr

namespace ListenConfig
variable (c : ListenConfig)

def ikeP : Int := if c.ikePort = 0 then 500 else c.ikePort
def nattP : Int := if c.nattPort = 0 then 4500 else c.nattPort

def addr500 : String := c.listenAddr ++ ":" ++ toString c.ikeP
def addr4500 : String := c.listenAddr ++ ":" ++ toString c.nattP
def addr500v6 : String := "[" ++ c.listenAddrV6 ++ "]:" ++ toString c.ikeP
def addr4500v6 : String := "[" ++ c.listenAddrV6 ++ "]:" ++ toString c.nattP

end ListenConfig

structure ListenCalls where
  resolves : Network → String → Bool := fun _ _ => true
  listenUDP : Network → String → Option String := fun _ _ => none
  setUDPEncapESP : Socket → Option String := fun _ => none

inductive ListenError where
  | returned (text : String)
  | panicked (addr : String)
  deriving DecidableEq, Repr

namespace ListenCalls
variable (os : ListenCalls)

def bind (network : Network) (addr : String) : Except ListenError Socket :=
  if os.resolves network addr then
    match os.listenUDP network addr with
    | some err => .error (.returned ("ikev2: listen " ++ addr ++ ": " ++ err))
    | none => .ok ⟨network, addr⟩
  else .error (.panicked addr)

def encap (conn : Socket) : Except ListenError Unit :=
  match os.setUDPEncapESP conn with
  | some err =>
    .error (.returned ("ikev2: set UDP_ENCAP_ESPINUDP on " ++ conn.addr ++ ": " ++ err))
  | none => .ok ()

end ListenCalls

def listenAndServe (os : ListenCalls) (c : ListenConfig) : Except ListenError Sockets := do
  let conn500 ← os.bind .udp4 c.addr500
  let conn4500 ← os.bind .udp4 c.addr4500
  os.encap conn4500
  if c.listenAddrV6 ≠ "" then
    let conn500v6 ← os.bind .udp6 c.addr500v6
    let conn4500v6 ← os.bind .udp6 c.addr4500v6
    os.encap conn4500v6
    return ⟨conn500, conn4500, conn500v6, conn4500v6⟩
  else
    return { conn500, conn4500 }

def Sockets.probeConn (k : Sockets) (sa : IkeSA) : Option Socket :=
  if sa.natT then k.conn4500 else k.conn500

section
variable {os : ListenCalls} {c : ListenConfig} {k : Sockets}

theorem ListenCalls.bind_ok {network : Network} {addr : String} {conn : Socket}
    (h : os.bind network addr = .ok conn) : conn = ⟨network, addr⟩ := by
  unfold bind at h
  grind

private theorem steps_ok {ε α β : Type} {x : Except ε α} {f : α → Except ε β} {b : β}
    (h : (x >>= f) = .ok b) : ∃ a, x = .ok a ∧ f a = .ok b := by
  cases x with
  | error e => cases h
  | ok a => exact ⟨a, rfl, h⟩

theorem listenAndServe_ok (h : listenAndServe os c = .ok k) :
    k.conn500 = some ⟨.udp4, c.addr500⟩ ∧ k.conn4500 = some ⟨.udp4, c.addr4500⟩ ∧
    (k.conn500v6.isSome = true ↔ c.listenAddrV6 ≠ "") ∧
    (k.conn4500v6.isSome = true ↔ c.listenAddrV6 ≠ "") := by
  obtain ⟨conn500, h500, h⟩ := steps_ok h
  obtain ⟨conn4500, h4500, h⟩ := steps_ok h
  obtain ⟨_, -, h⟩ := steps_ok h
  rw [os.bind_ok h500, os.bind_ok h4500] at h
  split at h
  · obtain ⟨conn500v6, -, h⟩ := steps_ok h
    obtain ⟨conn4500v6, -, h⟩ := steps_ok h
    obtain ⟨_, -, h⟩ := steps_ok h
    obtain rfl := Except.ok.inj h
    simp_all
  · obtain rfl := Except.ok.inj h
    simp_all

theorem probeConn_udp4 (h : listenAndServe os c = .ok k) (sa : IkeSA) :
    ∃ conn, k.probeConn sa = some conn ∧ conn ∈ k.bound ∧ conn.network = .udp4 := by
  obtain ⟨h500, h4500, -⟩ := listenAndServe_ok h
  unfold Sockets.probeConn
  split
  · exact ⟨_, h4500, by simp [Sockets.bound, h4500], rfl⟩
  · exact ⟨_, h500, by simp [Sockets.bound, h500], rfl⟩

end
end Epdg.Ikev2
