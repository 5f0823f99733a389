import Epdg.Net

/-!
UE sessions and their state machine (`internal/session/types.go`, `fsm.go`).

Of the session record the fields that some modelled function reads or writes are
kept. Session ids are `"%016x-%016x"` of the two IKE SPIs, a fixed-width text, so
the pair itself is the id.
-/
namespace Epdg.Session

inductive State where
  | new | eapAuthenticating | eapAuthenticated | s2bCreateSessionSent | s2bAccepted
  | gtpuInstalling | datapathInstalling | active | cleaningUp | failed | deleted
  deriving DecidableEq, Repr

def allowed : State → State → Bool
  | .new, n => n = .eapAuthenticating || n = .failed
  | .eapAuthenticating, n => n = .eapAuthenticated || n = .failed || n = .cleaningUp
  | .eapAuthenticated, n => n = .s2bCreateSessionSent || n = .failed || n = .cleaningUp
  | .s2bCreateSessionSent, n => n = .s2bAccepted || n = .failed || n = .cleaningUp
  | .s2bAccepted, n => n = .gtpuInstalling || n = .cleaningUp || n = .failed
  | .gtpuInstalling, n => n = .datapathInstalling || n = .cleaningUp || n = .failed
  | .datapathInstalling, n => n = .active || n = .cleaningUp || n = .failed
  | .active, n => n = .cleaningUp || n = .failed
  | .cleaningUp, n => n = .deleted || n = .failed
  | .failed, n => n = .cleaningUp || n = .deleted
  | .deleted, _ => false

structure ID where
  spiI : UInt64
  spiR : UInt64
  deriving DecidableEq, Repr

structure APNProfile where
  apn : Bytes
  ambrUplink : Nat
  ambrDownlink : Nat
  deriving DecidableEq, Repr

structure S2BContext where
  paa : IP
  pgwControlTEID : UInt32
  pgwControlIP : Option IP
  pgwUserTEID : UInt32
  pgwUserIP : IP
  localControlTEID : UInt32
  localUserTEID : UInt32
  ebi : UInt8
  pgwRecovery : UInt8
  deriving DecidableEq, Repr

structure DatapathContext where
  ueInnerIP : IP
  bridgeVerified : Bool
  ipsecPAAAligned : Bool
  deriving DecidableEq, Repr

end Session

abbrev SWMSessionID := Nat

namespace Session

structure Session where
  id : ID
  imsi : Bytes := []
  nai : Bytes := []
  apn : Bytes := []
  ikeSPII : UInt64 := 0
  ikeSPIR : UInt64 := 0
  outerIP : Option UDPAddr := none
  espInboundSPI : UInt32 := 0
  espOutboundSPI : UInt32 := 0
  swmSessionID : Option SWMSessionID := none
  handoverComplete : Bool := false
  state : State := .new
  msk : Bytes := []
  apnProfile : Option APNProfile := none
  s2b : Option S2BContext := none
  datapath : Option DatapathContext := none
  deriving DecidableEq, Repr

def Session.transition (s : Session) (next : State) : Session :=
  if s.state = next then s
  else if allowed s.state next then { s with state := next }
  else s

def Session.marked (b : Bool) (s : Session) : Session := { s with handoverComplete := b }

def Session.canActivate (s : Session) : Bool :=
  s.state = .datapathInstalling && s.msk.length = 64 && s.apnProfile.isSome &&
  (match s.s2b with
    | some c => c.pgwControlTEID ≠ 0 && c.pgwUserTEID ≠ 0 && c.ebi ≠ 0
    | none => false) &&
  (match s.datapath with
    | some d => d.bridgeVerified && d.ipsecPAAAligned
    | none => false)

theorem marked_marked (s : Session) (b b' : Bool) : (s.marked b).marked b' = s.marked b' := rfl

theorem marked_self (s : Session) : s.marked s.handoverComplete = s := rfl

section
variable (s : Session) (next : State)

theorem transition_state :
    (s.transition next).state = next ∨ (s.transition next).state = s.state := by
  unfold Session.transition
  grind

theorem transition_eq : s.transition next = { s with state := (s.transition next).state } := by
  unfold Session.transition
  split
  · rfl
  · split <;> rfl

@[simp] theorem transition_id : (s.transition next).id = s.id := by
  rw [transition_eq]

@[simp] theorem transition_s2b : (s.transition next).s2b = s.s2b := by
  rw [transition_eq]

@[simp] theorem transition_swmSessionID : (s.transition next).swmSessionID = s.swmSessionID := by
  rw [transition_eq]

@[simp] theorem transition_handoverComplete :
    (s.transition next).handoverComplete = s.handoverComplete := by
  rw [transition_eq]

theorem deleted_final (h : s.state = .deleted) : (s.transition next).state = .deleted := by
  unfold Session.transition
  split
  · exact h
  · simp [h, allowed]

end

end Epdg.Session
