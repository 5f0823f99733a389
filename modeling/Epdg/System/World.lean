import Epdg.Gtpu.Manager
import Epdg.Ikev2.Sa
import Epdg.Session.Manager

/-!
The state of a running ePDG and what its handlers may ask of their environment.

`World` joins the IKE server's SA table, the session table, the GTP-U tables and
the kernel's IPsec tables; `pgw` is the set of PDN connections that exist at PGWs
on this ePDG's account, by local control TEID, with their default bearer. The
trace is a history of what the handlers did, newest event first. No handler reads
it.

`Env` supplies everything one step takes from outside: the clock, random draws,
answers of the AAA server and of the PGW, faults of the kernel, and the PGW
requests that arrive while an IKE_AUTH exchange is being completed.
-/
namespace Epdg
open Ikev2

structure PCOConfig where
  requestDNSv4 : Bool := false
  requestDNSv6 : Bool := false
  requestPCSCFv4 : Bool := false
  requestPCSCFv6 : Bool := false
  deriving DecidableEq, Repr

structure Config where
  epdgName : Bytes := []
  apnDefault : Bytes := []
  maxConcurrentPackets : Nat := 0
  maxHalfOpenSAs : Nat := 0
  cookieThreshold : Nat := 0
  halfOpenSATimeout : Nat := 0
  dpdEnabled : Bool := false
  dpdDelay : Nat := 0
  dpdTimeout : Nat := 0
  localGTPU : Option IP := none
  pco : PCOConfig := {}
  deriving DecidableEq, Repr

namespace Config

def second : Nat := 1000000000

def orDefault (configured dflt : Nat) : Nat := if configured > 0 then configured else dflt

def workerLimit (c : Config) : Nat := orDefault c.maxConcurrentPackets 2048

def maxHalfOpen (c : Config) : Nat := orDefault c.maxHalfOpenSAs 4096

def cookieLoad (c : Config) : Nat := orDefault c.cookieThreshold 2048

def halfOpenTimeout (c : Config) : Nat := orDefault c.halfOpenSATimeout 30 * second

def probeDelay (c : Config) : Nat := orDefault c.dpdDelay 30 * second

def probeTimeout (c : Config) : Nat := orDefault c.dpdTimeout 120 * second

def epdgIdentity (c : Config) : Bytes :=
  if c.epdgName ≠ [] then c.epdgName else Bytes.ascii "epdg"

end Config

structure Server where
  prims : Primitives
  codec : Codec
  cfg : Config
  certDER : Bytes
  /-- `computeCertAUTH`: the RSA signature, or none when signing fails. -/
  signCert : Bytes → Option Bytes
  equalFold : Bytes → Bytes → Bool

structure PcoDecoded where
  dnsV4 : List IP := []
  dnsV6 : List IP := []
  pcscfV4 : List IP := []
  pcscfV6 : List IP := []
  deriving DecidableEq, Repr

structure CreateSessionRequest where
  imsi : Bytes
  apn : Bytes
  ambrUplink : Nat
  ambrDownlink : Nat
  handover : Bool
  pgwControlIP : Option IP
  deriving DecidableEq, Repr

structure CreateSessionResult where
  paa : UInt32
  pgwControlTEID : UInt32
  pgwUserTEID : UInt32
  localControlTEID : UInt32
  localUserTEID : UInt32
  ebi : UInt8
  pgwRecovery : UInt8 := 0
  pgwControlIP : Option IP := none
  pgwUserIP : UInt32
  responsePCO : Option PcoDecoded := none
  responseAPCO : Option PcoDecoded := none
  deriving DecidableEq, Repr

inductive S2bOutcome where
  | failed (created : Option (UInt32 × UInt8))
  | ok (r : CreateSessionResult)
  deriving DecidableEq, Repr

inductive SwmOutcome where
  | notOpen
  | noAnswer
  | answer (avps : List Diameter.AVP)
  deriving DecidableEq, Repr

inductive PgwEvent where
  | deleteSession (teid : UInt32) (isHandover : Bool)
  | deleteBearer (teid : UInt32) (ebis : List UInt8) (isHandover : Bool)
  deriving DecidableEq, Repr

structure Env where
  now : Time
  spiR : Option UInt64 := none
  nonceR : Option Bytes := none
  dhPriv : Option Bytes := none
  espSPI : Option UInt32 := none
  cookie2 : Option Bytes := none
  cookieSecret : Option Bytes := none
  /-- The source address of the route to the peer. -/
  route : Option IP := none
  localAddr : UDPAddr := ⟨IP.ipv4zero, 500⟩
  swm : SwmOutcome := .notOpen
  pgwIP : Option IP := none
  s2b : S2bOutcome := .failed none
  xfrmFaults : Nat → Bool := fun _ => false
  gtpuFault : Bool := false
  /-- Encrypting the response fails. -/
  sendFails : Bool := false
  /-- The SWm peer accepts a Session-Termination-Request. -/
  strOpen : Bool := true
  /-- PGW requests handled while `handleAuthFinal` runs, by position in it. -/
  pgwAt : Nat → List PgwEvent := fun _ => []

inductive Event where
  | sent (dst : UDPAddr) (natt : Bool) (msg : Outgoing)
  | derSent (ref : Nat) (sid : SWMSessionID) (req : Swm.EAPRequest)
  | deaReceived (ref : Nat) (sid : SWMSessionID) (req : Swm.EAPRequest)
      (avps : List Diameter.AVP)
  | authVerified (sa : IkeSA) (auth : Bytes)
  | established (ref : Nat)
  | ikeRekeyed (old new : Nat)
  | s2bCreate (ref : Nat) (req : CreateSessionRequest)
  | s2bDelete (teid : UInt32)
  | strSent (sid : SWMSessionID) (session : Option Session.ID) (cause : UInt32)
  | handoverSignalled (session : Session.ID)
  | childInstalled (ref : Nat) (p : Xfrm.ChildSAParams)
  | childRekeyed (ref : Nat) (pfs : Bool) (p : Xfrm.ChildSAParams)
  | childReinstalled (ref : Nat) (p : Xfrm.ChildSAParams)
  | authCompleted (ref : Nat)
  deriving DecidableEq, Repr

structure CookieState where
  secret : Bytes
  prevSecret : Bytes
  rotatedAt : Time
  deriving DecidableEq, Repr

structure World where
  sas : Table UInt64 IkeSA := ∅
  cookies : CookieState
  sessions : Session.Manager := {}
  gtpu : Gtpu.Manager := {}
  xfrm : Xfrm.Kernel := {}
  pgw : Table UInt32 UInt8 := ∅
  nextRef : Nat := 0
  trace : List Event := []

namespace World

def initial (secret : Bytes) (now : Time) : World :=
  { cookies := ⟨secret, secret, now⟩ }

def lookupSA (w : World) (spiI : UInt64) : Option IkeSA := w.sas.lookup spiI

def saCount (w : World) : Nat := w.sas.entries.length

def storeSA (w : World) (sa : IkeSA) : World := { w with sas := w.sas.insert sa.spiI sa }

def deleteSA (w : World) (spiI : UInt64) : World := { w with sas := w.sas.erase spiI }

def emit (w : World) (e : Event) : World := { w with trace := e :: w.trace }

def allocRef (w : World) : World := { w with nextRef := w.nextRef + 1 }

def setKernel (w : World) (k : Xfrm.Kernel) : World := { w with xfrm := k }

def setGtpu (w : World) (m : Gtpu.Manager) : World := { w with gtpu := m }

def setSessions (w : World) (m : Session.Manager) : World := { w with sessions := m }

def updateSession (w : World) (id : Option Session.ID)
    (f : Session.Session → Session.Session) : World :=
  match id with
  | none => w
  | some id => w.setSessions (w.sessions.update id f)

def sessionOf (w : World) (id : Option Session.ID) : Option Session.Session :=
  id.bind w.sessions.get

def remoteTS (w : World) (id : Option Session.ID) : IPNet :=
  IPNet.host (((w.sessionOf id).bind Session.Session.s2b).map Session.S2BContext.paa)

section Frame
variable (w : World)

variable {w} in
theorem mem_keys_of_lookupSA {k : UInt64} {sa : IkeSA} (h : w.lookupSA k = some sa) :
    k ∈ w.sas.keys := by
  have hsome : (w.sas.lookup k).isSome = true := by
    rw [show w.sas.lookup k = some sa from h]
    rfl
  exact AList.lookup_isSome.mp hsome

@[simp] theorem lookupSA_storeSA (sa : IkeSA) (k : UInt64) :
    (w.storeSA sa).lookupSA k = if k = sa.spiI then some sa else w.lookupSA k :=
  Table.lookup_insert_ite _ _ _ _

@[simp] theorem lookupSA_deleteSA (spiI k : UInt64) :
    (w.deleteSA spiI).lookupSA k = if k = spiI then none else w.lookupSA k :=
  Table.lookup_erase_ite _ _ _

@[simp] theorem lookupSA_emit (e : Event) (k : UInt64) :
    (w.emit e).lookupSA k = w.lookupSA k := rfl

@[simp] theorem lookupSA_setKernel (x : Xfrm.Kernel) (k : UInt64) :
    (w.setKernel x).lookupSA k = w.lookupSA k := rfl

@[simp] theorem lookupSA_setGtpu (m : Gtpu.Manager) (k : UInt64) :
    (w.setGtpu m).lookupSA k = w.lookupSA k := rfl

@[simp] theorem lookupSA_setSessions (m : Session.Manager) (k : UInt64) :
    (w.setSessions m).lookupSA k = w.lookupSA k := rfl

@[simp] theorem lookupSA_allocRef (k : UInt64) : w.allocRef.lookupSA k = w.lookupSA k := rfl
@[simp] theorem allocRef_sessions : w.allocRef.sessions = w.sessions := rfl
@[simp] theorem allocRef_xfrm : w.allocRef.xfrm = w.xfrm := rfl
@[simp] theorem allocRef_trace : w.allocRef.trace = w.trace := rfl
@[simp] theorem allocRef_nextRef : w.allocRef.nextRef = w.nextRef + 1 := rfl

@[simp] theorem storeSA_sessions (sa : IkeSA) : (w.storeSA sa).sessions = w.sessions := rfl
@[simp] theorem deleteSA_sessions (k : UInt64) : (w.deleteSA k).sessions = w.sessions := rfl
@[simp] theorem emit_sessions (e : Event) : (w.emit e).sessions = w.sessions := rfl
@[simp] theorem setKernel_sessions (x : Xfrm.Kernel) :
    (w.setKernel x).sessions = w.sessions := rfl
@[simp] theorem setGtpu_sessions (m : Gtpu.Manager) :
    (w.setGtpu m).sessions = w.sessions := rfl
@[simp] theorem setSessions_sessions (m : Session.Manager) :
    (w.setSessions m).sessions = m := rfl

@[simp] theorem storeSA_xfrm (sa : IkeSA) : (w.storeSA sa).xfrm = w.xfrm := rfl
@[simp] theorem deleteSA_xfrm (k : UInt64) : (w.deleteSA k).xfrm = w.xfrm := rfl
@[simp] theorem emit_xfrm (e : Event) : (w.emit e).xfrm = w.xfrm := rfl
@[simp] theorem setKernel_xfrm (x : Xfrm.Kernel) : (w.setKernel x).xfrm = x := rfl
@[simp] theorem setGtpu_xfrm (m : Gtpu.Manager) : (w.setGtpu m).xfrm = w.xfrm := rfl
@[simp] theorem setSessions_xfrm (m : Session.Manager) :
    (w.setSessions m).xfrm = w.xfrm := rfl

@[simp] theorem storeSA_trace (sa : IkeSA) : (w.storeSA sa).trace = w.trace := rfl
@[simp] theorem deleteSA_trace (k : UInt64) : (w.deleteSA k).trace = w.trace := rfl
@[simp] theorem emit_trace (e : Event) : (w.emit e).trace = e :: w.trace := rfl
@[simp] theorem setKernel_trace (x : Xfrm.Kernel) : (w.setKernel x).trace = w.trace := rfl
@[simp] theorem setGtpu_trace (m : Gtpu.Manager) : (w.setGtpu m).trace = w.trace := rfl
@[simp] theorem setSessions_trace (m : Session.Manager) :
    (w.setSessions m).trace = w.trace := rfl

@[simp] theorem storeSA_nextRef (sa : IkeSA) : (w.storeSA sa).nextRef = w.nextRef := rfl
@[simp] theorem deleteSA_nextRef (k : UInt64) : (w.deleteSA k).nextRef = w.nextRef := rfl
@[simp] theorem emit_nextRef (e : Event) : (w.emit e).nextRef = w.nextRef := rfl
@[simp] theorem setKernel_nextRef (x : Xfrm.Kernel) :
    (w.setKernel x).nextRef = w.nextRef := rfl
@[simp] theorem setGtpu_nextRef (m : Gtpu.Manager) :
    (w.setGtpu m).nextRef = w.nextRef := rfl
@[simp] theorem setSessions_nextRef (m : Session.Manager) :
    (w.setSessions m).nextRef = w.nextRef := rfl

theorem updateSession_eq (id : Option Session.ID) (f : Session.Session → Session.Session) :
    ∃ m, w.updateSession id f = w.setSessions m := by
  cases id with
  | none => exact ⟨w.sessions, rfl⟩
  | some id => exact ⟨w.sessions.update id f, rfl⟩

variable (id : Option Session.ID) (f : Session.Session → Session.Session)

@[simp] theorem lookupSA_updateSession (k : UInt64) :
    (w.updateSession id f).lookupSA k = w.lookupSA k := by
  obtain ⟨m, h⟩ := w.updateSession_eq id f
  simp_all

@[simp] theorem updateSession_xfrm : (w.updateSession id f).xfrm = w.xfrm := by
  obtain ⟨m, h⟩ := w.updateSession_eq id f
  rw [h, setSessions_xfrm]

@[simp] theorem updateSession_trace : (w.updateSession id f).trace = w.trace := by
  obtain ⟨m, h⟩ := w.updateSession_eq id f
  rw [h, setSessions_trace]

@[simp] theorem updateSession_nextRef : (w.updateSession id f).nextRef = w.nextRef := by
  obtain ⟨m, h⟩ := w.updateSession_eq id f
  simp_all

@[simp] theorem updateSession_gtpu : (w.updateSession id f).gtpu = w.gtpu := by
  obtain ⟨m, h⟩ := w.updateSession_eq id f
  rw [h, setSessions]

@[simp] theorem updateSession_pgw : (w.updateSession id f).pgw = w.pgw := by
  obtain ⟨m, h⟩ := w.updateSession_eq id f
  rw [h, setSessions]

theorem get_updateSession (id' : Session.ID) :
    (w.updateSession id f).sessions.get id' =
      if some id' = id then (w.sessions.get id').map f else w.sessions.get id' := by
  cases id with
  | none => simp [updateSession]
  | some id =>
    simp only [updateSession, setSessions_sessions, Session.Manager.get_update,
      Option.some.injEq]
    simp_all

end Frame

end World
end Epdg
