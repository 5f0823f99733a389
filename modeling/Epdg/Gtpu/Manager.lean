import Epdg.Gtpu.Tft
import Epdg.Lib.Table
import Epdg.Session.Fsm

/-!
The GTP-U session tables (`Manager` in `internal/gtpu/dataplane.go`): adding and
removing a session with its default bearer, and removing a dedicated bearer.

The BPF and TC maps and the routes are in `Epdg.Gtpu.Dataplane`; the counters are left out. A fault
in any of them after the tables were written is one `fault` argument: the source then
runs `removeSessionState` and fails. Only `RemoveBearer` can also fail after its
table writes, when the TFT rules do not sync, and it does not undo them.
-/
namespace Epdg.Gtpu

structure Bearer where
  ebi : UInt8
  localRXTEID : UInt32
  remoteTXTEID : UInt32
  pgwGTPUIP : IP
  localGTPUIP : IP
  qci : UInt8 := 0
  tft : Option TFT := none
  deriving DecidableEq, Repr

structure BearerRef where
  sessionID : Session.ID
  bearerEBI : UInt8
  deriving DecidableEq, Repr

structure Session where
  id : Session.ID
  paa : IP
  localGTPUIP : IP
  pgwGTPUIP : IP
  defaultEBI : UInt8
  bearers : Table UInt8 Bearer
  pgwControlTEID : UInt32
  localControlTEID : UInt32

structure Manager where
  sessionsByID : Table Session.ID Session := ∅
  sessionsByPAA : Table IP Session.ID := ∅
  bearersByLocalTEID : Table UInt32 BearerRef := ∅
  bearersByRemoteTEID : Table UInt32 BearerRef := ∅

namespace Manager

def hasSession (m : Manager) (id : Session.ID) : Bool := (m.sessionsByID.lookup id).isSome

def hasBearer (m : Manager) (id : Session.ID) (ebi : UInt8) : Bool :=
  match m.sessionsByID.lookup id with
  | some ds => (ds.bearers.lookup ebi).isSome
  | none => false

def bearerAt (m : Manager) (id : Session.ID) (ebi : UInt8) : Option Bearer :=
  (m.sessionsByID.lookup id).bind fun ds => ds.bearers.lookup ebi

theorem hasBearer_eq (m : Manager) (id : Session.ID) (ebi : UInt8) :
    m.hasBearer id ebi = (m.bearerAt id ebi).isSome := by
  simp only [hasBearer, bearerAt]
  grind

def dropBearers (m : Manager) : List Bearer → Manager
  | [] => m
  | b :: rest =>
    dropBearers
      { m with
        bearersByLocalTEID := m.bearersByLocalTEID.erase b.localRXTEID
        bearersByRemoteTEID := m.bearersByRemoteTEID.erase b.remoteTXTEID }
      rest

def removeSessionState (m : Manager) (id : Session.ID) (paa : IP) : Manager :=
  let m :=
    match m.sessionsByID.lookup id with
    | some ds =>
      let m := m.dropBearers ds.bearers.values
      { m with sessionsByID := m.sessionsByID.erase id }
    | none => m
  { m with sessionsByPAA := m.sessionsByPAA.erase paa }

def defaultSession (id : Session.ID) (c : Session.S2BContext) (pgw localIP : IP) : Session :=
  { id
    paa := c.paa
    localGTPUIP := localIP
    pgwGTPUIP := pgw
    defaultEBI := c.ebi
    bearers := (∅ : Table UInt8 Bearer).insert c.ebi
      { ebi := c.ebi, localRXTEID := c.localUserTEID, remoteTXTEID := c.pgwUserTEID
        pgwGTPUIP := pgw, localGTPUIP := localIP }
    pgwControlTEID := c.pgwControlTEID
    localControlTEID := c.localControlTEID }

def addSession (m : Manager) (localGTPU : Option IP) (fault : Bool)
    (sess : Session.Session) : Manager × Option Session.DatapathContext :=
  match sess.s2b with
  | none => (m, none)
  | some c =>
    match c.paa.to4, c.pgwUserIP.to4, localGTPU.bind IP.to4 with
    | some paa, some pgw, some localIP =>
      if (m.bearersByLocalTEID.lookup c.localUserTEID).isSome then (m, none)
      else
        let ref : BearerRef := ⟨sess.id, c.ebi⟩
        let m1 : Manager :=
          { sessionsByID := m.sessionsByID.insert sess.id
              (defaultSession sess.id c pgw localIP)
            sessionsByPAA := m.sessionsByPAA.insert paa sess.id
            bearersByLocalTEID := m.bearersByLocalTEID.insert c.localUserTEID ref
            bearersByRemoteTEID := m.bearersByRemoteTEID.insert c.pgwUserTEID ref }
        if fault then (m1.removeSessionState sess.id paa, none)
        else (m1, some ⟨paa, true, true⟩)
    | _, _, _ => (m, none)

def removeSession (m : Manager) (id : Session.ID) : Manager :=
  match m.sessionsByID.lookup id with
  | none => m
  | some ds =>
    let m := m.dropBearers ds.bearers.values
    { m with
      sessionsByPAA := m.sessionsByPAA.erase ds.paa
      sessionsByID := m.sessionsByID.erase id }

def removeBearer (m : Manager) (fault : Bool) (id : Session.ID) (ebi : UInt8) :
    Manager × Bool :=
  match m.sessionsByID.lookup id with
  | none => (m, true)
  | some ds =>
    match ds.bearers.lookup ebi with
    | none => (m, true)
    | some b =>
      let m := m.dropBearers [b]
      ({ m with
          sessionsByID := m.sessionsByID.insert id
            { ds with bearers := ds.bearers.erase ebi } }, !fault)

@[simp] theorem dropBearers_sessionsByID (m : Manager) (bs : List Bearer) :
    (m.dropBearers bs).sessionsByID = m.sessionsByID := by
  induction bs generalizing m with
  | nil => rfl
  | cons b bs ih => exact ih _

theorem hasSession_removeSession (m : Manager) (id id' : Session.ID) :
    (m.removeSession id).hasSession id' = (!decide (id' = id) && m.hasSession id') := by
  unfold removeSession hasSession
  cases h : m.sessionsByID.lookup id with
  | none => grind
  | some ds =>
    simp only [dropBearers_sessionsByID, Table.lookup_erase_ite]
    grind

theorem addSession_ok {m m' : Manager} {localGTPU : Option IP} {fault : Bool}
    {sess : Session.Session} {d : Session.DatapathContext}
    (h : m.addSession localGTPU fault sess = (m', some d)) :
    m'.hasSession sess.id = true ∧ fault = false ∧ d.bridgeVerified = true ∧
      d.ipsecPAAAligned = true := by
  unfold addSession at h
  split at h
  · cases h
  split at h
  · split at h
    · cases h
    dsimp only at h
    split at h
    · cases h
    rename_i hf
    cases h
    exact ⟨by simp [hasSession], by simpa using hf, rfl, rfl⟩
  · cases h

end Manager
end Epdg.Gtpu
