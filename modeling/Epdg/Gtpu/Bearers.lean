import Epdg.Gtpu.Manager

/-!
Dedicated bearers: `AddBearer` and `UpdateBearer` of `internal/gtpu/dataplane.go`, and the
allocation of their identities in `cmd/epdg/main.go`.

As for `RemoveBearer`, a `fault` is a TFT rule sync that fails after the tables were written.
-/
namespace Epdg.Gtpu

structure NewBearer where
  ebi : UInt8
  localRXTEID : UInt32 := 0
  remoteTXTEID : UInt32
  pgwGTPUIP : Option IP
  localGTPUIP : Option IP
  qci : UInt8
  tft : Option TFT
  deriving DecidableEq, Repr

def NewBearer.activate (b : NewBearer) (ds : Session) : Bearer :=
  { ebi := b.ebi, localRXTEID := b.localRXTEID, remoteTXTEID := b.remoteTXTEID
    pgwGTPUIP := b.pgwGTPUIP.getD ds.pgwGTPUIP
    localGTPUIP := b.localGTPUIP.getD ds.localGTPUIP, qci := b.qci, tft := b.tft }

structure TeidDraw where
  teid : Option { teid : UInt32 // teid ≠ 0 }
  fault : Bool := false
  deriving DecidableEq, Repr

namespace Manager

def addBearer (m : Manager) (fault : Bool) (id : Session.ID) (b : NewBearer) : Manager × Bool :=
  if b.localRXTEID = 0 ∨ b.remoteTXTEID = 0 ∨ b.ebi = 0 then (m, false)
  else
    match m.sessionsByID.lookup id with
    | none => (m, false)
    | some ds =>
      if (m.bearersByLocalTEID.lookup b.localRXTEID).isSome then (m, false)
      else
        let ref : BearerRef := ⟨id, b.ebi⟩
        ({ m with
            sessionsByID := m.sessionsByID.insert id
              { ds with bearers := ds.bearers.insert b.ebi (b.activate ds) }
            bearersByLocalTEID := m.bearersByLocalTEID.insert b.localRXTEID ref
            bearersByRemoteTEID := m.bearersByRemoteTEID.insert b.remoteTXTEID ref }, !fault)

def updatedTFT (old : Option TFT) (tftRaw : Bytes) : Option TFT :=
  if tftRaw = [] then old
  else
    match parseTFT tftRaw with
    | some (some tft) => some tft
    | _ => old

def updateBearer (m : Manager) (fault : Bool) (id : Session.ID) (ebi qci : UInt8)
    (tftRaw : Bytes) : Manager × Bool :=
  match m.sessionsByID.lookup id with
  | none => (m, false)
  | some ds =>
    match ds.bearers.lookup ebi with
    | none => (m, false)
    | some b =>
      let b :=
        { b with qci := if qci ≠ 0 then qci else b.qci, tft := updatedTFT b.tft tftRaw }
      ({ m with
          sessionsByID := m.sessionsByID.insert id
            { ds with bearers := ds.bearers.insert ebi b } }, !fault)

def allocateLoop (id : Session.ID) (b : NewBearer) :
    Manager → List TeidDraw → Manager × Option UInt32
  | m, [] => (m, none)
  | m, d :: draws =>
    match d.teid with
    | none => (m, none)
    | some teid =>
      match m.addBearer d.fault id { b with localRXTEID := teid } with
      | (m, true) => (m, some teid)
      | (m, false) => allocateLoop id b m draws

def allocateBearerTEID (m : Manager) (draws : Nat → TeidDraw) (id : Session.ID)
    (b : NewBearer) : Manager × Option UInt32 :=
  allocateLoop id b m ((List.range 8).map draws)

def allocateDedicatedEBI (m : Manager) (id : Session.ID) (defaultEBI : UInt8) : Option UInt8 :=
  [6, 7, 8, 9, 10, 11, 12, 13, 14, 15].find? fun ebi =>
    ebi ≠ defaultEBI && !m.hasBearer id ebi

def OnlyAt (id : Session.ID) (m m' : Manager) : Prop :=
  ∀ id', id' ≠ id → m'.sessionsByID.lookup id' = m.sessionsByID.lookup id'

namespace OnlyAt
variable {id : Session.ID} {m m1 m2 : Manager}

theorem refl (m : Manager) : OnlyAt id m m := fun _ _ => rfl

theorem trans (h1 : OnlyAt id m m1) (h2 : OnlyAt id m1 m2) : OnlyAt id m m2 :=
  fun id' hne => (h2 id' hne).trans (h1 id' hne)

theorem insert (m : Manager) (ds : Session) (l r : Table UInt32 BearerRef) :
    OnlyAt id m { m with
      sessionsByID := m.sessionsByID.insert id ds, bearersByLocalTEID := l
      bearersByRemoteTEID := r } := by
  intro id' hne
  simp_all

end OnlyAt

variable (m : Manager) (id : Session.ID)

theorem removeSession_onlyAt : OnlyAt id m (m.removeSession id) := by
  intro id' hne
  simp only [removeSession]
  split
  · rfl
  · simp_all

theorem addSession_onlyAt (localGTPU : Option IP) (fault : Bool) (sess : Session.Session) :
    OnlyAt sess.id m (m.addSession localGTPU fault sess).1 := by
  simp only [addSession]
  split
  · exact .refl m
  split
  · split
    · exact .refl m
    intro id' hne
    split
    · simp only [removeSessionState]
      simp_all
    · simp_all
  · exact .refl m

theorem removeBearer_onlyAt (fault : Bool) (ebi : UInt8) :
    OnlyAt id m (m.removeBearer fault id ebi).1 := by
  simp only [removeBearer]
  split
  · exact .refl m
  split
  · exact .refl m
  · intro id' hne
    simp_all

theorem addBearer_onlyAt (fault : Bool) (b : NewBearer) :
    OnlyAt id m (m.addBearer fault id b).1 := by
  simp only [addBearer]
  split
  · exact .refl m
  split
  · exact .refl m
  split
  · exact .refl m
  · exact .insert m _ _ _

theorem updateBearer_onlyAt (fault : Bool) (ebi qci : UInt8) (tftRaw : Bytes) :
    OnlyAt id m (m.updateBearer fault id ebi qci tftRaw).1 := by
  simp only [updateBearer]
  split
  · exact .refl m
  split
  · exact .refl m
  · exact .insert m _ _ _

theorem allocateLoop_onlyAt (b : NewBearer) (draws : List TeidDraw) :
    OnlyAt id m (allocateLoop id b m draws).1 := by
  induction draws generalizing m with
  | nil => exact .refl m
  | cons d draws ih =>
    simp only [allocateLoop]
    split
    · exact .refl m
    rename_i teid _
    have hadd := addBearer_onlyAt m id d.fault { b with localRXTEID := teid }
    split
    · simp_all
    · rename_i m1 heq
      rw [heq] at hadd
      exact hadd.trans (ih m1)

end Manager
end Epdg.Gtpu
