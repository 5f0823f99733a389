import Epdg.Lib.Table
import Epdg.Session.Fsm

/-!
The session table (`internal/session/manager.go`).

Sessions are shared by pointer in the source. Every holder reaches them through
their id, so a write through a pointer is a write to the table entry, and a write
to a session that was already removed is lost. Go ranges over a map in no fixed
order; the searches below go through the entries in table order, and the results
that matter do not depend on it where at most one entry matches.
-/
namespace Epdg.Session

structure Manager where
  sessions : Table ID Session := ∅
  deleted : List ID := []

namespace Manager
variable {teid : UInt32} {s : Session} {f : Session → Session}

def get (m : Manager) (id : ID) : Option Session := m.sessions.lookup id

def getOrCreate (m : Manager) (id : ID) : Manager :=
  match m.sessions.lookup id with
  | some _ => m
  | none => { m with sessions := m.sessions.insert id { id } }

def update (m : Manager) (id : ID) (f : Session → Session) : Manager :=
  { m with sessions := m.sessions.modify id f }

def delete (m : Manager) (id : ID) : Manager :=
  { sessions := m.sessions.erase id, deleted := id :: m.deleted }

def isActiveFor (imsi apn : Bytes) (s : Session) : Bool :=
  s.imsi = imsi && (apn = [] || s.apn = apn) && s.state = .active

def findSingleActiveByIMSIAPN (m : Manager) (imsi apn : Bytes) : Option Session :=
  if imsi = [] then none
  else
    match m.sessions.values.filter (isActiveFor imsi apn) with
    | [found] => some found
    | _ => none

def hasLocalControlTEID (teid : UInt32) (s : Session) : Bool :=
  match s.s2b with
  | some c => c.localControlTEID = teid
  | none => false

def findByLocalControlTEID (m : Manager) (teid : UInt32) : Option Session :=
  if teid = 0 then none else m.sessions.values.find? (hasLocalControlTEID teid)

def Keyed (m : Manager) : Prop :=
  ∀ id s, m.sessions.lookup id = some s → s.id = id

@[simp] theorem get_update (m : Manager) (id id' : ID) (f : Session → Session) :
    (m.update id f).get id' = if id' = id then (m.get id).map f else m.get id' :=
  Table.lookup_modify _ _ _ _

@[simp] theorem get_delete (m : Manager) (id id' : ID) :
    (m.delete id).get id' = if id' = id then none else m.get id' :=
  Table.lookup_erase_ite _ _ _

theorem get_getOrCreate (m : Manager) (id id' : ID) :
    (m.getOrCreate id).get id' =
      if id' = id then some ((m.get id).getD { id }) else m.get id' := by
  unfold getOrCreate get
  cases h : m.sessions.lookup id with
  | none => exact Table.lookup_insert_ite _ _ _ _
  | some s => grind

theorem findByLocalControlTEID_spec {m : Manager} (h : m.findByLocalControlTEID teid = some s) :
    hasLocalControlTEID teid s = true ∧ ∃ id, m.get id = some s := by
  unfold findByLocalControlTEID at h
  split at h
  · contradiction
  · exact Table.find_values h

section Keys
variable {m : Manager} {id : ID}

theorem Keyed.update (h : m.Keyed) (hf : ∀ s, (f s).id = s.id) : (m.update id f).Keyed := by
  intro id' s hs
  have hs' := (get_update m id id' f).symm.trans hs
  split at hs'
  · rename_i e
    obtain ⟨s0, h0, rfl⟩ := Option.map_eq_some_iff.mp hs'
    rw [hf, h id s0 h0, e]
  · exact h id' s hs'

theorem Keyed.of_update (h : (m.update id f).Keyed) (hf : ∀ s, (f s).id = s.id) : m.Keyed := by
  intro id' s hs
  by_cases e : id' = id
  · subst e
    have hk := h id' (f s) ((get_update m id' id' f).trans (by rw [if_pos rfl, get, hs]; rfl))
    rwa [hf] at hk
  · exact h id' s ((get_update m id id' f).trans ((if_neg e).trans hs))

theorem Keyed.delete (h : m.Keyed) : (m.delete id).Keyed := by
  intro id' s hs
  have hs' := (get_delete m id id').symm.trans hs
  split at hs'
  · cases hs'
  · exact h id' s hs'

theorem Keyed.getOrCreate (h : m.Keyed) : (m.getOrCreate id).Keyed := by
  intro id' s hs
  have hs' := (get_getOrCreate m id id').symm.trans hs
  split at hs'
  · rename_i e
    cases hg : m.get id with
    | none => grind
    | some s0 =>
      rw [hg, Option.getD_some, Option.some.injEq] at hs'
      rw [← hs', h id s0 hg, e]
  · exact h id' s hs'

theorem findByLocalControlTEID_keyed (h : m.Keyed) (hf : m.findByLocalControlTEID teid = some s) :
    m.get s.id = some s ∧ ∃ c, s.s2b = some c ∧ c.localControlTEID = teid := by
  obtain ⟨hteid, id, hget⟩ := findByLocalControlTEID_spec hf
  refine ⟨by rw [h id s hget]; exact hget, ?_⟩
  cases hc : s.s2b with
  | none => simp [hasLocalControlTEID, hc] at hteid
  | some c => exact ⟨c, rfl, by simpa [hasLocalControlTEID, hc] using hteid⟩

end Keys

end Manager
end Epdg.Session
