import Epdg.System.Sessions

/-!
What the release of sessions leaves of the session table.

PGW requests and teardowns take sessions out of the table, move their state on and note a
handover. Every relation between what a session was and what it is that allows for this holds
between the table before and after.
-/
namespace Epdg
open Ikev2

def Remain (R : Session.ID → Session.Session → Session.Session → Prop) (w w' : World) : Prop :=
  w.sessions.Keyed → w'.sessions.Keyed ∧
    ∀ id s', w'.sessions.get id = some s' → ∃ s, w.sessions.get id = some s ∧ R id s s'

structure Fading (R : Session.ID → Session.Session → Session.Session → Prop) : Prop where
  refl : ∀ id s, R id s s
  trans : ∀ {id s1 s2 s3}, R id s1 s2 → R id s2 s3 → R id s1 s3
  transition : ∀ id s next, next = .cleaningUp ∨ next = .deleted → R id s (s.transition next)
  mark : ∀ id s, R id s { s with handoverComplete := true }
  clear : ∀ id s, s.state = .new ∨ s.state = .deleted → R id s { s with s2b := none }

theorem transition_not_active {next : Session.State} (hne : next ≠ .active)
    {s : Session.Session} (h : (s.transition next).state = .active) : s.state = .active := by
  rcases Session.transition_state s next with he | he
  · simp_all
  · exact he.symm.trans h

namespace Remain
variable {f : Session.Session → Session.Session}
variable {R : Session.ID → Session.Session → Session.Session → Prop} {w w1 w2 w' : World}

section
variable (hR : Fading R)
include hR

theorem of_eq (h : w'.sessions = w.sessions) : Remain R w w' := by
  intro hk
  rw [h]
  exact ⟨hk, fun id s hs => ⟨s, hs, hR.refl id s⟩⟩

theorem refl (w : World) : Remain R w w := of_eq hR rfl

theorem trans (h1 : Remain R w w1) (h2 : Remain R w1 w2) : Remain R w w2 := by
  intro hk
  obtain ⟨hk1, h1⟩ := h1 hk
  obtain ⟨hk2, h2⟩ := h2 hk1
  refine ⟨hk2, fun id s2 hs2 => ?_⟩
  obtain ⟨s1, hs1, hr1⟩ := h2 id s2 hs2
  obtain ⟨s, hs, hr⟩ := h1 id s1 hs1
  exact ⟨s, hs, hR.trans hr hr1⟩

theorem update {id : Session.ID} (hid : ∀ s, (f s).id = s.id)
    (hf : ∀ s, w.sessions.get id = some s → R id s (f s)) :
    Remain R w (w.setSessions (w.sessions.update id f)) := by
  intro hk
  refine ⟨hk.update hid, fun id' s' hs' => ?_⟩
  rw [World.setSessions_sessions, Session.Manager.get_update] at hs'
  split at hs'
  · rename_i he
    subst he
    obtain ⟨s, hs, rfl⟩ := Option.map_eq_some_iff.mp hs'
    simp_all
  · exact ⟨s', hs', hR.refl id' s'⟩

theorem updateSession (id : Option Session.ID) (hid : ∀ s, (f s).id = s.id)
    (hf : ∀ i s, id = some i → w.sessions.get i = some s → R i s (f s)) :
    Remain R w (w.updateSession id f) := by
  cases id with
  | none => exact refl hR w
  | some i => exact update hR hid fun s => hf i s rfl

theorem delete (w : World) (id : Session.ID) :
    Remain R w (w.setSessions (w.sessions.delete id)) := by
  intro hk
  refine ⟨hk.delete, fun id' s' hs' => ?_⟩
  rw [World.setSessions_sessions, Session.Manager.get_delete] at hs'
  split at hs'
  · cases hs'
  · exact ⟨s', hs', hR.refl id' s'⟩

theorem releases {touched taken : Session.ID → Prop} (h : Releases touched taken w w') :
    Remain R w w' := by
  refine h.closed (refl hR) (trans hR) fun h1 => ?_
  cases h1 with
  | transition _ hn => exact update hR (by simp) fun s _ => hR.transition _ s _ hn
  | delete => exact delete hR _ _
  | clear _ hu => exact fun hk => update hR (fun _ => rfl) (fun s hs => hR.clear _ s (hu hk s hs)) hk
  | mark => exact update hR (fun _ => rfl) fun s _ => hR.mark _ s
  | _ => exact of_eq hR rfl

theorem pgwEvents (w : World) (env : Env) (pos : Nat) : Remain R w (pgwEvents w env pos) :=
  releases hR (pgwEvents_releases w env pos)

theorem respond {env : Env} {remote : UDPAddr} (w : World) (sa : IkeSA) (exch : UInt8)
    (msgID : UInt32) (inner : List OutPayload) (natt : Bool) :
    Remain R w (respond w env remote sa exch msgID inner natt) := by
  simp only [Ikev2.respond]
  split
  · exact refl hR w
  · exact of_eq hR rfl

theorem fullTeardown (P : Primitives) (strOpen : Bool) (w : World) (sa : IkeSA) :
    Remain R w (fullTeardown P strOpen w sa) := by
  intro hk
  refine ⟨fullTeardown_keyed hk P strOpen sa, fun id s hs => ?_⟩
  rw [get_fullTeardown] at hs
  split at hs
  · cases hs
  · exact ⟨s, hs, hR.refl id s⟩

end

end Remain

end Epdg
