import Epdg.Properties.Completion
import Epdg.System.Remain

/-!
A second attach of the same subscriber to the same APN.

`handleAuthFinal` detaches the older session before it creates the new one, but only when
exactly one active session matches and its SA is still found under the SPI the session
carries. A handover attach skips the detach, so that two sessions can be active; the search
refuses to choose between them from then on.
-/
namespace Epdg
open Ikev2
variable {i : Input} {f : Session.Session → Session.Session} {c : FinalArgs} {w w0 : World}
  {a : Attach}

def ActiveFor (w : World) (imsi apn : Bytes) (id : Session.ID) : Prop :=
  ∃ s, w.sessions.get id = some s ∧ s.state = .active ∧ s.imsi = imsi ∧ s.apn = apn

def KeepsUser (f : Session.Session → Session.Session) : Prop :=
  ∀ s, (f s).imsi = s.imsi ∧ (f s).apn = s.apn

theorem KeepsUser.transition (next : Session.State) : KeepsUser (·.transition next) := by
  intro s
  dsimp only
  rw [Session.transition_eq]
  exact ⟨rfl, rfl⟩

theorem KeepsUser.comp {g : Session.Session → Session.Session} (hg : KeepsUser g) (hf : KeepsUser f)
    : KeepsUser fun s => g (f s) :=
  fun s => ⟨(hg _).1.trans (hf s).1, (hg _).2.trans (hf s).2⟩

section
variable {S : Server} {env : Env} {remote : UDPAddr} {hdr : IKEHeader} {w w1 : World}
  {sa : IkeSA} {r : CreateSessionResult} {natt : Bool} {id : Session.ID}

theorem ActiveFor.congr {w' : World} {imsi apn : Bytes} (hs : w'.sessions = w.sessions)
    (h : ActiveFor w' imsi apn id) : ActiveFor w imsi apn id := by
  obtain ⟨s, hget, hrest⟩ := h
  exact ⟨s, hs ▸ hget, hrest⟩

end

section Runs
open Scenario Wire

end Runs
end Epdg
