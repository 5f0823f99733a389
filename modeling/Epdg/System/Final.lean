import Epdg.System.Sessions

/-!
Calls of `handleAuthFinal`: when a step makes one, and what the handler cannot do before it
sends the success response.
-/
namespace Epdg
open Ikev2
variable {w w' : World} {p : Event → Bool} {i : Input} {c : FinalArgs}

structure FinalArgs where
  world : World
  remote : UDPAddr
  sa : IkeSA
  hdr : IKEHeader
  pl : AuthPayloads
  natt : Bool

def finalCall (S : Server) (w : World) (i : Input) : Option FinalArgs :=
  match i.act with
  | .packet remote pkt natt =>
    (parsePacket S natt pkt).bind fun (msg, hdr) =>
      if hdr.exchangeType = exchIKEAuth ∧ hdr.initiatorBit = true ∧ hdr.responseBit = false then
        (w.lookupSA hdr.initiatorSPI).bind fun sa =>
          if sa.mu = false ∧ sa.state = .auth ∧ sa.eapRound ≠ 0 then
            match openAuth S sa.saKey msg with
            | some (some pl) =>
              if pl.auth.isSome then
                let heard := sa.heard remote i.env.now
                some
                  { world := (w.storeSA heard).storeSA (heard.noteMobike pl)
                    remote, sa := heard.noteMobike pl, hdr, pl, natt }
              else none
            | _ => none
          else none
      else none
  | _ => none

structure FinalCalled (S : Server) (w : World) (i : Input) (c : FinalArgs) : Prop where
  step_eq : step S w i = handleAuthFinal S c.world i.env c.remote c.sa c.hdr c.pl c.natt
  stored : c.world.lookupSA c.sa.spiI = some c.sa
  others : ∀ k, k ≠ c.sa.spiI → c.world.lookupSA k = w.lookupSA k
  keyed : Keyed c.world
  state : c.sa.state = .auth
  remote : c.sa.remoteAddr = c.remote
  trace : c.world.trace = w.trace
  sessions : c.world.sessions = w.sessions
  gtpu : c.world.gtpu = w.gtpu
  xfrm : c.world.xfrm = w.xfrm
  pgw : c.world.pgw = w.pgw

theorem finalCall_spec {S : Server} (hk : Keyed w) (h : finalCall S w i = some c)
    : FinalCalled S w i c := by
  simp only [finalCall] at h
  split at h
  · rename_i remote pkt natt hact
    obtain ⟨⟨msg, hdr⟩, hparse, h⟩ := Option.bind_eq_some_iff.mp h
    split at h
    · rename_i hflags
      obtain ⟨sa, hl, h⟩ := Option.bind_eq_some_iff.mp h
      split at h
      · rename_i hst
        split at h
        · rename_i pl hopen
          split at h
          · rename_i hauth
            cases h
            have hkeep {α : Type} (f : IkeSA → α)
                (hf : ∀ (s : IkeSA) (b : Bool), f { s with mobikeEnabled := b } = f s) :
                f ((sa.heard remote i.env.now).noteMobike pl) = f (sa.heard remote i.env.now) :=
              IkeSA.noteMobike_keeps f hf _ pl
            have hround : ((sa.heard remote i.env.now).noteMobike pl).eapRound = sa.eapRound :=
              hkeep IkeSA.eapRound fun _ _ => rfl
            refine ⟨?_, lookupSA_stored _ _, ?_, (hk.storeSA _).storeSA _, ?_, ?_,
              rfl, rfl, rfl, rfl, rfl⟩
            · have hmu : ¬ (sa.mu = true ∨ sa.state ≠ .auth) := by simp [hst.1, hst.2.1]
              have hkey : (sa.heard remote i.env.now).saKey = sa.saKey := rfl
              have hex : hdr.exchangeType = exchIKEAuth := hflags.1
              simp only [step, hact, handlePacket, hparse, handleMessage]
              rw [if_neg (by rw [hex]; decide), if_pos hex]
              simp [handleIKEAuth, hflags.2.1, hflags.2.2, hl, handleIKEAuthOn, hmu, hkey,
                hopen, authDispatch, hround, hst.2.2, hauth]
            · intro k hne
              simp_all
            · exact (hkeep IkeSA.state fun _ _ => rfl).trans hst.2.1
            · exact hkeep IkeSA.remoteAddr fun _ _ => rfl
          · cases h
        · cases h
      · cases h
    · cases h
  · cases h

def Event.isCompletion : Event → Bool
  | .authCompleted _ => true
  | _ => false

def Event.isRequest : Event → Bool
  | .s2bCreate _ _ => true
  | _ => false

structure Special (p : Event → Bool) : Prop where
  release : ∀ e, e.isRelease = true → p e = false
  sent : ∀ dst natt msg, p (.sent dst natt msg) = false

theorem isCompletion_special : Special Event.isCompletion :=
  ⟨fun e h => by cases e <;> trivial, fun _ _ _ => rfl⟩

theorem isRequest_special : Special Event.isRequest :=
  ⟨fun e h => by cases e <;> trivial, fun _ _ _ => rfl⟩

def Without (p : Event → Bool) (w w' : World) : Prop :=
  ∃ new, w'.trace = new ++ w.trace ∧ ∀ e ∈ new, p e = false

def Recorded (p : Event → Bool) (w w' : World) : Prop :=
  ∃ new, w'.trace = new ++ w.trace ∧ ∃ e ∈ new, p e = true

theorem Recorded.not_without (h : Recorded p w w') : ¬ Without p w w' := by
  rintro ⟨new, ht, hno⟩
  obtain ⟨new', ht', e, he, hc⟩ := h
  simp_all

theorem Recorded.of_cons {w1 w2 : World} {e : Event} (h1 : ∃ new, w1.trace = new ++ w.trace)
    (ht : w2.trace = e :: w1.trace) (hp : p e = true) (h2 : ∃ new, w'.trace = new ++ w2.trace)
    : Recorded p w w' := by
  obtain ⟨n1, e1⟩ := h1
  obtain ⟨n2, e2⟩ := h2
  exact ⟨n2 ++ e :: n1, by simp [e2, ht, e1], e, by simp, hp⟩

abbrev SuccessSent : World → World → Prop := Recorded Event.isCompletion

abbrev Unanswered : World → World → Prop := Without Event.isCompletion

namespace Without
variable {p : Event → Bool} {w w1 w2 w' : World}

theorem of_eq (h : w'.trace = w.trace) : Without p w w' :=
  ⟨[], h, fun _ he => by cases he⟩

theorem refl (w : World) : Without p w w := of_eq rfl

theorem trans (h1 : Without p w w1) (h2 : Without p w1 w2) : Without p w w2 := by
  obtain ⟨n1, e1, a1⟩ := h1
  obtain ⟨n2, e2, a2⟩ := h2
  refine ⟨n2 ++ n1, by simp [e1, e2], ?_⟩
  grind

theorem grows (h : Without p w w') : ∃ new, w'.trace = new ++ w.trace := by
  obtain ⟨new, ht, -⟩ := h
  exact ⟨new, ht⟩

theorem cons {e : Event} (ht : w'.trace = e :: w.trace) (h : p e = false) : Without p w w' :=
  ⟨[e], ht, by simpa using h⟩

theorem released {new : List Event} (hp : Special p) (ht : w'.trace = new ++ w.trace)
    (hr : ∀ e ∈ new, e.isRelease = true) : Without p w w' :=
  ⟨new, ht, fun e he => hp.release e (hr e he)⟩

theorem of_aside (hp : Special p) (h : w.Aside w') : Without p w w' := by
  obtain ⟨new, ht, hr⟩ := h.trace
  exact released hp ht hr

theorem respond {env : Env} {remote : UDPAddr} (hp : Special p) (w : World) (sa : IkeSA)
    (exch : UInt8) (msgID : UInt32) (inner : List OutPayload) (natt : Bool) :
    Without p w (Ikev2.respond w env remote sa exch msgID inner natt) := by
  simp only [Ikev2.respond]
  split
  · exact refl w
  · exact cons rfl (hp.sent _ _ _)

end Without

section
variable {S : Server} {env : Env} {remote : UDPAddr} {hdr : IKEHeader} {w w1 : World}
  {sa : IkeSA} {r : CreateSessionResult} {natt : Bool}

theorem implicitDetach_without (hp : Special p) (h : implicitDetach S w env sa = some w1)
    : Without p w w1 := by
  rcases implicitDetach_some h with rfl | ⟨k, old, -, -, rfl⟩
  · exact .refl w1
  obtain ⟨new, ht, hr⟩ := trace_fullTeardown S.prims env.strOpen (w.storeSA old.closing)
    old.closing
  exact .released hp ht hr

theorem FinalCalled.answered (hc : FinalCalled S w i c) (hsent : SuccessSent c.world (step S w i)) :
    ∃ auth w1, implicitDetach S (c.world.emit (.authVerified c.sa auth)) i.env c.sa = some w1 ∧
      step S w i = finalCreate S w1 i.env c.remote c.sa c.hdr c.natt ∧
      ¬ Unanswered w1 (finalCreate S w1 i.env c.remote c.sa c.hdr c.natt) := by
  have hsent := hsent.not_without
  rw [hc.step_eq] at hsent ⊢
  have hcase := handleAuthFinal_cases S c.world i.env c.remote c.sa c.hdr c.pl c.natt
  generalize handleAuthFinal S c.world i.env c.remote c.sa c.hdr c.pl c.natt = out at hcase hsent
  cases hcase with
  | refused => exact (hsent (.respond isCompletion_special _ _ _ _ _ _)).elim
  | stuck => exact (hsent (.cons rfl rfl)).elim
  | verified auth w1 hauth hlen heq hd =>
    refine ⟨auth, w1, hd, rfl, ?_⟩
    intro h
    apply hsent
    exact Without.trans (.cons rfl rfl) ((implicitDetach_without isCompletion_special hd).trans h)

theorem lookupSA_finalRespond (k : UInt64) :
    (finalRespond S w env remote sa hdr natt r).lookupSA k = w.lookupSA k := by
  simp only [finalRespond]
  split
  · simp_all
  · simp_all

theorem lookupSA_finalDatapath (k : UInt64) :
    (finalDatapath S w env remote sa hdr natt r).lookupSA k = w.lookupSA k := by
  simp only [finalDatapath]
  split
  · rw [lookupSA_finalRespond, World.lookupSA_updateSession]
  split
  · simp [sendAuthNotify, lookupSA_respond]
  · simp [lookupSA_finalRespond]

theorem lookupSA_finalInstall {spi : UInt32} (hspi : env.espSPI = some spi) :
    (finalInstall S w env remote sa hdr natt r).lookupSA sa.spiI = some (sa.establish spi) := by
  have hstored : ∀ out, installFinal S.prims ((w.storeSA (sa.establish spi)).emit
      (.established (sa.establish spi).ref)) env remote (sa.establish spi) r = out →
      out.1.lookupSA sa.spiI = some (sa.establish spi) := by
    simp_all
  simp only [finalInstall, hspi]
  split
  · rename_i w' hi
    have h := hstored _ hi
    simpa [sendAuthNotify, lookupSA_respond] using h
  · rename_i w' hi
    rw [lookupSA_finalDatapath]
    exact hstored _ hi
  · rename_i w' hi
    rw [lookupSA_finalRespond]
    exact hstored _ hi

end
end Epdg
