import Epdg.System.Remain
import Epdg.System.SessionEffects

/-!
Handlers that leave the half-open SAs and their sessions alone.

Everything but IKE_SA_INIT and IKE_AUTH keeps the data of the sessions in use and the stage of the
half-open SAs. A PGW request may take a session out of use at any point, but does not bring it
back.
-/
namespace Epdg
open Ikev2

namespace Session
variable {s : Session}

def Session.Ready (s : Session) : Prop :=
  ({ s with state := .datapathInstalling } : Session).canActivate = true

def Session.data (s : Session) :
    Bytes × Option APNProfile × Option S2BContext × Option DatapathContext :=
  (s.msk, s.apnProfile, s.s2b, s.datapath)

def Session.InUse (s : Session) : Prop :=
  s.state ≠ .new ∧ s.state ≠ .cleaningUp ∧ s.state ≠ .failed ∧ s.state ≠ .deleted

theorem ready_congr {s' : Session} (h : s'.data = s.data) : s'.Ready ↔ s.Ready := by
  simp only [Session.data, Prod.mk.injEq] at h
  simp only [Session.Ready, Session.canActivate, h]

theorem inUse_of_active (h : s.state = .active) : s.InUse := by
  simp [Session.InUse, h]

@[simp] theorem transition_data (s : Session) (next : State) :
    (s.transition next).data = s.data := by
  rw [transition_eq]
  rfl

@[simp] theorem transition_msk (s : Session) (next : State) :
    (s.transition next).msk = s.msk := by
  rw [transition_eq]

theorem inUse_of_transition {next : State} (hne : next ≠ .eapAuthenticating)
    (h : (s.transition next).InUse) : s.InUse := by
  revert h
  simp only [Session.InUse, Session.transition]
  cases hs : s.state <;> cases next <;> simp_all [allowed]

end Session

def Settled (s s' : Session.Session) : Prop :=
  s'.msk = s.msk ∧ (s'.InUse → s.InUse ∧ s'.data = s.data) ∧
    (s'.state = .active → s.state = .active)

theorem Settled.transition (s : Session.Session) {next : Session.State}
    (hne : next ≠ .eapAuthenticating) (hna : next ≠ .active) :
    Settled s (s.transition next) := by
  refine ⟨Session.transition_msk s next, fun h => ?_, transition_not_active hna⟩
  exact ⟨Session.inUse_of_transition hne h, Session.transition_data s next⟩

theorem settled_fading : Fading fun _ => Settled where
  refl _ _ := ⟨rfl, fun h => ⟨h, rfl⟩, id⟩
  trans h1 h2 := by
    refine ⟨h2.1.trans h1.1, fun h => ?_, fun h => h1.2.2 (h2.2.2 h)⟩
    obtain ⟨hu, hd⟩ := h2.2.1 h
    obtain ⟨hu', hd'⟩ := h1.2.1 hu
    simp_all
  transition _ s next hnext := by
    rcases hnext with rfl | rfl
    · exact .transition s (by decide) (by decide)
    · exact .transition s (by decide) (by decide)
  mark _ _ := ⟨rfl, fun h => ⟨h, rfl⟩, id⟩
  clear _ s hs := by
    refine ⟨rfl, fun h => ?_, id⟩
    rcases hs with hs | hs
    · exact (h.1 hs).elim
    · exact (h.2.2.2 hs).elim

def SameStage (sa sa' : IkeSA) : Prop :=
  sa'.ownSession = sa.ownSession ∧ sa'.sessionID = sa.sessionID ∧ sa'.msk = sa.msk ∧
    (sa'.eapRound = 0 ↔ sa.eapRound = 0)

structure Calm (w w' : World) : Prop where
  keyed : Keyed w → Keyed w'
  sessions : Remain (fun _ => Settled) w w'
  halfOpen : ∀ k sa', w'.lookupSA k = some sa' → sa'.state = .auth →
    ∃ sa, w.lookupSA k = some sa ∧ sa.state = .auth ∧ SameStage sa sa'

namespace Calm
variable {w w1 w2 w' : World} {sa sa' : IkeSA}

theorem of_sessions (hs : Remain (fun _ => Settled) w w')
    (hl : ∀ k, w'.lookupSA k = w.lookupSA k) : Calm w w' where
  keyed hk k sa h := hk k sa (hl k ▸ h)
  sessions := hs
  halfOpen k sa' hl' hauth := ⟨sa', hl k ▸ hl', hauth, rfl, rfl, rfl, Iff.rfl⟩

theorem of_eq (hs : w'.sessions = w.sessions) (hl : ∀ k, w'.lookupSA k = w.lookupSA k) :
    Calm w w' :=
  of_sessions (.of_eq settled_fading hs) hl

theorem refl (w : World) : Calm w w := of_eq rfl fun _ => rfl

theorem trans (h1 : Calm w w1) (h2 : Calm w1 w2) : Calm w w2 where
  keyed hk := h2.keyed (h1.keyed hk)
  sessions := h1.sessions.trans settled_fading h2.sessions
  halfOpen k sa2 hl2 hs2 := by
    obtain ⟨sa1, hl1, hs1, ho1, hi1, hm1, hr1⟩ := h2.halfOpen k sa2 hl2 hs2
    obtain ⟨sa, hl, hs, ho, hi, hm, hr⟩ := h1.halfOpen k sa1 hl1 hs1
    exact ⟨sa, hl, hs, ho1.trans ho, hi1.trans hi, hm1.trans hm, hr1.trans hr⟩

theorem storeSA (w : World) (sa : IkeSA) (hl : sa'.state = .auth → w.lookupSA sa'.spiI = some sa)
    (hsame : sa'.state = .auth → sa.state = .auth ∧ SameStage sa sa') :
    Calm w (w.storeSA sa') where
  keyed hk := hk.storeSA sa'
  sessions := .of_eq settled_fading rfl
  halfOpen k sa1 hl1 hs1 := by
    rw [World.lookupSA_storeSA] at hl1
    split at hl1
    · simp_all
    · exact ⟨sa1, hl1, hs1, rfl, rfl, rfl, Iff.rfl⟩

theorem touch (hl : w.lookupSA sa.spiI = some sa) (hc : sa'.core = sa.core) :
    Calm w (w.storeSA sa') := by
  have hspi : sa'.spiI = sa.spiI := IkeSA.eq_of_core hc IkeSA.spiI fun _ => rfl
  refine storeSA w sa (fun _ => hspi ▸ hl) fun hs => ?_
  refine ⟨(IkeSA.eq_of_core hc IkeSA.state fun _ => rfl) ▸ hs,
    IkeSA.eq_of_core hc IkeSA.ownSession fun _ => rfl,
    IkeSA.eq_of_core hc IkeSA.sessionID fun _ => rfl,
    IkeSA.eq_of_core hc IkeSA.msk fun _ => rfl, ?_⟩
  rw [IkeSA.eq_of_core hc IkeSA.eapRound fun _ => rfl]

theorem deleteSA (w : World) (k : UInt64) : Calm w (w.deleteSA k) where
  keyed hk k' sa hl := by
    rw [World.lookupSA_deleteSA] at hl
    split at hl
    · cases hl
    · exact hk k' sa hl
  sessions := .of_eq settled_fading rfl
  halfOpen k' sa' hl' hs' := by
    rw [World.lookupSA_deleteSA] at hl'
    split at hl'
    · cases hl'
    · exact ⟨sa', hl', hs', rfl, rfl, rfl, Iff.rfl⟩

theorem updateSession (w : World) (id : Option Session.ID)
    {f : Session.Session → Session.Session} (hid : ∀ s, (f s).id = s.id)
    (hf : ∀ s, Settled s (f s)) : Calm w (w.updateSession id f) :=
  of_sessions (.updateSession settled_fading id hid fun _ s _ _ => hf s)
    (w.lookupSA_updateSession id f)

theorem respond {env : Env} {remote : UDPAddr} (w : World) (sa : IkeSA) (exch : UInt8)
    (msgID : UInt32) (inner : List OutPayload) (natt : Bool) :
    Calm w (respond w env remote sa exch msgID inner natt) :=
  of_sessions (.respond settled_fading w sa exch msgID inner natt)
    (lookupSA_respond sa exch msgID inner natt)

theorem pgwEvents (w : World) (env : Env) (pos : Nat) : Calm w (pgwEvents w env pos) :=
  of_sessions (.pgwEvents settled_fading w env pos) (lookupSA_pgwEvents w env pos)

theorem teardown {P : Primitives} {strOpen : Bool} (w : World) (sa : IkeSA) :
    Calm w (fullTeardown P strOpen (w.storeSA sa.closing) sa.closing) := by
  have hl (k : UInt64) : (fullTeardown P strOpen (w.storeSA sa.closing) sa.closing).lookupSA k =
      (w.deleteSA sa.spiI).lookupSA k := by
    have hspi : sa.closing.spiI = sa.spiI := rfl
    simp_all
  have hc := deleteSA w sa.spiI
  refine ⟨fun hk k sa' h => hc.keyed hk k sa' (hl k ▸ h), ?_,
    fun k sa' h => hc.halfOpen k sa' (hl k ▸ h)⟩
  exact Remain.trans settled_fading (.of_eq settled_fading (w.storeSA_sessions sa.closing))
    (.fullTeardown settled_fading P strOpen _ _)

end Calm

section Handlers
variable {S : Server} {env : Env} {remote : UDPAddr} {hdr : IKEHeader} {msg : Bytes}
  {w : World} {sa : IkeSA}

theorem Calm.emit (w : World) (e : Event) : Calm w (w.emit e) := of_eq rfl fun _ => rfl

theorem Calm.storeEstablished (w : World) (sa : IkeSA) (hs : sa.state ≠ .auth) :
    Calm w (w.storeSA sa) :=
  storeSA w sa (fun h => (hs h).elim) fun h => (hs h).elim

theorem Calm.storeSame {sa' : IkeSA} (hl : w.lookupSA sa.spiI = some sa)
    (hspi : sa'.spiI = sa.spiI) (hst : sa'.state = sa.state) (hsame : SameStage sa sa') :
    Calm w (w.storeSA sa') :=
  storeSA w sa (fun _ => hspi ▸ hl) fun h => ⟨hst ▸ h, hsame⟩

theorem dpdCheck_calm (hk : Keyed w) (spiI : UInt64) : Calm w (dpdCheck S w env spiI) := by
  simp only [dpdCheck]
  split
  · exact .refl w
  rename_i sa hl
  have hl' : w.lookupSA sa.spiI = some sa := by
    rw [hk _ _ hl]
    exact hl
  split
  · exact .refl w
  split
  · split
    · simp only [sendDPDProbe]
      split
      · exact .touch hl' rfl
      · have h1 : Calm w (w.storeSA (sa.probed env.now)) := .touch hl' rfl
        exact h1.trans (.emit _ _)
    · exact .refl w
  · split
    · exact .teardown w sa
    · exact .refl w

theorem handlePGW_calm (ev : PgwEvent) : Calm w (handlePGW w env ev) :=
  .of_sessions (.releases settled_fading (handlePGW_releases w env ev))
    (handlePGW_aside w env ev).lookupSA

end Handlers

end Epdg
