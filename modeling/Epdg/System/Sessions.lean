import Epdg.System.Invariants

/-!
The session table under PGW requests and teardowns.

Sessions sit under their own id. A request of the PGW finds a session by its local control
TEID and leaves every other session alone; the one it finds it releases only when it deletes
the PDN connection or its default bearer.
-/
namespace Epdg
open Ikev2
variable {taken touched : Session.ID → Prop} {w' : World} {env : Env}

def PgwEvent.releases (c : Session.S2BContext) : PgwEvent → Prop
  | .deleteSession teid _ => teid = c.localControlTEID
  | .deleteBearer teid ebis _ => teid = c.localControlTEID ∧ c.ebi ≠ 0 ∧ c.ebi ∈ ebis

structure SessionKept (id : Session.ID) (w w' : World) : Prop where
  session : (w'.sessions.get id).map (Session.Session.marked false) =
    (w.sessions.get id).map (Session.Session.marked false)
  gtpu : w.gtpu.hasSession id = true → w'.gtpu.hasSession id = true

namespace SessionKept
variable {id' : Session.ID}
variable {id : Session.ID} {w w1 w2 w' : World}

theorem refl (w : World) : SessionKept id w w := ⟨rfl, fun h => h⟩

theorem trans (h1 : SessionKept id w w1) (h2 : SessionKept id w1 w2) : SessionKept id w w2 :=
  ⟨h2.session.trans h1.session, fun h => h2.gtpu (h1.gtpu h)⟩

theorem of_eq (hs : w'.sessions = w.sessions) (hg : w'.gtpu = w.gtpu) : SessionKept id w w' where
  session := by rw [hs]
  gtpu h := hg ▸ h

theorem get_some (h : SessionKept id w w') {s : Session.Session}
    (hs : w.sessions.get id = some s) : ∃ b, w'.sessions.get id = some (s.marked b) := by
  have he := h.session
  rw [hs, Option.map_some] at he
  obtain ⟨s', hs', hm⟩ := Option.map_eq_some_iff.mp he
  refine ⟨s'.handoverComplete, hs'.trans ?_⟩
  rw [← Session.marked_marked s false, ← hm, Session.marked_marked, Session.marked_self]

theorem symm_some (h : SessionKept id w w') {s' : Session.Session}
    (hs : w'.sessions.get id = some s') :
    ∃ s b, w.sessions.get id = some s ∧ s' = s.marked b := by
  have he := h.session.symm
  rw [hs, Option.map_some] at he
  obtain ⟨s, hs', hm⟩ := Option.map_eq_some_iff.mp he
  refine ⟨s, s'.handoverComplete, hs', ?_⟩
  rw [← Session.marked_marked s false, hm, Session.marked_marked, Session.marked_self]

theorem update {f : Session.Session → Session.Session} (w : World) (hne : id ≠ id') :
    SessionKept id w (w.setSessions (w.sessions.update id' f)) where
  session := by simp [hne]
  gtpu h := h

theorem delete (w : World) (hne : id ≠ id') :
    SessionKept id w (w.setSessions (w.sessions.delete id')) where
  session := by simp [hne]
  gtpu h := h

theorem removeSession (w : World) (id' : Session.ID) (hne : id ≠ id') :
    SessionKept id w (w.setGtpu (w.gtpu.removeSession id')) where
  session := rfl
  gtpu h := by
    have hr := Gtpu.Manager.hasSession_removeSession w.gtpu id' id
    simp only [hne, decide_false, Bool.not_false, Bool.true_and] at hr
    exact hr.trans h

theorem mark (w : World) (id' : Session.ID) :
    SessionKept id w (w.setSessions (w.sessions.update id' (Session.Session.marked true))) where
  session := by
    by_cases e : id = id'
    · subst e
      simp only [World.setSessions_sessions, Session.Manager.get_update, if_true,
        Option.map_map]
      rfl
    · simp [e]
  gtpu h := h

theorem removeBearer (w : World) (fault : Bool) (id' : Session.ID) (ebi : UInt8) :
    SessionKept id w (w.setGtpu (w.gtpu.removeBearer fault id' ebi).1) where
  session := rfl
  gtpu h := by
    simp only [World.setGtpu, Gtpu.Manager.removeBearer]
    split
    · exact h
    split
    · exact h
    simp only [Gtpu.Manager.hasSession, Gtpu.Manager.dropBearers_sessionsByID,
      Table.lookup_insert_ite] at h ⊢
    grind

end SessionKept

structure Session.Manager.Closed (I : Session.Manager → Prop) : Prop where
  update : ∀ {m} id f, (∀ s, (f s).id = s.id) → I m → I (m.update id f)
  delete : ∀ {m} id, I m → I (m.delete id)
  getOrCreate : ∀ {m} id, I m → I (m.getOrCreate id)

theorem Session.Manager.keyed_closed : Session.Manager.Closed Session.Manager.Keyed :=
  ⟨fun _ _ hf hk => hk.update hf, fun _ hk => hk.delete, fun _ hk => hk.getOrCreate⟩

section Keys
variable {w : World}

theorem sessions_pgwRelease (w : World) (ev : PgwEvent) :
    (pgwRelease w ev).sessions = w.sessions := by
  cases ev with
  | deleteSession => rfl
  | deleteBearer =>
    simp only [pgwRelease]
    grind

theorem sessions_removals (P : Primitives) (w : World) (sa : IkeSA) :
    (removePendingStates (removeXFRMChildSA P w sa) sa).sessions = w.sessions ∧
      (removePendingStates (removeXFRMChildSA P w sa) sa).gtpu = w.gtpu := by
  obtain ⟨k1, h1⟩ := removeXFRMChildSA_eq P w sa
  obtain ⟨k2, h2⟩ := removePendingStates_eq (removeXFRMChildSA P w sa) sa
  rw [h2, h1]
  exact ⟨rfl, rfl⟩

namespace Session.Manager.Closed
variable {I : Session.Manager → Prop} (hI : Closed I)
include hI

theorem releases (hr : Releases touched taken w w') : I w.sessions → I w'.sessions := by
  refine hr.closed (R := fun w w' => I w.sessions → I w'.sessions) (fun _ h => h)
    (fun h1 h2 h => h2 (h1 h)) fun h1 h => ?_
  cases h1 with
  | transition | clear | mark => exact hI.update _ _ (by simp) h
  | delete => exact hI.delete _ h
  | _ => exact h

theorem handlePGW (h : I w.sessions) (env : Env) (ev : PgwEvent) :
    I (handlePGW w env ev).sessions :=
  hI.releases (handlePGW_releases w env ev) h

theorem pgwEvents (h : I w.sessions) (env : Env) (pos : Nat) : I (pgwEvents w env pos).sessions :=
  hI.releases (pgwEvents_releases w env pos) h

theorem fullTeardown (h : I w.sessions) (P : Primitives) (strOpen : Bool) (sa : IkeSA) :
    I (fullTeardown P strOpen w sa).sessions := by
  obtain ⟨w1, hr, he⟩ : ∃ w1, Releases (fun _ => True) (fun _ => True) _ w1 ∧ _ :=
    fullTeardown_releases P strOpen w fun _ _ => trivial
  have h1 : I w1.sessions := hI.releases hr ((sessions_removals P w sa).1 ▸ h)
  rw [he]
  exact h1

theorem updateSession (h : I w.sessions) (id : Option Session.ID)
    {f : Session.Session → Session.Session} (hf : ∀ s, (f s).id = s.id) :
    I (w.updateSession id f).sessions := by
  cases id with
  | none => exact h
  | some id => exact hI.update id f hf h

end Session.Manager.Closed

theorem handlePGW_keyed (h : w.sessions.Keyed) (env : Env) (ev : PgwEvent) :
    (handlePGW w env ev).sessions.Keyed :=
  Session.Manager.keyed_closed.handlePGW h env ev

theorem pgwEvents_keyed (h : w.sessions.Keyed) (env : Env) (pos : Nat) :
    (pgwEvents w env pos).sessions.Keyed :=
  Session.Manager.keyed_closed.pgwEvents h env pos

theorem fullTeardown_keyed (h : w.sessions.Keyed) (P : Primitives) (strOpen : Bool) (sa : IkeSA) :
    (fullTeardown P strOpen w sa).sessions.Keyed :=
  Session.Manager.keyed_closed.fullTeardown h P strOpen sa

end Keys

section
variable {id : Session.ID} {w : World}

theorem Releases.kept (h : Releases touched taken w w') (hid : ¬ taken id)
    : SessionKept id w w' := by
  refine h.closed .refl .trans fun {w w'} h1 => ?_
  have hne {id' : Session.ID} (ht : taken id') : id ≠ id' := fun he => hid (he ▸ ht)
  cases h1 with
  | transition ht | clear ht => exact .update _ (hne ht)
  | removeSession ht => exact .removeSession _ _ (hne ht)
  | delete ht => exact .delete _ (hne ht)
  | mark => exact .mark _ _
  | removeBearer => exact .removeBearer _ _ _ _
  | emit | erase => exact .of_eq rfl rfl

theorem fullTeardown_kept {P : Primitives} {strOpen : Bool} {sa : IkeSA}
    (h : sa.sessionID ≠ some id) : SessionKept id w (fullTeardown P strOpen w sa) := by
  obtain ⟨w1, hr, he⟩ : ∃ w1, Releases (fun _ => True) (fun id => sa.sessionID = some id) _ w1 ∧
    _ := fullTeardown_releases P strOpen w fun _ hid => hid
  obtain ⟨hs, hg⟩ := sessions_removals P w sa
  rw [he]
  exact (SessionKept.of_eq hs hg).trans ((hr.kept h).trans (.of_eq rfl rfl))

theorem sessions_teardownSwm (w : World) (strOpen : Bool) (sa : IkeSA) (handover : Bool) :
    (teardownSwm w strOpen sa handover).sessions = w.sessions := by
  simp only [teardownSwm]
  split
  · simp only [terminateSession]
    split <;> rfl
  · rfl

theorem get_teardownSession (w : World) (sid : Option Session.ID) (id : Session.ID) :
    (teardownSession w sid).sessions.get id =
      if sid = some id then none else w.sessions.get id := by
  simp only [teardownSession]
  split
  · rename_i id' sess hs
    have hother : ∀ c, (releaseS2b (w.setSessions (w.sessions.update id'
        (·.transition .cleaningUp))) id' c).sessions =
        w.sessions.update id' (·.transition .cleaningUp) := by
      intro c
      simp only [releaseS2b]
      split <;> rfl
    by_cases he : id = id'
    · subst he
      simp
    have he' : ¬ some id' = some id := fun h => he (Option.some.inj h).symm
    cases sess.s2b with
    | none => simp [he, he']
    | some c => simp [he, he', hother]
  · rename_i hno
    split
    · rename_i hsid
      cases hg : w.sessions.get id with
      | none => rfl
      | some s => exact (hno id s hsid (by simp [hsid, World.sessionOf, hg])).elim
    · rfl

theorem get_fullTeardown (P : Primitives) (strOpen : Bool) (w : World) (sa : IkeSA)
    (id : Session.ID) :
    (fullTeardown P strOpen w sa).sessions.get id =
      if sa.sessionID = some id then none else w.sessions.get id := by
  simp only [fullTeardown, World.deleteSA_sessions, sessions_teardownSwm, get_teardownSession,
    (sessions_removals P w sa).1]

theorem handlePGW_kept {ev : PgwEvent} (hk : w.sessions.Keyed)
    (h : ∀ s c, w.sessions.get id = some s → s.s2b = some c → ¬ ev.releases c) :
    SessionKept id w (handlePGW w env ev) := by
  have hfound {teid : UInt32} {sess : Session.Session}
      (hf : (pgwRelease w ev).sessions.findByLocalControlTEID teid = some sess) :=
    Session.Manager.findByLocalControlTEID_keyed hk (sessions_pgwRelease w ev ▸ hf)
  have hr : Releases (fun _ => True) (· ≠ id) w (handlePGW w env ev) := by
    refine (pgwRelease_releases w ev).trans ?_
    cases ev with
    | deleteSession teid isHandover =>
      refine handlePGWDelete_releases fun sess hf he => ?_
      obtain ⟨hget, c, hc, hteid⟩ := hfound hf
      exact h sess c (he ▸ hget) hc hteid.symm
    | deleteBearer teid ebis isHandover =>
      refine handlePGWDeleteBearer_releases (fun _ _ => trivial) fun sess c hf hc h0 hm he => ?_
      obtain ⟨hget, c', hc', hteid⟩ := hfound hf
      obtain rfl : c' = c := by rw [hc'] at hc; exact Option.some.inj hc
      exact h sess c' (he ▸ hget) hc ⟨hteid.symm, h0, hm⟩
  exact hr.kept fun hne => hne rfl

theorem pgwEvents_kept {pos : Nat} (hk : w.sessions.Keyed)
    (h : ∀ ev ∈ env.pgwAt pos, ∀ s c, w.sessions.get id = some s → s.s2b = some c → ¬ ev.releases c)
    : SessionKept id w (pgwEvents w env pos) := by
  simp only [pgwEvents]
  generalize env.pgwAt pos = evs at h
  induction evs generalizing w with
  | nil => exact .refl w
  | cons ev evs ih =>
    have h1 : SessionKept id w (handlePGW w env ev) :=
      handlePGW_kept hk (h ev (by simp))
    refine h1.trans (ih (handlePGW_keyed hk env ev) fun ev' hev' s' c hs' hc => ?_)
    obtain ⟨s, b, hs, rfl⟩ := h1.symm_some hs'
    exact h ev' (by simp [hev']) s c hs hc

end
section
variable {S : Server} {env : Env} {allowed : Triggers} {w w' : World}

theorem updateSession_keyed (h : w.sessions.Keyed) (id : Option Session.ID)
    {f : Session.Session → Session.Session} (hf : ∀ s, (f s).id = s.id) :
    (w.updateSession id f).sessions.Keyed :=
  Session.Manager.keyed_closed.updateSession h id hf

section Closed
variable {I : Session.Manager → Prop} (hI : Session.Manager.Closed I)
include hI

theorem Quiet.sessions (hq : Quiet S env allowed w w') (h : I w.sessions) : I w'.sessions := by
  cases hq with
  | session id f hf => exact hI.updateSession h id fun s => (hf s).1
  | openSession => exact hI.update _ _ (by simp) (hI.getOrCreate _ h)
  | teardown sa => exact Session.Manager.Closed.fullTeardown (w := w.storeSA sa.closing) hI h _ _ _
  | pgw ev => exact hI.handlePGW h env ev
  | deleteESP sa spi =>
    have hrem (pair : IP → Xfrm.EspPair) : I (removeStates w sa pair).sessions := by
      simp only [removeStates]
      split <;> exact h
    simp only [Ikev2.deleteESP]
    split
    · split
      · apply hI.updateSession
        · exact hrem sa.currentPair
        · intro s
          rfl
      · obtain ⟨k, hx⟩ := removeXFRMChildSA_eq S.prims w sa
        rw [hx]
        exact h
    · split
      · exact hrem _
      · exact h
  | _ => exact h

theorem Major.sessions {remote : UDPAddr} {msg : Bytes} {hdr : IKEHeader} {w0 : World}
    (hm : Major S env remote msg hdr w0 w w') (h : I w.sessions) : I w'.sessions := by
  cases hm with
  | create | childRekey | challenge => exact h
  | swmStart =>
    exact Session.Manager.Closed.updateSession (w := w.storeSA _) hI h _ fun _ => rfl
  | recordS2b => exact hI.updateSession h _ (by simp [sessionS2b])
  | establish sa0 sa pl auth r spi =>
    have h1 : I (w.updateSession sa.sessionID (sessionS2b r)).sessions :=
      hI.updateSession h _ (by simp [sessionS2b])
    have h2 := hI.pgwEvents h1 env 1
    have hc := establish_cases S.prims w env remote sa r spi
    generalize (installFinal S.prims _ env remote (sa.establish spi) r).1 = out at hc
    cases hc <;> exact h2
  | ikeRekey =>
    apply hI.updateSession
    · exact h
    · intro s
      rfl
  | migrate w1 sa0 sa pl prop localIP ok hex h0 hst0 hsa hopen hup hcookie hchild hw hmig =>
    have hc := migrateMobikeXFRM_cases S.prims w env sa prop localIP remote
    rw [hmig] at hc
    cases hc <;> exact h

end Closed

theorem Quiet.sessionsKeyed (h : Quiet S env allowed w w') (hk : w.sessions.Keyed) :
    w'.sessions.Keyed := h.sessions Session.Manager.keyed_closed hk

theorem Major.sessionsKeyed {remote : UDPAddr} {msg : Bytes} {hdr : IKEHeader} {w0 : World}
    (h : Major S env remote msg hdr w0 w w') (hk : w.sessions.Keyed) : w'.sessions.Keyed :=
  h.sessions Session.Manager.keyed_closed hk

theorem Reachable.sessionsKeyed (h : Reachable S w) : w.sessions.Keyed := by
  have hboth : Base w ∧ w.sessions.Keyed := by
    apply h.invariant (fun w => Base w ∧ w.sessions.Keyed)
    · intro secret now
      exact ⟨.initial secret now, fun id s hs => by cases hs⟩
    · rintro w i ⟨hb, hk⟩
      exact ⟨step_base hb i, (step_shape hb.keyed i).invariant (fun w => w.sessions.Keyed)
        Quiet.sessionsKeyed Major.sessionsKeyed hk⟩
  exact hboth.2

end
end Epdg
