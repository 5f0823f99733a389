import Epdg.System.Sessions

/-!
Which session an SA refers to, and what effects do to that session.

A session is created by the first IKE_AUTH request of an SA, under an id made of the SPIs of
the SA. Only a teardown and the requests of the PGW take sessions away, and only these
requests and `handleAuthFinal` write the S2b context.
-/
namespace Epdg
open Ikev2
variable {c : Session.S2BContext} {teid : UInt32} {sess : Session.Session} {ev : PgwEvent}
  {f : Session.Session → Session.Session}

structure Links where
  s2b : Option Session.S2BContext := none
  swm : Option SWMSessionID := none
  handover : Bool := false
  deriving DecidableEq, Repr

def Links.of (s : Session.Session) : Links := ⟨s.s2b, s.swmSessionID, s.handoverComplete⟩

def Links.connect (c : Session.S2BContext) (l : Links) : Links := { l with s2b := some c }

def World.links (w : World) (id : Session.ID) : Option Links :=
  (w.sessions.get id).map Links.of

def World.context (w : World) (id : Session.ID) : Option Session.S2BContext :=
  (w.links id).bind Links.s2b

def PgwEvent.drops (c : Session.S2BContext) : PgwEvent → Prop
  | .deleteSession teid _ => teid = c.localControlTEID
  | .deleteBearer teid ebis isHandover =>
    isHandover = false ∧ teid = c.localControlTEID ∧ c.ebi ≠ 0 ∧ c.ebi ∈ ebis

theorem PgwEvent.releases_of_drops (h : ev.drops c) : ev.releases c := by
  cases ev with
  | deleteSession teid isHandover => exact h
  | deleteBearer teid ebis isHandover => exact h.2

section
variable {w w' : World} {id : Session.ID}

theorem World.links_some {l : Links} (h : w.links id = some l) :
    ∃ s, w.sessions.get id = some s ∧ Links.of s = l :=
  Option.map_eq_some_iff.mp h

theorem World.context_eq_some : w.context id = some c ↔ ∃ l, w.links id = some l ∧ l.s2b = some c :=
  Option.bind_eq_some_iff

theorem World.remoteTS_eq (w : World) (sid : Option Session.ID) :
    w.remoteTS sid = IPNet.host ((sid.bind w.context).map Session.S2BContext.paa) := by
  cases sid with
  | none => rfl
  | some id =>
    simp only [remoteTS, sessionOf, context, links, Option.bind_some]
    cases w.sessions.get id <;> rfl

theorem links_setSessions_update (w : World) (id' : Session.ID)
    (f : Session.Session → Session.Session) (g : Links → Links)
    (hf : ∀ s, Links.of (f s) = g (Links.of s)) :
    (w.setSessions (w.sessions.update id' f)).links id =
      if id = id' then (w.links id).map g else w.links id := by
  by_cases e : id = id'
  · subst e
    cases hs : w.sessions.get id <;> simp [World.links, hs, hf]
  · simp [World.links, e]

theorem links_updateSession (w : World) (sid : Option Session.ID)
    (f : Session.Session → Session.Session) (g : Links → Links)
    (hf : ∀ s, Links.of (f s) = g (Links.of s)) :
    (w.updateSession sid f).links id =
      if some id = sid then (w.links id).map g else w.links id := by
  cases sid with
  | none => rfl
  | some id' =>
    simp only [World.updateSession, links_setSessions_update w id' f g hf, Option.some.injEq]

theorem links_updateSession_id (w : World) (sid : Option Session.ID)
    (hf : ∀ s, Links.of (f s) = Links.of s) : (w.updateSession sid f).links id = w.links id := by
  rw [links_updateSession w sid f (fun l => l) hf]
  split <;> simp

@[simp] theorem links_transition (s : Session.Session) (next : Session.State) :
    Links.of (s.transition next) = Links.of s := by
  simp only [Session.Session.transition]
  split
  · rfl
  · split <;> rfl

theorem Benign.links (h : Benign f) (s : Session.Session) : Links.of (f s) = Links.of s := by
  obtain ⟨-, h1, h2, h3⟩ := h s
  simp [Links.of, h1, h2, h3]

inductive PgwLinks (w : World) (id : Session.ID) (ev : PgwEvent) : Option Links → Prop
  | kept : PgwLinks w id ev (w.links id)
  | marked (l : Links) (c : Session.S2BContext) (h : w.links id = some l) (hc : l.s2b = some c)
      (ebis : List UInt8) (hev : ev = .deleteBearer c.localControlTEID ebis true) :
      PgwLinks w id ev (some { l with handover := true })
  | cleared (l : Links) (c : Session.S2BContext) (h : w.links id = some l)
      (hc : l.s2b = some c) (hev : ev.releases c) (ebis : List UInt8) (isHandover : Bool)
      (he : ev = .deleteBearer c.localControlTEID ebis isHandover)
      (hh : l.handover || isHandover) :
      PgwLinks w id ev (some { l with s2b := none, handover := true })
  | gone (l : Links) (c : Session.S2BContext) (h : w.links id = some l) (hc : l.s2b = some c)
      (hev : ev.drops c) (hh : l.handover = false ∨ ∃ teid ho, ev = .deleteSession teid ho) :
      PgwLinks w id ev none

theorem links_cleanupSession (w : World) (sess : Session.Session) :
    (cleanupSession w sess).links id = w.links id := by
  have hid {w : World} {next : Session.State} :
      (w.setSessions (w.sessions.update sess.id (·.transition next))).links id = w.links id := by
    rw [links_setSessions_update w sess.id _ (fun l => l) fun s => links_transition s next]
    split <;> simp
  simp only [cleanupSession]
  split
  · rfl
  · rw [hid]
    split <;> exact hid

theorem links_delete (w : World) (id' : Session.ID) :
    (w.setSessions (w.sessions.delete id')).links id = if id = id' then none else w.links id := by
  simp only [World.links, World.setSessions_sessions, Session.Manager.get_delete]
  split <;> rfl

theorem links_terminateSession (w : World) (strOpen : Bool) (sid : SWMSessionID)
    (session : Option Session.ID) (handover : Bool) :
    (terminateSession w strOpen sid session handover).links id = w.links id := by
  simp only [terminateSession]
  split <;> rfl

theorem handlePGWDelete_links (hk : w.sessions.Keyed) (strOpen : Bool) (teid : UInt32)
    (isHandover : Bool) :
    PgwLinks w id (.deleteSession teid isHandover)
      ((handlePGWDelete w strOpen teid isHandover).links id) := by
  simp only [handlePGWDelete]
  split
  · exact .kept
  rename_i sess hf
  obtain ⟨hget, c, hc, hteid⟩ := Session.Manager.findByLocalControlTEID_keyed hk hf
  rw [links_delete]
  split
  · rename_i e
    exact .gone (Links.of sess) c (by simp [World.links, e, hget]) hc hteid.symm
      (.inr ⟨teid, isHandover, rfl⟩)
  have hclean {w0 : World} (h0 : w0.links id = w.links id) :
      (cleanupSession w0 sess).links id = w.links id := (links_cleanupSession w0 sess).trans h0
  have hmark : (if isHandover then w.emit (.handoverSignalled sess.id) else w).links id =
      w.links id := by
    split <;> rfl
  cases sess.swmSessionID with
  | none =>
    simp only [hclean hmark]
    exact .kept
  | some sid =>
    simp only [links_terminateSession, hclean hmark]
    exact .kept

theorem links_deleteBearers (id : Session.ID) (w : World) (tftFault : UInt8 → Bool)
    (sess : Session.Session)
    (defaultEBI : UInt8) (ebis : List UInt8) :
    (deleteBearers w tftFault sess defaultEBI ebis).links id = w.links id ∨
      id = sess.id ∧ defaultEBI ≠ 0 ∧ defaultEBI ∈ ebis ∧
        (deleteBearers w tftFault sess defaultEBI ebis).links id =
          if sess.handoverComplete then (w.links id).map fun l => { l with s2b := none }
          else none := by
  induction ebis generalizing w with
  | nil => exact .inl rfl
  | cons ebi rest ih =>
    simp only [deleteBearers]
    split
    · rename_i hdef
      by_cases he : id = sess.id
      · refine .inr ⟨he, hdef.1, by simp [hdef.2], ?_⟩
        split
        · rw [links_setSessions_update _ sess.id _ (fun l => { l with s2b := none })
            fun s => rfl, links_cleanupSession, if_pos he]
        · rw [links_delete, if_pos he]
      · left
        split
        · rw [links_setSessions_update _ sess.id _ (fun l => { l with s2b := none })
            fun s => rfl, links_cleanupSession, if_neg he]
        · rw [links_delete, links_cleanupSession, if_neg he]
    · split
      · rename_i m hm
        rcases ih (w.setGtpu m) with h | ⟨he, h0, hmem, h⟩
        · exact .inl h
        · exact .inr ⟨he, h0, List.mem_cons_of_mem _ hmem, h⟩
      · exact .inl rfl

def signalHandover (w : World) (sess : Session.Session) (isHandover : Bool) : World :=
  if isHandover then
    (w.emit (.handoverSignalled sess.id)).setSessions
      (w.sessions.update sess.id fun s => { s with handoverComplete := true })
  else w

theorem handlePGWDeleteBearer_found (hf : w.sessions.findByLocalControlTEID teid = some sess)
    (hc : sess.s2b = some c) (tftFault : UInt8 → Bool) (ebis : List UInt8) (isHandover : Bool) :
    handlePGWDeleteBearer w tftFault teid ebis isHandover =
      deleteBearers (signalHandover w sess isHandover) tftFault
        { sess with handoverComplete := sess.handoverComplete || isHandover } c.ebi ebis := by
  have hebi : (sess.s2b.map Session.S2BContext.ebi).getD 0 = c.ebi := by rw [hc]; rfl
  rw [← hebi]
  simp only [handlePGWDeleteBearer, hf]
  rfl

theorem links_signalHandover (w : World) (sess : Session.Session) (isHandover : Bool) :
    (signalHandover w sess isHandover).links id = if id = sess.id then
      (w.links id).map fun l => { l with handover := l.handover || isHandover } else w.links id := by
  simp only [signalHandover]
  split
  · rename_i hh
    refine (links_setSessions_update (w.emit (.handoverSignalled sess.id)) sess.id
      (fun s => { s with handoverComplete := true }) (fun l => { l with handover := true })
      fun s => rfl).trans ?_
    simp only [hh, Bool.or_true]
    rfl
  · rename_i hh
    simp [hh]

theorem links_deleteBearer_self (hget : w.sessions.get sess.id = some sess)
    (hf : w.sessions.findByLocalControlTEID teid = some sess) (hc : sess.s2b = some c)
    (tftFault : UInt8 → Bool) (ebis : List UInt8) (isHandover : Bool) :
    (handlePGWDeleteBearer w tftFault teid ebis isHandover).links sess.id =
        some { Links.of sess with handover := sess.handoverComplete || isHandover } ∨
      c.ebi ≠ 0 ∧ c.ebi ∈ ebis ∧
        (handlePGWDeleteBearer w tftFault teid ebis isHandover).links sess.id =
          if sess.handoverComplete || isHandover then
            some { Links.of sess with s2b := none, handover := true }
          else none := by
  have hown : (signalHandover w sess isHandover).links sess.id =
      some { Links.of sess with handover := sess.handoverComplete || isHandover } := by
    rw [links_signalHandover, if_pos rfl]
    simp [World.links, hget, Links.of]
  rw [handlePGWDeleteBearer_found hf hc]
  rcases links_deleteBearers sess.id (signalHandover w sess isHandover) tftFault
    { sess with handoverComplete := sess.handoverComplete || isHandover } c.ebi ebis
    with h | ⟨-, h0, hmem, h⟩
  · grind
  grind

theorem links_deleteBearer_other (hf : w.sessions.findByLocalControlTEID teid = some sess)
    (hc : sess.s2b = some c) (tftFault : UInt8 → Bool) (ebis : List UInt8) (isHandover : Bool)
    (hne : id ≠ sess.id) :
    (handlePGWDeleteBearer w tftFault teid ebis isHandover).links id = w.links id := by
  rw [handlePGWDeleteBearer_found hf hc]
  rcases links_deleteBearers id (signalHandover w sess isHandover) tftFault
    { sess with handoverComplete := sess.handoverComplete || isHandover } c.ebi ebis
    with h | ⟨he, -⟩
  · rw [h, links_signalHandover, if_neg hne]
  · exact (hne he).elim

theorem handlePGWDeleteBearer_links (hk : w.sessions.Keyed) (tftFault : UInt8 → Bool) (teid : UInt32)
    (ebis : List UInt8) (isHandover : Bool) :
    PgwLinks w id (.deleteBearer teid ebis isHandover)
      ((handlePGWDeleteBearer w tftFault teid ebis isHandover).links id) := by
  cases hf : w.sessions.findByLocalControlTEID teid with
  | none =>
    simp only [handlePGWDeleteBearer, hf]
    exact .kept
  | some sess =>
    obtain ⟨hget, c, hc, rfl⟩ := Session.Manager.findByLocalControlTEID_keyed hk hf
    by_cases he : id = sess.id
    · subst he
      have hlinks : w.links sess.id = some (Links.of sess) := by simp [World.links, hget]
      rcases links_deleteBearer_self hget hf hc tftFault ebis isHandover with h | ⟨h0, hmem, h⟩
      · rw [h]
        cases isHandover with
        | false =>
          have hsame : some { Links.of sess with handover := sess.handoverComplete || false } =
              w.links sess.id := by
            rw [hlinks]
            simp [Links.of]
          rw [hsame]
          exact .kept
        | true =>
          rw [Bool.or_true]
          exact .marked (Links.of sess) c hlinks hc ebis rfl
      · rw [h]
        split
        · rename_i hh
          exact .cleared (Links.of sess) c hlinks hc ⟨rfl, h0, hmem⟩ ebis isHandover rfl hh
        rename_i hh
        simp only [Bool.or_eq_true, not_or, Bool.not_eq_true] at hh
        exact .gone (Links.of sess) c hlinks hc ⟨hh.2, rfl, h0, hmem⟩ (.inl hh.1)
    · rw [links_deleteBearer_other hf hc tftFault ebis isHandover he]
      exact .kept

theorem handlePGW_links (hk : w.sessions.Keyed) (env : Env) (ev : PgwEvent) :
    PgwLinks w id ev ((handlePGW w env ev).links id) := by
  have hs := sessions_pgwRelease w ev
  have hl : ∀ id, (pgwRelease w ev).links id = w.links id := by
    intro id
    simp only [World.links, hs]
  have hback {o : Option Links} (h : PgwLinks (pgwRelease w ev) id ev o) :
      PgwLinks w id ev o := by
    cases h with
    | kept =>
      rw [hl]
      exact .kept
    | marked l c h hc ebis hev => exact .marked l c (hl id ▸ h) hc ebis hev
    | cleared l c h hc hev ebis isHandover he hh =>
      exact .cleared l c (hl id ▸ h) hc hev ebis isHandover he hh
    | gone l c h hc hev hh => exact .gone l c (hl id ▸ h) hc hev hh
  cases ev with
  | deleteSession teid isHandover => exact hback (handlePGWDelete_links (hs ▸ hk) _ _ _)
  | deleteBearer teid ebis isHandover =>
    exact hback (handlePGWDeleteBearer_links (hs ▸ hk) _ _ _ _)

theorem PgwLinks.context_kept {o : Option Links} (h : PgwLinks w id ev o)
    (hno : ∀ c, w.context id = some c → ¬ ev.releases c) : o.bind Links.s2b = w.context id := by
  cases h with
  | kept => rfl
  | marked l c h hc => simp [World.context, h, hc]
  | cleared l c h hc hev => exact (hno c (World.context_eq_some.mpr ⟨l, h, hc⟩) hev).elim
  | gone l c h hc hev =>
    exact (hno c (World.context_eq_some.mpr ⟨l, h, hc⟩) (PgwEvent.releases_of_drops hev)).elim

end

end Epdg
