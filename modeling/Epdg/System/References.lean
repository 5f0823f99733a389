import Epdg.System.SessionEffects

/-!
No two SAs refer to one session.

A session id is made of the SPIs of the SA that opened it. It stays with the session when an
IKE SA rekey passes the session on to an SA with other SPIs, so a new SA with the old SPIs
could open the session of another one; the guard below rules out the draw that leads there.
-/
namespace Epdg
open Ikev2
variable {i : Input} {w0 : World} {remote : UDPAddr} {msg : Bytes} {hdr : IKEHeader} {k : UInt64}
  {sa sa' : IkeSA} {c : Session.S2BContext} {ev : PgwEvent}

def FreshID (S : Server) (w : World) (i : Input) : Prop :=
  ∀ remote msg hdr spiR, i.message S = some (remote, msg, hdr) →
    hdr.exchangeType = exchIKESAInit → i.env.spiR = some spiR →
    ∀ k, ¬ Refers w k ⟨hdr.initiatorSPI, spiR⟩

structure RefInv (w : World) : Prop where
  half : ∀ k sa, w.lookupSA k = some sa → sa.state = .auth →
    sa.sessionID = none ∨ sa.sessionID = some sa.ownSession
  uniq : ∀ k k' id, Refers w k id → Refers w k' id → k = k'
  own : ∀ k k' sa, w.lookupSA k = some sa → sa.state = .auth → Refers w k' sa.ownSession →
    k' = k

section
variable {S : Server} {env : Env} {allowed : Triggers} {w w' : World} {id : Session.ID}

theorem RefInv.initial (secret : Bytes) (now : Time) : RefInv (World.initial secret now) where
  half := by
    intro k sa hl
    cases hl
  uniq := by
    rintro k k' id ⟨sa, hl, -⟩
    cases hl
  own := by
    intro k k' sa hl
    cases hl

theorem RefInv.kept (hi : RefInv w) (hr : ∀ k id, Refers w' k id → Refers w k id)
    (hauth : HalfOpenKept w w') : RefInv w' where
  half k sa' hl' hs' := by
    obtain ⟨sa, hl, hs, hown, hid⟩ := hauth k sa' hl' hs'
    rw [hown, hid]
    exact hi.half k sa hl hs
  uniq k k' id h h' := hi.uniq k k' id (hr k id h) (hr k' id h')
  own k k' sa' hl' hs' h := by
    obtain ⟨sa, hl, hs, hown, -⟩ := hauth k sa' hl' hs'
    exact hi.own k k' sa hl hs (hown ▸ hr k' _ h)

theorem RefInv.congr (hi : RefInv w) (hl : ∀ k, w'.lookupSA k = w.lookupSA k) : RefInv w' :=
  hi.kept (fun _ _ => (Refers.congr (ids_congr hl)).mp) (.congr hl)

theorem Quiet.refers (h : Quiet S env allowed w w') (hr : Refers w' k id) :
    Refers w k id ∨ ∃ sa, w.lookupSA k = some sa ∧ sa.state = .auth ∧ id = sa.ownSession := by
  obtain ⟨sa', hl', hid⟩ := hr
  obtain ⟨sa, hl, he⟩ := h.evolve hl'
  rcases he.sessionID with hs | ⟨hs, hown⟩
  · exact .inl ⟨sa, hl, hs ▸ hid⟩
  · simp_all

theorem Base.eq_of_ownSession (hb : Base w) {k' : UInt64} (h : w.lookupSA k = some sa)
    (h' : w.lookupSA k' = some sa') (he : sa.ownSession = sa'.ownSession) : k = k' := by
  have hspi : sa.spiI = sa'.spiI := congrArg Session.ID.spiI he
  rw [← hb.keyed k sa h, ← hb.keyed k' sa' h', hspi]

theorem Quiet.refInv (h : Quiet S env allowed w w') (hb : Base w) (hi : RefInv w) :
    RefInv w' where
  half := by
    intro k sa' hl' hs'
    obtain ⟨sa, hl, he⟩ := h.evolve hl'
    have hsame := he.sameIdentity
    have hown : sa'.ownSession = sa.ownSession := by
      simp only [IkeSA.ownSession, hsame.spiI, hsame.spiR]
    rw [hown]
    rcases he.sessionID with hs | ⟨-, hs⟩
    · rw [hs]
      exact hi.half k sa hl (hsame.state ▸ hs')
    · exact .inr hs
  uniq := by
    intro k k' id hr hr'
    rcases h.refers hr with h1 | ⟨sa, hl, hs, rfl⟩
    · rcases h.refers hr' with h2 | ⟨sa', hl', hs', rfl⟩
      · exact hi.uniq k k' id h1 h2
      · exact hi.own k' k sa' hl' hs' h1
    · rcases h.refers hr' with h2 | ⟨sa', hl', hs', he⟩
      · exact (hi.own k k' sa hl hs h2).symm
      · exact hb.eq_of_ownSession hl hl' he
  own := by
    intro k k' sa' hl' hs' hr
    obtain ⟨sa, hl, he⟩ := h.evolve hl'
    have hsame := he.sameIdentity
    have hown : sa'.ownSession = sa.ownSession := by
      simp only [IkeSA.ownSession, hsame.spiI, hsame.spiR]
    rw [hown] at hr
    rcases h.refers hr with h1 | ⟨sa1, hl1, -, he1⟩
    · exact hi.own k k' sa hl (hsame.state ▸ hs') h1
    · exact hb.eq_of_ownSession hl1 hl he1.symm

theorem Major.refInv (hfresh : FreshID S w0 i) (hmsg : i.message S = some (remote, msg, hdr))
    (hb0 : Base w0) (hm : Major S i.env remote msg hdr w0 w w') (hi : RefInv w) : RefInv w' := by
  cases hm.links hb0.keyed (handles_pgwAt i) with
  | same _ hids hauth => exact hi.kept (fun _ _ => (Refers.congr hids).mp) hauth
  | connected sa r w2 _ _ _ _ hl2 _ hids hauth =>
    exact (hi.congr hl2).kept (fun _ _ => (Refers.congr hids).mp) hauth
  | started sa hl hs hex hid hl' =>
    exact hi.kept (fun _ _ => (refers_rewrite _ hl hl' rfl).mp)
      (.rewrite _ hl hl' fun _ => ⟨hs, rfl, rfl⟩)
  | created new hw hex hacc hspi hids hl =>
    have hold {k : UInt64} {id : Session.ID} (hr : Refers w' k id) : Refers w k id := by
      rcases (refers_of_lookup hl).mp hr with ⟨-, hid⟩ | ⟨-, hr⟩
      · simp_all
      · exact hr
    refine ⟨?_, fun k k' id hr hr' => hi.uniq k k' id (hold hr) (hold hr'), ?_⟩
    · intro k sa hl1 hs
      rw [hl] at hl1
      split at hl1
      · simp_all
      · exact hi.half k sa hl1 hs
    intro k k' sa hl1 hs hr
    rw [hl] at hl1
    split at hl1
    · -- the new SA: its id was drawn fresh
      cases hl1
      have hown : new.ownSession = ⟨hdr.initiatorSPI, new.spiR⟩ := by
        simp only [IkeSA.ownSession, hspi.2]
      rw [hown] at hr
      obtain ⟨c, rfl⟩ := hw
      exact (hfresh remote msg hdr _ hmsg hex hspi.1 k' (hold hr)).elim
    · exact hi.own k k' sa hl1 hs (hold hr)
  | moved sa0 sa new offer nonceI ke hw hl hst hex hl0 hopen hp hids hl' =>
    have hcases {k : UInt64} {id : Session.ID} (hr : Refers w' k id) :
        k = new.spiI ∧ sa.sessionID = some id ∨
          k ≠ new.spiI ∧ k ≠ sa.spiI ∧ Refers w k id := by
      obtain ⟨sa1, h1, hid⟩ := hr
      rw [hl'] at h1
      split at h1
      · simp_all
      split at h1
      · cases h1
        cases hid
      · exact .inr ⟨‹_›, ‹_›, sa1, h1, hid⟩
    have hauth {k : UInt64} {sa1 : IkeSA} (hl1 : w'.lookupSA k = some sa1)
        (hs1 : sa1.state = .auth) : w.lookupSA k = some sa1 := by
      rw [hl'] at hl1
      split at hl1
      · simp_all
      split at hl1
      · cases hl1
        rw [show sa.replaced.state = sa.state from rfl, hst.1] at hs1
        cases hs1
      · exact hl1
    refine ⟨fun k sa1 hl1 hs1 => hi.half k sa1 (hauth hl1 hs1) hs1, ?_, ?_⟩
    · intro k k' id hr hr'
      rcases hcases hr with ⟨rfl, hid⟩ | ⟨-, hk, h1⟩ <;>
        rcases hcases hr' with ⟨rfl, hid'⟩ | ⟨-, hk', h2⟩
      · rfl
      · exact (hk' (hi.uniq _ _ id h2 ⟨sa, hl, hid⟩)).elim
      · exact (hk (hi.uniq _ _ id h1 ⟨sa, hl, hid'⟩)).elim
      · exact hi.uniq k k' id h1 h2
    · intro k k' sa1 hl1 hs1 hr
      have h1 := hauth hl1 hs1
      rcases hcases hr with ⟨-, hid⟩ | ⟨-, -, hr1⟩
      · have he := hi.own k _ sa1 h1 hs1 ⟨sa, hl, hid⟩
        simp_all
      · exact hi.own k k' sa1 h1 hs1 hr1

def Present (w : World) : Prop := ∀ k id, Refers w k id → (w.links id).isSome = true

def KeepsSessions (w : World) (i : Input) : Prop :=
  ∀ ev, i.handles ev → (∀ id c, w.context id = some c → ¬ ev.drops c) ∧
    ∀ r, i.env.s2b = .ok r → ¬ ev.drops (s2bContext r)

theorem Within.context_cases (hin : Within w0 i w) (h : w.context id = some c) :
    w0.context id = some c ∨ ∃ r, i.env.s2b = .ok r ∧ c = s2bContext r := by
  obtain ⟨l, hl, hc⟩ := World.context_eq_some.mp h
  rcases hin.s2b id l c hl hc with h0 | h0
  · exact .inl (World.context_eq_some.mpr h0)
  · exact .inr h0

theorem KeepsSessions.not_drops (h : KeepsSessions w0 i) (hin : Within w0 i w) (hev : i.handles ev)
    (hc : w.context id = some c) : ¬ ev.drops c := by
  rcases hin.context_cases hc with h0 | ⟨r, hr, rfl⟩
  · exact (h ev hev).1 id c h0
  · exact (h ev hev).2 r hr

theorem isSome_of_pgwLinks {o : Option Links} (h : PgwLinks w id ev o)
    (hno : ∀ c, w.context id = some c → ¬ ev.drops c) : o.isSome = (w.links id).isSome := by
  cases h with
  | kept => rfl
  | marked l c h => rw [h]; rfl
  | cleared l c h => rw [h]; rfl
  | gone l c h hc hev => exact (hno c (World.context_eq_some.mpr ⟨l, h, hc⟩) hev).elim

theorem Present.congr (h : Present w) (hl : ∀ id, (w'.links id).isSome = (w.links id).isSome)
    (hr : ∀ k id, Refers w' k id → Refers w k id) : Present w' := by
  intro k id hk
  rw [hl]
  exact h k id (hr k id hk)

theorem Quiet.present (hkeep : KeepsSessions w0 i) (hin : Within w0 i w)
    (hq : Quiet S i.env i.triggers w w') (hrefs : RefInv w) (h : Present w) : Present w' := by
  cases hq.links hin.keyed with
  | same hs hids => exact h.congr (fun id => by rw [hs]) fun _ _ => (Refers.congr hids).mp
  | opened sa sa' hl hs hid _ hl' hs' =>
    intro k id hr
    rw [hs']
    rcases (refers_of_lookup hl').mp hr with ⟨-, he⟩ | ⟨-, hr⟩
    · simp_all
    · split
      · rfl
      · exact h k id hr
  | torn sa hl _ hno hs =>
    rintro k id ⟨sa', hl', hid⟩
    rw [hno] at hl'
    split at hl'
    · cases hl'
    rename_i hne
    rw [hs, if_neg fun he => hne (hrefs.uniq k sa.spiI id ⟨sa', hl', hid⟩ ⟨sa, hl, he⟩)]
    exact h k id ⟨sa', hl', hid⟩
  | expired sa hl _ _ hno hs =>
    rintro k id ⟨sa', hl', hid⟩
    rw [hno] at hl'
    split at hl'
    · cases hl'
    · rw [hs]
      exact h k id ⟨sa', hl', hid⟩
  | pgw ev hev _ hl hs =>
    exact h.congr (fun id => isSome_of_pgwLinks (hs id) fun c => hkeep.not_drops hin hev)
      fun _ _ => (Refers.congr (ids_congr hl)).mp

theorem Quiets.present (hkeep : KeepsSessions w0 i) (hin : Within w0 i w)
    (hq : Quiets S i.env i.triggers w w') (hrefs : RefInv w) (h : Present w) : Present w' := by
  have hstep {w w' : World} (hin : Within w0 i w) (hq : Quiet S i.env i.triggers w w')
      (hi : RefInv w ∧ Present w) : RefInv w' ∧ Present w' :=
    ⟨hq.refInv hin.base hi.1, hq.present hkeep hin hi.1 hi.2⟩
  exact (hq.within_invariant hstep hin ⟨hrefs, h⟩).2.2

theorem isSome_links_record (w : World) (sid : Option Session.ID) (r : CreateSessionResult) :
    ((w.updateSession sid (sessionS2b r)).links id).isSome = (w.links id).isSome := by
  rw [links_updateSession w sid _ _ (links_sessionS2b r)]
  split <;> simp

theorem Major.present (hkeep : KeepsSessions w0 i) (hb0 : Base w0) (hin : Within w0 i w)
    (hm : Major S i.env remote msg hdr w0 w w') (hrefs : RefInv w) (h : Present w) :
    Present w' := by
  cases hm.links hb0.keyed (handles_pgwAt i) with
  | same hs hids => exact h.congr (fun id => by rw [hs]) fun _ _ => (Refers.congr hids).mp
  | started sa hl hs hex hid hl' hs' =>
    refine h.congr (fun id => ?_) fun _ _ => (refers_rewrite _ hl hl' rfl).mp
    grind
  | connected sa r w2 hl _ hr hq _ hs hids =>
    have hl1 := w.lookupSA_updateSession sa.sessionID (sessionS2b r)
    have h1 : Present (w.updateSession sa.sessionID (sessionS2b r)) :=
      h.congr (fun id => isSome_links_record w _ r) fun _ _ => (Refers.congr (ids_congr hl1)).mp
    have h2 := Quiets.present hkeep (hin.record hr sa.sessionID) hq (hrefs.congr hl1) h1
    exact h2.congr (fun id => by rw [hs]) fun _ _ => (Refers.congr hids).mp
  | created new hw hex hacc hspi hids hl hs =>
    intro k id hr
    rw [hs]
    rcases (refers_of_lookup hl).mp hr with ⟨-, hid⟩ | ⟨-, hr⟩
    · simp_all
    · exact h k id hr
  | moved sa0 sa new offer nonceI ke hw hl hst hex hl0 hopen hp hids hl' hs =>
    rintro k id ⟨sa1, h1, hid⟩
    rw [hs]
    rw [hl'] at h1
    split at h1
    · cases h1
      exact h sa.spiI id ⟨sa, hl, hids.1 ▸ hid⟩
    split at h1
    · cases h1
      cases hid
    · exact h k id ⟨sa1, h1, hid⟩

def Opened (w : World) : Prop :=
  ∀ k sa, w.lookupSA k = some sa → sa.state = .auth → sa.eapRound ≠ 0 → sa.sessionID.isSome = true

theorem Evolve.opened {t : List Event} (h : Evolve S t sa sa') (hr : sa'.eapRound ≠ 0) :
    sa'.sessionID.isSome = true ∨ sa.eapRound ≠ 0 ∧ sa'.sessionID = sa.sessionID := by
  cases h with
  | touch _ hc =>
    have he : sa'.eapRound = sa.eapRound := IkeSA.eq_of_core hc IkeSA.eapRound fun _ => rfl
    exact .inr ⟨he ▸ hr, IkeSA.eq_of_core hc IkeSA.sessionID fun _ => rfl⟩
  | auth _ hs hc =>
    have he : min sa'.eapRound 1 = min sa.eapRound 1 :=
      IkeSA.eq_of_authCore hc (fun sa => min sa.eapRound 1) fun s => by
        simp [IkeSA.authCore, IkeSA.core]
    exact .inr ⟨by omega, IkeSA.eq_of_authCore hc IkeSA.sessionID fun _ => rfl⟩
  | openSession _ hs hc =>
    have hid : sa'.sessionID = some sa.ownSession :=
      IkeSA.eq_of_authCore hc IkeSA.sessionID fun _ => rfl
    simp_all
  | success | promote | clear => exact .inr ⟨hr, rfl⟩

theorem Quiet.opened (hq : Quiet S env allowed w w') (h : Opened w) : Opened w' := by
  intro k sa' hl' hs' hr
  obtain ⟨sa, hl, he⟩ := hq.evolve hl'
  rcases he.opened hr with hid | ⟨hr0, hid⟩
  · exact hid
  · rw [hid]
    exact h k sa hl (he.sameIdentity.state ▸ hs') hr0

theorem Major.opened (hm : Major S env remote msg hdr w0 w w') (h : Opened w) : Opened w' := by
  intro k sa' hl' hs' hr
  cases hm.written hl' with
  | kept _ _ h1 => exact h k sa' h1 hs' hr
  | created => exact (hr rfl).elim
  | swmStarted sa h1 hs hid => exact Option.isSome_iff_exists.mpr ⟨_, hid⟩
  | established sa spi h1 ht => cases hs'
  | pending sa prop propNum peerSPI spi nonceI nonceR h1 hs | replaced sa h1 hs =>
    have hs2 : sa.state = .auth := hs'
    simp_all
  | rekeyed sa prop shared nonceI nonceR spiI spiR h1 hs ht => cases hs'
  | challenged sa c2 h1 | migrated sa h1 hs => exact h _ sa h1 hs' hr

def refersNone (w : World) (id : Session.ID) : Bool :=
  w.sas.keys.all fun k => (w.lookupSA k).all fun sa => sa.sessionID ≠ some id

theorem not_refers_of_check (h : refersNone w id = true)
    (k : UInt64) : ¬ Refers w k id := by
  rintro ⟨sa, hl, hid⟩
  have hk := List.all_eq_true.mp h k (World.mem_keys_of_lookupSA hl)
  simp [hl, hid] at hk

def freshCheck (S : Server) (w : World) (i : Input) : Bool :=
  (i.message S).all fun m => decide (m.2.2.exchangeType ≠ exchIKESAInit) ||
    i.env.spiR.all fun spiR => refersNone w ⟨m.2.2.initiatorSPI, spiR⟩

theorem freshID_of_check (h : freshCheck S w i = true) : FreshID S w i := by
  intro remote msg hdr spiR hmsg hex hspi k
  simp only [freshCheck, hmsg, hex, hspi, Option.all_some, ne_eq, not_true_eq_false,
    decide_false, Bool.false_or] at h
  exact not_refers_of_check h k

end
end Epdg
