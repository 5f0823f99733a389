import Epdg.System.References
import Epdg.System.Scenario

/-!
The link between the SA table and the session table.

A half-open SA that expires leaves its session behind, and so does an SA that is overwritten.
A request of the PGW that deletes a session leaves the SA behind. In runs without these events
the two tables refer to each other after every step.
-/
namespace Epdg
open Ikev2

structure LinkSafe (S : Server) (w : World) (i : Input) : Prop where
  fresh : FreshID S w i
  init : ∀ m, incoming S w i = some m → m.hdr.exchangeType = exchIKESAInit →
    InitAccepted S w i.env m.remote m.msg m.hdr → m.sa.sessionID = none
  ikeRekey : ∀ m offer nonceI ke newSPII, incoming S w i = some m →
    m.hdr.exchangeType = exchCreateChildSA →
    openChild S m.sa.saKey m.msg = some (.ikeSA offer nonceI ke) →
    IkeRekeyAccepted S i.env offer ke newSPII → ∀ id, ¬ Refers w newSPII id
  expiry : ∀ k sa, i.act = .halfOpen k → w.lookupSA k = some sa → sa.state = .auth →
    i.env.now - sa.createdAt > S.cfg.halfOpenTimeout → sa.sessionID = none
  kept : ∀ ev, i.handles ev →
    (∀ id l c, w.links id = some l → l.s2b = some c → ¬ ev.drops c) ∧
      ∀ r, i.env.s2b = .ok r → ¬ ev.drops (s2bContext r)

structure LinkInv (w : World) : Prop where
  refs : RefInv w
  present : ∀ k id, Refers w k id → (w.links id).isSome = true
  covered : ∀ id, (w.links id).isSome = true → ∃ k, Refers w k id

section
variable {S : Server} {i : Input} {w0 w w' : World}

theorem LinkSafe.keepsSessions (hsafe : LinkSafe S w i) : KeepsSessions w i := by
  intro ev hev
  refine ⟨fun id c hc => ?_, (hsafe.kept ev hev).2⟩
  obtain ⟨l, hl, hc'⟩ := World.context_eq_some.mp hc
  exact (hsafe.kept ev hev).1 id l c hl hc'

theorem LinkInv.congr (hi : LinkInv w) (hrefs : RefInv w')
    (hl : ∀ id, (w'.links id).isSome = (w.links id).isSome)
    (hr : ∀ k id, Refers w' k id ↔ Refers w k id) : LinkInv w' where
  refs := hrefs
  present k id h := by
    rw [hl]
    exact hi.present k id ((hr k id).mp h)
  covered id h := by
    obtain ⟨k, hk⟩ := hi.covered id (hl id ▸ h)
    grind

section
variable (hsafe : LinkSafe S w0 i) (hact : ∀ k, i.act ≠ .halfOpen k)
include hsafe hact

theorem Quiet.linkInv (hin : Within w0 i w) (hq : Quiet S i.env i.triggers w w') (hi : LinkInv w) :
    LinkInv w' := by
  have hrefs := hq.refInv hin.base hi.refs
  have hpres : Present w' := hq.present hsafe.keepsSessions hin hi.refs hi.present
  cases hq.links hin.keyed with
  | same h hids => exact hi.congr hrefs (fun id => by rw [h]) fun k id => Refers.congr hids
  | opened sa sa' hl hs hid _ hl' h =>
    refine ⟨hrefs, hpres, ?_⟩
    intro id hsome
    rw [h] at hsome
    split at hsome
    · rename_i e
      exact ⟨sa.spiI, (refers_of_lookup hl').mpr (.inl ⟨rfl, hid.trans (congrArg some e.symm)⟩)⟩
    obtain ⟨k, hk⟩ := hi.covered id hsome
    refine ⟨k, (refers_of_lookup hl').mpr (.inr ⟨?_, hk⟩)⟩
    rintro rfl
    obtain ⟨sa1, hl1, hid1⟩ := hk
    rw [hl] at hl1
    cases hl1
    rcases hi.refs.half _ sa hl hs with hn | hn
    · simp_all
    · simp_all
  | torn sa hl _ hno h =>
    have hr {k : UInt64} {id : Session.ID} : Refers w' k id ↔ k ≠ sa.spiI ∧ Refers w k id := by
      simp only [Refers, hno]
      grind
    refine ⟨hrefs, hpres, ?_⟩
    intro id hsome
    rw [h] at hsome
    split at hsome
    · cases hsome
    obtain ⟨k, hk⟩ := hi.covered id hsome
    refine ⟨k, hr.mpr ⟨?_, hk⟩⟩
    rintro rfl
    obtain ⟨sa1, hl1, hid1⟩ := hk
    simp_all
  | expired sa hl hs hx => exact (hact _ hx).elim
  | pgw ev hev _ hl h =>
    exact hi.congr hrefs
      (fun id => isSome_of_pgwLinks (h id) fun c => hsafe.keepsSessions.not_drops hin hev)
      fun k id => Refers.congr (ids_congr hl)

theorem Quiets.linkInv (hin : Within w0 i w) (hq : Quiets S i.env i.triggers w w')
    (hi : LinkInv w) : LinkInv w' :=
  (hq.within_invariant (fun hin hq => hq.linkInv hsafe hact hin) hin hi).2

theorem LinkInv.connected (hin : Within w0 i w) {sid : Option Session.ID} {r : CreateSessionResult}
    {w2 : World} (hr : i.env.s2b = .ok r)
    (hq : Quiets S i.env i.triggers (w.updateSession sid (sessionS2b r)) w2) (hi : LinkInv w) :
    LinkInv w2 := by
  have hl1 := w.lookupSA_updateSession sid (sessionS2b r)
  refine Quiets.linkInv hsafe hact (hin.record hr sid) hq (hi.congr (hi.refs.congr hl1) ?_ ?_)
  · exact fun id => isSome_links_record w sid r
  · exact fun k id => Refers.congr (ids_congr hl1)

theorem Major.linkInv {remote : UDPAddr} {msg : Bytes} {hdr : IKEHeader} (hin0 : Within w0 i w0)
    (hin : Within w0 i w) (hmsg : i.message S = some (remote, msg, hdr))
    (hm : Major S i.env remote msg hdr w0 w w') (hi : LinkInv w) : LinkInv w' := by
  have hrefs := hm.refInv hsafe.fresh hmsg hin0.base hi.refs
  have hpres : Present w' := hm.present hsafe.keepsSessions hin0.base hin hi.refs hi.present
  cases hm.links hin0.base.keyed (handles_pgwAt i) with
  | same h hids => exact hi.congr hrefs (fun id => by rw [h]) fun k id => Refers.congr hids
  | started sa hl hs hex hid hl' h =>
    refine hi.congr hrefs (fun id => ?_) fun k id => refers_rewrite _ hl hl' rfl
    grind
  | connected sa r w2 hl _ hr hq hl2 h hids =>
    exact (hi.connected hsafe hact hin hr hq).congr hrefs (fun id => by rw [h])
      fun k id => Refers.congr hids
  | created new hw hex hacc hspi hids hl h =>
    refine ⟨hrefs, hpres, ?_⟩
    intro id hsome
    obtain ⟨k, hk⟩ := hi.covered id (h id ▸ hsome)
    refine ⟨k, (refers_of_lookup hl).mpr (.inr ⟨?_, hk⟩)⟩
    rintro rfl
    obtain ⟨c, rfl⟩ := hw
    obtain ⟨sa0, hl0, hid⟩ := hk
    have hnone := hsafe.init _ (incoming_of_message hmsg hl0) hex hacc
    simp_all
  | moved sa0 sa new offer nonceI ke hw hl hst hex hl0 hopen hp hids hl' h =>
    refine ⟨hrefs, hpres, ?_⟩
    intro id hsome
    obtain ⟨k, sa1, hl1, hid⟩ := hi.covered id (h id ▸ hsome)
    by_cases hk : k = sa.spiI
    · rw [hk, hl] at hl1
      cases hl1
      exact ⟨new.spiI, new, by rw [hl', if_pos rfl], hids.1.trans hid⟩
    refine ⟨k, sa1, ?_, hid⟩
    have hnew : k ≠ new.spiI := by
      rintro rfl
      exact hsafe.ikeRekey _ offer nonceI ke new.spiI (incoming_of_message hmsg hl0) hex
        hopen hp id ((Refers.congr hw).mp ⟨sa1, hl1, hid⟩)
    simp_all

end

end

section Runs
open Scenario

def pgwDeleted : List Input := attached ++ [⟨.pgw (.deleteSession 0x301 false), { now := 5 }⟩]

def expired : List Input :=
  [Attach.init {} 1 (some gateway), Attach.round1 {} 2 challengeAnswer,
    ⟨.halfOpen 0x11, { now := 31 * Config.second }⟩]

end Runs
end Epdg
