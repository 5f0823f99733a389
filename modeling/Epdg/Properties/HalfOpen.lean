import Epdg.System.Concurrent
import Epdg.System.Scenario

/-!
The bound on half-open SAs, and what the reaper removes, under every interleaving.

The number of SAs is compared with the bound before a new one is stored, and the reaper
deletes by SPI after it has looked at the SA. Neither holds a lock in between.
-/
namespace Epdg
open Ikev2
variable {w : World} {k : UInt64} {c : Threads} {a : Threads.Action}

def halfOpenSPIs (w : World) : Finset UInt64 :=
  w.sas.keys.toFinset.filter fun k => (w.lookupSA k).any fun sa => sa.state = .auth

def halfOpen (w : World) : Nat := (halfOpenSPIs w).card

theorem mem_halfOpenSPIs :
    k ∈ halfOpenSPIs w ↔ ∃ sa, w.lookupSA k = some sa ∧ sa.state = .auth := by
  simp only [halfOpenSPIs, Finset.mem_filter, List.mem_toFinset, Option.any_eq_true,
    decide_eq_true_eq]
  constructor
  · simp_all
  · rintro ⟨sa, hl, hst⟩
    exact ⟨World.mem_keys_of_lookupSA hl, sa, hl, hst⟩

theorem halfOpen_le_saCount (w : World) : halfOpen w ≤ w.saCount := by
  have h1 : halfOpen w ≤ w.sas.keys.toFinset.card := Finset.card_filter_le _ _
  have h2 := List.toFinset_card_le w.sas.keys
  have h3 : w.sas.keys.length = w.saCount := List.length_map _
  omega

def InitRoom (S : Server) (c : Threads) : Threads.Action → Prop
  | .input i => ∀ remote pkt natt msg hdr, i.act = .packet remote pkt natt →
      parsePacket S natt pkt = some (msg, hdr) → hdr.exchangeType = exchIKESAInit →
      c.world.saCount < S.cfg.maxHalfOpen →
      halfOpen c.world + c.workers.length < S.cfg.maxHalfOpen
  | _ => True

theorem initRoom_of_alone {S : Server} (h : c.workers = []) (a : Threads.Action)
    : InitRoom S c a := by
  cases a with
  | input i =>
    intro remote pkt natt msg hdr _ _ _ hload
    have hle := halfOpen_le_saCount c.world
    grind
  | store | delete | tick => trivial

section
variable {S : Server} {c : Threads}

theorem halfOpen_le_of_imp {w w' : World}
    (h : ∀ k sa', w'.lookupSA k = some sa' → sa'.state = .auth →
      ∃ sa, w.lookupSA k = some sa ∧ sa.state = .auth) : halfOpen w' ≤ halfOpen w := by
  apply Finset.card_le_card
  intro k hk
  obtain ⟨sa', hl, hst⟩ := mem_halfOpenSPIs.mp hk
  exact mem_halfOpenSPIs.mpr (h k sa' hl hst)

theorem halfOpen_finish (k : InitWorker) (w : World) (env : Env) :
    halfOpen (k.finish S w env) ≤ halfOpen w + 1 := by
  rcases k.finish_lookup w env with hsame | ⟨sa, -, -, -, hl⟩
  · have hle : halfOpen (k.finish S w env) ≤ halfOpen w := by
      apply halfOpen_le_of_imp
      intro key sa' hl hst
      exact ⟨sa', (hsame key).symm.trans hl, hst⟩
    omega
  have hsub : halfOpenSPIs (k.finish S w env) ⊆
      insert k.hdr.initiatorSPI (halfOpenSPIs w) := by
    intro key hkey
    obtain ⟨sa', hl', hst⟩ := mem_halfOpenSPIs.mp hkey
    rw [hl] at hl'
    split at hl'
    · simp_all
    · exact Finset.mem_insert_of_mem (mem_halfOpenSPIs.mpr ⟨sa', hl', hst⟩)
  exact (Finset.card_le_card hsub).trans (Finset.card_insert_le _ _)

theorem step_halfOpen (hb : Base c.world) (hroom : InitRoom S c a)
    (hi : halfOpen c.world + c.workers.length ≤ S.cfg.maxHalfOpen) :
    halfOpen (Threads.step S c a).world + (Threads.step S c a).workers.length ≤
      S.cfg.maxHalfOpen := by
  have hcase := Threads.step_cases S c a
  generalize Threads.step S c a = c' at hcase
  cases hcase with
  | idle | decided | ticked => exact hi
  | handled i hno =>
    have hle : halfOpen (step S c.world ⟨i.act, c.now i.env⟩) ≤ halfOpen c.world := by
      apply halfOpen_le_of_imp
      intro k sa' hl hst
      rcases step_aged (i := ⟨i.act, c.now i.env⟩) hb.keyed hno hl with ⟨sa, hsa, hst', -⟩ | ⟨hest, -⟩
      · simp_all
      · simp_all
    dsimp only
    omega
  | checked i remote pkt natt msg hdr hact hparse hex =>
    obtain ⟨hsas, -⟩ := checkInit_sas S c.world (c.now i.env) remote msg hdr natt
    have hle : halfOpen (checkInit S c.world (c.now i.env) remote msg hdr natt).1 ≤
        halfOpen c.world := by
      apply halfOpen_le_of_imp
      intro k sa' hl hst
      rw [World.lookupSA, hsas] at hl
      exact ⟨sa', hl, hst⟩
    rw [List.length_append]
    cases hk : (checkInit S c.world (c.now i.env) remote msg hdr natt).2 with
    | none => grind
    | some k =>
      have hlt := hroom remote pkt natt msg hdr hact hparse hex (checkInit_load hk).1
      grind
  | stored n env k hk =>
    have hle := halfOpen_finish (S := S) k c.world (c.now env)
    grind
  | deleted spiI h =>
    have hle : halfOpen (c.world.deleteSA spiI) ≤ halfOpen c.world := by
      apply halfOpen_le_of_imp
      simp_all
    dsimp only
    omega

end

/-- In every interleaving in which each worker finds room for its SA besides those of the
workers ahead of it, the number of half-open SAs never exceeds the bound. -/
theorem halfOpen_bounded (S : Server) (secret : Bytes) (now : Time)
    (acts : List Threads.Action)
    (hroom : Machine.Guarded (Threads.step S) (InitRoom S) (Threads.initial secret now) acts) :
    halfOpen (Threads.run S secret now acts).world ≤ S.cfg.maxHalfOpen := by
  have hinv : Base (Threads.run S secret now acts).world ∧
      halfOpen (Threads.run S secret now acts).world +
        (Threads.run S secret now acts).workers.length ≤ S.cfg.maxHalfOpen := by
    apply hroom.invariant fun c => Base c.world ∧
      halfOpen c.world + c.workers.length ≤ S.cfg.maxHalfOpen
    · rintro c a ⟨hb, hi⟩ hok
      exact ⟨Threads.step_base hb a, step_halfOpen hb hok hi⟩
    · exact ⟨.initial secret now, Nat.zero_le _⟩
  omega

def ReapSafe (S : Server) (c : Threads) : Threads.Action → Prop
  | .input i => ∀ k, c.expiring = some k → ¬ Advances S c.world ⟨i.act, c.now i.env⟩ k
  | .store n _ => ∀ k worker, c.expiring = some k → c.workers[n]? = some worker →
      worker.hdr.initiatorSPI ≠ k
  | _ => True

def Expired (S : Server) (c : Threads) (sa : IkeSA) : Prop :=
  sa.state = .auth ∧ c.clock - sa.createdAt > S.cfg.halfOpenTimeout

def ReapInv (S : Server) (c : Threads) : Prop :=
  ∀ k sa, c.expiring = some k → c.world.lookupSA k = some sa → Expired S c sa

section
variable {S : Server} {c : Threads}

theorem Expired.of_aged {c' : Threads} {sa' : IkeSA}
    (hold : ∀ sa, c.world.lookupSA k = some sa → Expired S c sa) (h : Aged c.world k sa')
    (hclock : c.clock ≤ c'.clock) : Expired S c' sa' := by
  obtain ⟨sa, hl, hst, hage⟩ := h
  obtain ⟨hauth, hlate⟩ := hold sa hl
  refine ⟨hst.trans hauth, ?_⟩
  grind

theorem step_reapInv (hb : Base c.world) (hsafe : ReapSafe S c a) (hi : ReapInv S c)
    : ReapInv S (Threads.step S c a) := by
  have hcase := Threads.step_cases S c a
  generalize Threads.step S c a = c' at hcase
  intro k sa' hk hl
  cases hcase with
  | idle => exact hi k sa' hk hl
  | ticked d =>
    exact Expired.of_aged (hi k · hk) ⟨sa', hl, rfl, rfl⟩ (Nat.le_add_right _ _)
  | handled i hno =>
    rcases step_aged (i := ⟨i.act, c.now i.env⟩) hb.keyed hno hl with hold | ⟨-, hadv⟩
    · exact Expired.of_aged (hi k · hk) hold (Nat.le_refl _)
    · exact (hsafe k hk hadv).elim
  | checked i remote pkt natt msg hdr =>
    obtain ⟨hsas, -⟩ := checkInit_sas S c.world (c.now i.env) remote msg hdr natt
    rw [World.lookupSA, hsas] at hl
    exact hi k sa' hk hl
  | decided i spiI hact hnone h =>
    cases hk
    simp only [shouldExpire, Option.any_eq_true, Bool.and_eq_true, decide_eq_true_eq] at h
    obtain ⟨sa, hsa, ⟨-, hauth⟩, hlate⟩ := h
    have he : sa' = sa := Option.some.inj (hl.symm.trans hsa)
    rw [he]
    exact ⟨hauth, hlate⟩
  | stored n env worker hw =>
    have hne := hsafe k worker hk hw
    rcases worker.finish_lookup (S := S) c.world (c.now env) with hsame | ⟨sa, -, -, -, hlook⟩
    · exact hi k sa' hk ((hsame k).symm.trans hl)
    have hl' := (hlook k).symm.trans hl
    rw [if_neg (Ne.symm hne)] at hl'
    exact hi k sa' hk hl'
  | deleted spiI h => cases hk

end

/-- In every interleaving in which nothing touches an SPI between the check and the deletion
of the reaper, what the deletion takes out of the table is half-open and older than the
timeout at that moment. -/
theorem reaper_removes_expired (S : Server) (secret : Bytes) (now : Time)
    (acts : List Threads.Action)
    (hsafe : Machine.Guarded (Threads.step S) (ReapSafe S) (Threads.initial secret now) acts) :
    ∀ before rest, acts = before ++ .delete :: rest →
      ∀ k sa, (Threads.run S secret now before).world.lookupSA k = some sa →
        (Threads.run S secret now (before ++ [.delete])).world.lookupSA k = none →
        Expired S (Threads.run S secret now before) sa := by
  intro before rest hsplit k sa hl hgone
  rw [hsplit, Machine.guarded_append] at hsafe
  have hinv : Base (Threads.run S secret now before).world ∧
      ReapInv S (Threads.run S secret now before) := by
    apply hsafe.1.invariant fun c => Base c.world ∧ ReapInv S c
    · rintro c a ⟨hb, hi⟩ hok
      exact ⟨Threads.step_base hb a, step_reapInv hb hok hi⟩
    · exact ⟨.initial secret now, fun k sa hk => by cases hk⟩
  have hstep : Threads.run S secret now (before ++ [.delete]) =
      Threads.step S (Threads.run S secret now before) .delete := by
    simp [Threads.run, Machine.run_append]
  rw [hstep] at hgone
  simp only [Threads.step] at hgone
  split at hgone
  · rw [hl] at hgone
    cases hgone
  rename_i spiI hexp
  rw [World.lookupSA_deleteSA] at hgone
  split at hgone
  · rename_i e
    exact hinv.2 k sa (e ▸ hexp) hl
  · rw [hl] at hgone
    cases hgone

section Runs
open Scenario

def oneHalfOpen : Server := { server with cfg := { server.cfg with maxHalfOpenSAs := 1 } }

def initOf (a : Attach) : Threads.Action := .input (a.init 0 (some gateway))

def storeOf (a : Attach) : Threads.Action := .store 0 (a.init 0 (some gateway)).env

/-- Two requests one after the other: the second one is refused. -/
theorem halfOpen_bounded_in_turn :
    halfOpen (Threads.run oneHalfOpen [1] 0 [initOf {}, storeOf {}, initOf other]).world ≤ 1 := by
  have h := halfOpen_bounded oneHalfOpen [1] 0 [initOf {}, storeOf {}, initOf other] ?_
  · exact h
  · refine ⟨initRoom_of_alone rfl _, trivial, initRoom_of_alone ?_ _, trivial⟩
    decide +kernel

/-- Two workers that both look at the load before either stores its SA. -/
theorem halfOpen_exceeded :
    ¬ halfOpen (Threads.run oneHalfOpen [1] 0
      [initOf {}, initOf other, .store 1 (Attach.init {} 0 (some gateway)).env,
        storeOf other]).world ≤ oneHalfOpen.cfg.maxHalfOpen := by
  decide +kernel

def stalled : List Threads.Action :=
  [initOf {}, storeOf {}, .input (Attach.round1 {} 0 challengeAnswer),
    .input (Attach.eap {} 0 successAnswer), .tick (31 * Config.second)]

def reaperLooks : Threads.Action := .input ⟨.halfOpen 0x11, { now := 0 }⟩

private theorem reapSafe_idle (h : c.expiring = none) (a : Threads.Action) :
    ReapSafe server c a := by
  cases a with
  | input i =>
    intro k hk
    grind
  | store n env =>
    intro k worker hk
    grind
  | delete | tick => trivial

/-- A stalled attach is removed. -/
theorem stalled_removed :
    ∃ sa, (Threads.run server [1] 0 (stalled ++ [reaperLooks])).world.lookupSA 0x11 = some sa ∧
      Expired server (Threads.run server [1] 0 (stalled ++ [reaperLooks])) sa := by
  have hrun : ((Threads.run server [1] 0 (stalled ++ [reaperLooks])).world.lookupSA
      0x11).isSome = true ∧ ((Threads.run server [1] 0 (stalled ++ [reaperLooks] ++
        [.delete])).world.lookupSA 0x11).isNone = true := by decide +kernel
  obtain ⟨sa, hsa⟩ := Option.isSome_iff_exists.mp hrun.1
  refine ⟨sa, hsa, ?_⟩
  apply reaper_removes_expired server [1] 0 (stalled ++ [reaperLooks, .delete]) ?_
    (stalled ++ [reaperLooks]) [] rfl 0x11 sa hsa (Option.isNone_iff_eq_none.mp hrun.2)
  refine ⟨?_, ?_, ?_, ?_, ?_, ?_, trivial, trivial⟩ <;>
    exact reapSafe_idle (by decide +kernel) _

def lateAuth : Threads.Action :=
  .input (Attach.final {} { now := 0, s2b := .ok (connection 1), espSPI := some 0x1001 })

def initElsewhere : Threads.Action :=
  .input ⟨.packet ueMoved (initMessage 0x11) false, (Attach.init {} 0 (some gateway)).env⟩

/-- The reaper takes away an SA that was established after the check, and one that was stored
after it. -/
theorem reaper_removes_live :
    (∃ sa, (Threads.run server [1] 0 (stalled ++ [reaperLooks, lateAuth])).world.lookupSA 0x11 =
        some sa ∧
      (Threads.run server [1] 0
        (stalled ++ [reaperLooks, lateAuth] ++ [.delete])).world.lookupSA 0x11 = none ∧
      ¬ Expired server (Threads.run server [1] 0 (stalled ++ [reaperLooks, lateAuth])) sa) ∧
    ∃ sa, (Threads.run server [1] 0
        (stalled ++ [reaperLooks, initElsewhere, storeOf {}])).world.lookupSA 0x11 = some sa ∧
      (Threads.run server [1] 0
        (stalled ++ [reaperLooks, initElsewhere, storeOf {}] ++ [.delete])).world.lookupSA 0x11 =
          none ∧
      ¬ Expired server (Threads.run server [1] 0
        (stalled ++ [reaperLooks, initElsewhere, storeOf {}])) sa := by
  have hlive (acts : List Threads.Action)
      (h : ((Threads.run server [1] 0 acts).world.lookupSA 0x11).any (fun sa =>
          !(sa.state = .auth && (Threads.run server [1] 0 acts).clock - sa.createdAt >
            server.cfg.halfOpenTimeout)) = true ∧
        ((Threads.run server [1] 0 (acts ++ [.delete])).world.lookupSA 0x11).isNone = true) :
      ∃ sa, (Threads.run server [1] 0 acts).world.lookupSA 0x11 = some sa ∧
        (Threads.run server [1] 0 (acts ++ [.delete])).world.lookupSA 0x11 = none ∧
        ¬ Expired server (Threads.run server [1] 0 acts) sa := by
    obtain ⟨sa, hsa, hnot⟩ := (Option.any_eq_true _ _).mp h.1
    refine ⟨sa, hsa, Option.isNone_iff_eq_none.mp h.2, ?_⟩
    rintro ⟨hst, hlate⟩
    simp [hst, hlate] at hnot
  exact ⟨hlive _ (by decide +kernel), hlive _ (by decide +kernel)⟩

end Runs
end Epdg
