import Epdg.Gtpu.Tables
import Epdg.Lib.Run
import Epdg.Properties.Addressing

/-!
Which bearers a Create Bearer Request installs.

`AddBearer` writes its tables before it sets the TFT rules. When that fails the bearer is there,
but `allocateBearerTEID` goes on with another TEID: the first one stays behind in the index, and
when the tries run out the bearer is reported as rejected. And one rejected bearer turns the cause
of the whole response into 64, whatever was installed for the others.
-/
namespace Epdg
open S2b
variable {ebi : UInt8} {rounds : List CreateRound}

namespace Gtpu.Manager
variable {remote teid : UInt32} {ebi : UInt8}

def canAdd (m : Manager) (id : Session.ID) (b : NewBearer) : Bool :=
  b.remoteTXTEID ≠ 0 && b.ebi ≠ 0 && m.hasSession id

structure Installs (m m' : Manager) (id : Session.ID) (ebi : UInt8) (teid remote : UInt32) :
    Prop where
  free : m.bearersByLocalTEID.lookup teid = none
  tunnel : ∀ t, m'.bearersByLocalTEID.lookup t =
    if t = teid then some ⟨id, ebi⟩ else m.bearersByLocalTEID.lookup t
  bearer : ∃ b : Bearer, b.localRXTEID = teid ∧ b.remoteTXTEID = remote ∧
    ∀ e, m'.bearerAt id e = if e = ebi then some b else m.bearerAt id e
  session : m'.hasSession id = true

variable {m : Manager} {id : Session.ID} {b : NewBearer}

theorem addBearer_free {teid : { teid : UInt32 // teid ≠ 0 }} (h : m.canAdd id b = true)
    (hfree : m.bearersByLocalTEID.lookup teid.1 = none) (fault : Bool) :
    ∃ m', m.addBearer fault id { b with localRXTEID := teid } = (m', !fault) ∧
      m.Installs m' id b.ebi teid.1 b.remoteTXTEID := by
  have hadm : m.admitsBearer id { b with localRXTEID := teid } = true := by
    simpa [admitsBearer, canAdd, byLocalTEID, teid.2, hfree] using h
  obtain ⟨hok, ds, hds, hedit, -, hlocal, -⟩ := addBearer_admitted hadm fault
  obtain ⟨ds', hds', -⟩ := hedit.byID hds
  refine ⟨_, Prod.ext rfl hok, hfree, hlocal, ?_, Option.isSome_iff_exists.mpr ⟨ds', hds'⟩⟩
  refine ⟨({ b with localRXTEID := teid } : NewBearer).activate ds, rfl, rfl, fun e => ?_⟩
  simpa [bearerOf] using hedit.bearer ⟨id, e⟩

def firstFree (m : Manager) : List TeidDraw → Option ({ teid : UInt32 // teid ≠ 0 } × Bool)
  | [] => none
  | d :: draws =>
    match d.teid with
    | none => none
    | some teid =>
      if (m.bearersByLocalTEID.lookup teid.1).isSome then firstFree m draws
      else some (teid, d.fault)

structure Allocates (m m' : Manager) (id : Session.ID) (ebi : UInt8) (result : Option UInt32) :
    Prop where
  kept : ∀ t ref, m.bearersByLocalTEID.lookup t = some ref →
    m'.bearersByLocalTEID.lookup t = some ref
  given : ∀ t, result = some t → m.bearersByLocalTEID.lookup t = none ∧
    m'.bearersByLocalTEID.lookup t = some ⟨id, ebi⟩

theorem Installs.kept {m m' : Manager} (h : m.Installs m' id ebi teid remote) {t : UInt32}
    {ref : BearerRef} (ht : m.bearersByLocalTEID.lookup t = some ref) :
    m'.bearersByLocalTEID.lookup t = some ref := by
  rw [h.tunnel, if_neg, ht]
  rintro rfl
  rw [h.free] at ht
  cases ht

theorem Installs.canAdd {m m' : Manager} (h : m.Installs m' id ebi teid remote)
    (hm : m.canAdd id b = true) : m'.canAdd id b = true := by
  simp only [Manager.canAdd, Bool.and_eq_true] at hm ⊢
  exact ⟨hm.1, h.session⟩

theorem allocateLoop_skip {d : TeidDraw} {teid : { teid : UInt32 // teid ≠ 0 }}
    (hd : d.teid = some teid)
    (h : m.canAdd id b = true → (m.bearersByLocalTEID.lookup teid.1).isSome = true)
    (draws : List TeidDraw) : allocateLoop id b m (d :: draws) = allocateLoop id b m draws := by
  have hno : m.admitsBearer id { b with localRXTEID := teid } = false := by
    cases hadd : m.canAdd id b with
    | false => simp_all [admitsBearer, canAdd, byLocalTEID]
    | true => simp [admitsBearer, byLocalTEID, h hadd]
  simp only [allocateLoop, hd, addBearer_unadmitted hno]

theorem allocateLoop_allocates (h : m.canAdd id b = true) (draws : List TeidDraw) :
    m.Allocates (allocateLoop id b m draws).1 id b.ebi (allocateLoop id b m draws).2 := by
  induction draws generalizing m with
  | nil => exact ⟨fun _ _ h => h, fun _ h => by cases h⟩
  | cons d draws ih =>
    cases hd : d.teid with
    | none =>
      simp only [allocateLoop, hd]
      exact ⟨fun _ _ h => h, fun _ h => by cases h⟩
    | some teid =>
      by_cases htaken : (m.bearersByLocalTEID.lookup teid.1).isSome
      · rw [allocateLoop_skip hd fun _ => htaken]
        exact ih h
      have hfree := Option.not_isSome_iff_eq_none.mp htaken
      obtain ⟨m1, hadd, hinst⟩ := addBearer_free h hfree d.fault
      simp only [allocateLoop, hd, hadd]
      cases d.fault with
      | false =>
        refine ⟨fun t ref ht => hinst.kept ht, fun t ht => ?_⟩
        cases ht
        exact ⟨hfree, (hinst.tunnel _).trans (if_pos rfl)⟩
      | true =>
        have hrest := ih (hinst.canAdd h)
        refine ⟨fun t ref ht => hrest.kept t ref (hinst.kept ht), fun t ht => ?_⟩
        obtain ⟨hbefore, hafter⟩ := hrest.given t ht
        refine ⟨?_, hafter⟩
        cases hm : m.bearersByLocalTEID.lookup t with
        | none => rfl
        | some ref => cases (hinst.kept hm).symm.trans hbefore

theorem allocateLoop_none {draws : List TeidDraw}
    (h : m.canAdd id b = true → m.firstFree draws = none) :
    allocateLoop id b m draws = (m, none) := by
  induction draws with
  | nil => rfl
  | cons d draws ih =>
    cases hd : d.teid with
    | none => simp only [allocateLoop, hd]
    | some teid =>
      have hskip (hadd : m.canAdd id b = true) :
          (m.bearersByLocalTEID.lookup teid.1).isSome ∧ m.firstFree draws = none := by
        simpa only [firstFree, hd, ite_eq_iff, reduceCtorEq, and_false, or_false] using h hadd
      rw [allocateLoop_skip hd fun hadd => (hskip hadd).1]
      simp_all

theorem allocateLoop_first (h : m.canAdd id b = true) {draws : List TeidDraw}
    {teid : { teid : UInt32 // teid ≠ 0 }} {fault : Bool}
    (hfirst : m.firstFree draws = some (teid, fault)) :
    ∃ m1 rest, m.Installs m1 id b.ebi teid.1 b.remoteTXTEID ∧
      allocateLoop id b m draws =
        if fault then allocateLoop id b m1 rest else (m1, some teid.1) := by
  induction draws with
  | nil => cases hfirst
  | cons d draws ih =>
    cases hd : d.teid with
    | none =>
      simp only [firstFree, hd] at hfirst
      cases hfirst
    | some t =>
      simp only [firstFree, hd] at hfirst
      by_cases htaken : (m.bearersByLocalTEID.lookup t.1).isSome
      · rw [allocateLoop_skip hd fun _ => htaken]
        simp_all
      simp only [if_neg htaken] at hfirst
      cases hfirst
      obtain ⟨m1, hadd, hinst⟩ :=
        addBearer_free h (Option.not_isSome_iff_eq_none.mp htaken) d.fault
      refine ⟨m1, draws, hinst, ?_⟩
      simp only [allocateLoop, hd, hadd]
      cases d.fault <;> rfl

theorem allocateLoop_failed (h : m.canAdd id b = true) {draws : List TeidDraw}
    {teid : { teid : UInt32 // teid ≠ 0 }} (hfirst : m.firstFree draws = some (teid, true)) :
    m.bearersByLocalTEID.lookup teid.1 = none ∧
      (allocateLoop id b m draws).1.bearersByLocalTEID.lookup teid.1 = some ⟨id, b.ebi⟩ ∧
      (allocateLoop id b m draws).2 ≠ some teid.1 := by
  obtain ⟨m1, rest, hinst, hloop⟩ := allocateLoop_first h hfirst
  rw [hloop, if_pos rfl]
  have hrest := allocateLoop_allocates (hinst.canAdd h) rest
  have hthere : m1.bearersByLocalTEID.lookup teid.1 = some ⟨id, b.ebi⟩ := by
    rw [hinst.tunnel, if_pos rfl]
  refine ⟨hinst.free, hrest.kept _ _ hthere, fun hgiven => ?_⟩
  rw [(hrest.given _ hgiven).1] at hthere
  cases hthere

end Gtpu.Manager

section Round
variable {m : Gtpu.Manager} {localGTPU : Option IP} {draws : Nat → Gtpu.TeidDraw}
variable {id : Session.ID} {defaultEBI : UInt8} {b : CreateBearerContext}

def drawnTEID (m : Gtpu.Manager) (draws : Nat → Gtpu.TeidDraw) :
    Option ({ teid : UInt32 // teid ≠ 0 } × Bool) :=
  m.firstFree ((List.range 8).map draws)

def installable (m : Gtpu.Manager) (draws : Nat → Gtpu.TeidDraw) (id : Session.ID)
    (defaultEBI : UInt8) (b : CreateBearerContext) : Bool :=
  (dedicatedEBI m id defaultEBI b).isOk && b.pgwUserTEID ≠ 0 && m.hasSession id &&
    (drawnTEID m draws).isSome

def rulesSet (m : Gtpu.Manager) (draws : Nat → Gtpu.TeidDraw) (id : Session.ID)
    (defaultEBI : UInt8) (b : CreateBearerContext) : Bool :=
  !installable m draws id defaultEBI b || (drawnTEID m draws).all fun drawn => !drawn.2

theorem dedicatedEBI_ok (h : dedicatedEBI m id defaultEBI b = .ok ebi) :
    ebi ≠ 0 ∧ ebi ≠ defaultEBI ∧ m.hasBearer id ebi = false := by
  simp only [dedicatedEBI] at h
  split at h
  · split at h
    · rename_i allocated halloc
      cases h
      have hmem := List.mem_of_find?_eq_some halloc
      have hok := List.find?_some halloc
      simp only [Bool.and_eq_true, decide_eq_true_eq, Bool.not_eq_true'] at hok
      have h0 : ([6, 7, 8, 9, 10, 11, 12, 13, 14, 15] : List UInt8).all
          (fun e => decide (e ≠ 0)) = true := by decide
      grind
    · cases h
  · grind

def newBearer (localGTPU : Option IP) (b : CreateBearerContext) (ebi : UInt8) : Gtpu.NewBearer :=
  { ebi, remoteTXTEID := b.pgwUserTEID, pgwGTPUIP := b.pgwUserIP, localGTPUIP := localGTPU
    qci := b.qci, tft := (Gtpu.parseTFT b.tftRaw).getD (some {}) }

theorem createBearer_ok (localGTPU : Option IP) (draws : Nat → Gtpu.TeidDraw)
    (h : dedicatedEBI m id defaultEBI b = .ok ebi) :
    let out := m.allocateBearerTEID draws id (newBearer localGTPU b ebi)
    let round := createBearer m localGTPU draws id defaultEBI b
    round.1 = out.1 ∧ round.2.ebi = ebi ∧ (round.2.accepted = true ↔ out.2.isSome) ∧
      ∀ teid, out.2 = some teid →
        round.2.localUserTEID = teid ∧ round.2.pgwUserTEID = b.pgwUserTEID := by
  simp only [createBearer, h]
  rw [show ({ ebi, remoteTXTEID := b.pgwUserTEID, pgwGTPUIP := b.pgwUserIP
              localGTPUIP := localGTPU, qci := b.qci
              tft := (Gtpu.parseTFT b.tftRaw).getD (some {}) } : Gtpu.NewBearer) =
    newBearer localGTPU b ebi from rfl]
  grind

theorem canAdd_newBearer (h : dedicatedEBI m id defaultEBI b = .ok ebi) :
    m.canAdd id (newBearer localGTPU b ebi) = (b.pgwUserTEID ≠ 0 && m.hasSession id) := by
  have h0 : (newBearer localGTPU b ebi).ebi ≠ 0 := (dedicatedEBI_ok h).1
  rw [Gtpu.Manager.canAdd, decide_eq_true h0, Bool.and_true]
  rfl

theorem createBearer_rejected (localGTPU : Option IP)
    (h : installable m draws id defaultEBI b = false) :
    (createBearer m localGTPU draws id defaultEBI b).1 = m ∧
      (createBearer m localGTPU draws id defaultEBI b).2.accepted = false := by
  cases hded : dedicatedEBI m id defaultEBI b with
  | error ebi => simp only [createBearer, hded, and_self]
  | ok ebi =>
    obtain ⟨hm, -, hacc, -⟩ := createBearer_ok localGTPU draws hded
    have hnone : m.allocateBearerTEID draws id (newBearer localGTPU b ebi) = (m, none) := by
      apply Gtpu.Manager.allocateLoop_none
      intro hadd
      rw [canAdd_newBearer hded, Bool.and_eq_true, decide_eq_true_eq] at hadd
      have hdrawn : drawnTEID m draws = none := by
        simpa [installable, hded, Except.isOk, Except.toBool, hadd.1, hadd.2] using h
      exact hdrawn
    simp_all

theorem installable_spec (h : installable m draws id defaultEBI b = true) :
    ∃ ebi teid fault, dedicatedEBI m id defaultEBI b = .ok ebi ∧
      (∀ localGTPU, m.canAdd id (newBearer localGTPU b ebi) = true) ∧
      m.firstFree ((List.range 8).map draws) = some (teid, fault) := by
  simp only [installable, Bool.and_eq_true] at h
  obtain ⟨⟨⟨hok, hremote⟩, hsess⟩, hdrawn⟩ := h
  obtain ⟨⟨teid, fault⟩, hdrawn⟩ := Option.isSome_iff_exists.mp hdrawn
  cases hded : dedicatedEBI m id defaultEBI b with
  | error ebi =>
    rw [hded] at hok
    cases hok
  | ok ebi =>
    refine ⟨ebi, teid, fault, rfl, fun localGTPU => ?_, hdrawn⟩
    rw [canAdd_newBearer hded, hremote, hsess]
    rfl

theorem createBearer_installs (localGTPU : Option IP)
    (h : installable m draws id defaultEBI b = true)
    (hrules : rulesSet m draws id defaultEBI b = true) :
    let round := createBearer m localGTPU draws id defaultEBI b
    round.2.accepted = true ∧
      m.Installs round.1 id round.2.ebi round.2.localUserTEID round.2.pgwUserTEID ∧
      round.2.ebi ≠ defaultEBI ∧ m.hasBearer id round.2.ebi = false := by
  obtain ⟨ebi, teid, fault, hded, hadd, hfirst⟩ := installable_spec h
  have hfault : fault = false := by
    simpa [rulesSet, h, drawnTEID, hfirst] using hrules
  subst hfault
  obtain ⟨m1, rest, hinst, hloop⟩ := Gtpu.Manager.allocateLoop_first (hadd localGTPU) hfirst
  obtain ⟨hm, hebi, hacc, hteids⟩ := createBearer_ok localGTPU draws hded
  have hout : m.allocateBearerTEID draws id (newBearer localGTPU b ebi) = (m1, some teid.1) :=
    hloop
  rw [hout] at hm hacc hteids
  obtain ⟨hlocal, hremote⟩ := hteids teid.1 rfl
  obtain ⟨-, hdefault, hfree⟩ := dedicatedEBI_ok hded
  refine ⟨hacc.mpr rfl, ?_, hebi ▸ hdefault, hebi ▸ hfree⟩
  rw [hm, hebi, hlocal, hremote]
  exact hinst

variable (m localGTPU draws id defaultEBI b) in
theorem createBearer_kept :
    let round := createBearer m localGTPU draws id defaultEBI b
    (∀ t ref, m.bearersByLocalTEID.lookup t = some ref →
        round.1.bearersByLocalTEID.lookup t = some ref) ∧
      (round.2.accepted = true → m.bearersByLocalTEID.lookup round.2.localUserTEID = none ∧
        round.1.bearersByLocalTEID.lookup round.2.localUserTEID =
          some ⟨id, round.2.ebi⟩) := by
  cases h : installable m draws id defaultEBI b with
  | false =>
    obtain ⟨hm, hacc⟩ := createBearer_rejected localGTPU h
    simp_all
  | true =>
    obtain ⟨ebi, teid, fault, hded, hadd, hfirst⟩ := installable_spec h
    obtain ⟨hm, hebi, hacc, hteids⟩ := createBearer_ok localGTPU draws hded
    have hall : m.Allocates (m.allocateBearerTEID draws id (newBearer localGTPU b ebi)).1 id ebi
        (m.allocateBearerTEID draws id (newBearer localGTPU b ebi)).2 :=
      Gtpu.Manager.allocateLoop_allocates (hadd localGTPU) _
    refine ⟨fun t ref ht => hm ▸ hall.kept t ref ht, fun haccepted => ?_⟩
    obtain ⟨t, ht⟩ := Option.isSome_iff_exists.mp (hacc.mp haccepted)
    rw [(hteids t ht).1, hm, hebi]
    exact hall.given t ht

theorem createBearer_leftover (localGTPU : Option IP)
    (hrules : rulesSet m draws id defaultEBI b = false) :
    let round := createBearer m localGTPU draws id defaultEBI b
    ∃ t ref, m.bearersByLocalTEID.lookup t = none ∧
      round.1.bearersByLocalTEID.lookup t = some ref ∧
      ¬(round.2.accepted = true ∧ round.2.localUserTEID = t) := by
  simp only [rulesSet, Bool.or_eq_false_iff, Bool.not_eq_false'] at hrules
  obtain ⟨h, hfail⟩ := hrules
  obtain ⟨ebi, teid, fault, hded, hadd, hfirst⟩ := installable_spec h
  have hfault : fault = true := by
    simpa [drawnTEID, hfirst] using hfail
  subst hfault
  obtain ⟨hm, -, hacc, hteids⟩ := createBearer_ok localGTPU draws hded
  obtain ⟨hfree, hthere, hnot⟩ := Gtpu.Manager.allocateLoop_failed (hadd localGTPU) hfirst
  refine ⟨teid.1, ⟨id, ebi⟩, hfree, ?_, ?_⟩
  · rw [hm]
    exact hthere
  · rintro ⟨haccepted, hlocal⟩
    obtain ⟨t, ht⟩ := Option.isSome_iff_exists.mp (hacc.mp haccepted)
    rw [(hteids t ht).1] at hlocal
    exact hnot (hlocal ▸ ht)

end Round

def NewBearer (m m' : Gtpu.Manager) (id : Session.ID) (ebi : UInt8) (teid remote : UInt32) :
    Prop :=
  ∃ b, m'.bearerAt id ebi = some b ∧ m.bearerAt id ebi ≠ some b ∧ b.localRXTEID = teid ∧
    b.remoteTXTEID = remote

structure InstallsReported (id : Session.ID) (defaultEBI : UInt8) (m m' : Gtpu.Manager)
    (reports : List CreateBearerBearerResult) : Prop where
  bearers : ∀ ebi teid remote, NewBearer m m' id ebi teid remote ↔
    ∃ br ∈ reports, br.accepted = true ∧ br.ebi = ebi ∧ br.localUserTEID = teid ∧
      br.pgwUserTEID = remote
  tunnels : ∀ teid ref, m'.bearersByLocalTEID.lookup teid = some ref ∧
      m.bearersByLocalTEID.lookup teid ≠ some ref ↔
    ∃ br ∈ reports, br.accepted = true ∧ br.localUserTEID = teid ∧ ⟨id, br.ebi⟩ = ref
  fresh : ∀ br ∈ reports, br.accepted = true →
    br.ebi ≠ defaultEBI ∧ m.hasBearer id br.ebi = false
  distinct : ((reports.filter CreateBearerBearerResult.accepted).map
    CreateBearerBearerResult.ebi).Nodup

structure KeepsBearers (id : Session.ID) (m m' : Gtpu.Manager) : Prop where
  bearer : ∀ ebi b, m.bearerAt id ebi = some b → m'.bearerAt id ebi = some b
  tunnel : ∀ t ref, m.bearersByLocalTEID.lookup t = some ref →
    m'.bearersByLocalTEID.lookup t = some ref

section Reports
variable {id : Session.ID} {defaultEBI : UInt8} {m m1 m' : Gtpu.Manager}
variable {br : CreateBearerBearerResult} {reports : List CreateBearerBearerResult}

theorem InstallsReported.nil : InstallsReported id defaultEBI m m [] where
  bearers ebi teid remote := by
    constructor
    · rintro ⟨b, h, hne, -⟩
      exact absurd h hne
    · simp_all
  tunnels teid ref := by simp_all
  fresh br hbr := by cases hbr
  distinct := List.nodup_nil

theorem InstallsReported.rejected (hbr : br.accepted = false)
    (h : InstallsReported id defaultEBI m m' reports) :
    InstallsReported id defaultEBI m m' (br :: reports) := by
  have hskip : ∀ {p : CreateBearerBearerResult → Prop},
      (∃ r ∈ br :: reports, r.accepted = true ∧ p r) ↔
        ∃ r ∈ reports, r.accepted = true ∧ p r := by
    intro p
    simp [hbr]
  refine ⟨fun ebi teid remote => ?_, fun teid ref => ?_, fun r hr hacc => ?_, ?_⟩
  · rw [hskip]
    exact h.bearers ebi teid remote
  · rw [hskip]
    exact h.tunnels teid ref
  · rcases List.mem_cons.mp hr with rfl | hr
    · simp_all
    · exact h.fresh r hr hacc
  · rw [List.filter_cons_of_neg (by simp [hbr])]
    exact h.distinct

theorem installs_keepsBearers {teid remote : UInt32} (h : m.Installs m' id ebi teid remote)
    (hfree : m.hasBearer id ebi = false) : KeepsBearers id m m' := by
  refine ⟨fun e b hb => ?_, fun t ref ht => h.kept ht⟩
  obtain ⟨b', -, -, hat⟩ := h.bearer
  rw [hat, if_neg, hb]
  rintro rfl
  rw [Gtpu.Manager.hasBearer_eq, hb] at hfree
  cases hfree

theorem InstallsReported.accepted (hacc : br.accepted = true)
    (hinst : m.Installs m1 id br.ebi br.localUserTEID br.pgwUserTEID)
    (hdefault : br.ebi ≠ defaultEBI) (hfree : m.hasBearer id br.ebi = false)
    (hkeep : KeepsBearers id m1 m') (h : InstallsReported id defaultEBI m1 m' reports) :
    InstallsReported id defaultEBI m m' (br :: reports) := by
  have hkeep1 := installs_keepsBearers hinst hfree
  obtain ⟨b0, hlocal, hremote, hat⟩ := hinst.bearer
  have hb0 : m1.bearerAt id br.ebi = some b0 := by rw [hat, if_pos rfl]
  refine ⟨fun ebi teid remote => ⟨?_, ?_⟩, fun teid ref => ⟨?_, ?_⟩, fun r hr hr' => ?_, ?_⟩
  · rintro ⟨b, hafter, hbefore, ht, hr⟩
    by_cases h1 : m1.bearerAt id ebi = some b
    · grind
    · obtain ⟨r, hr, hrest⟩ := (h.bearers ebi teid remote).mp ⟨b, hafter, h1, ht, hr⟩
      grind
  · rintro ⟨r, hr, haccr, he, ht, hrem⟩
    rcases List.mem_cons.mp hr with rfl | hr
    · refine ⟨b0, he ▸ hkeep.bearer _ _ hb0, ?_, hlocal.trans ht, hremote.trans hrem⟩
      intro hb
      rw [Gtpu.Manager.hasBearer_eq, he, hb] at hfree
      cases hfree
    · obtain ⟨b, hafter, hbefore, hrest⟩ :=
        (h.bearers ebi teid remote).mpr ⟨r, hr, haccr, he, ht, hrem⟩
      exact ⟨b, hafter, fun hb => hbefore (hkeep1.bearer _ _ hb), hrest⟩
  · rintro ⟨hafter, hbefore⟩
    by_cases h1 : m1.bearersByLocalTEID.lookup teid = some ref
    · rw [hinst.tunnel] at h1
      grind
    · obtain ⟨r, hr, hrest⟩ := (h.tunnels teid ref).mp ⟨hafter, h1⟩
      grind
  · rintro ⟨r, hr, haccr, ht, href⟩
    rcases List.mem_cons.mp hr with rfl | hr
    · subst ht href
      refine ⟨hkeep.tunnel _ _ (by rw [hinst.tunnel, if_pos rfl]), ?_⟩
      rw [hinst.free]
      grind
    · obtain ⟨hafter, hbefore⟩ := (h.tunnels teid ref).mpr ⟨r, hr, haccr, ht, href⟩
      exact ⟨hafter, fun hb => hbefore (hkeep1.tunnel _ _ hb)⟩
  · rcases List.mem_cons.mp hr with rfl | hr
    · simp_all
    obtain ⟨hne, hlater⟩ := h.fresh r hr hr'
    refine ⟨hne, ?_⟩
    rw [Gtpu.Manager.hasBearer_eq] at hlater ⊢
    grind
  · rw [List.filter_cons_of_pos hacc, List.map_cons, List.nodup_cons]
    refine ⟨fun hmem => ?_, h.distinct⟩
    obtain ⟨r, hr, he⟩ := List.mem_map.mp hmem
    obtain ⟨hr, haccr⟩ := List.mem_filter.mp hr
    have hlater := (h.fresh r hr haccr).2
    rw [Gtpu.Manager.hasBearer_eq, he, hb0] at hlater
    cases hlater

end Reports

abbrev CreateRound := (Nat → Gtpu.TeidDraw) × CreateBearerContext

def createRounds : (Nat → Nat → Gtpu.TeidDraw) → List CreateBearerContext → List CreateRound
  | _, [] => []
  | draws, b :: bearers => (draws 0, b) :: createRounds (fun i => draws (i + 1)) bearers

section Rounds
variable (localGTPU : Option IP) (id : Session.ID) (defaultEBI : UInt8)

def createRound (m : Gtpu.Manager) (r : CreateRound) : Gtpu.Manager :=
  (createBearer m localGTPU r.1 id defaultEBI r.2).1

def createReports (m : Gtpu.Manager) : List CreateRound → List CreateBearerBearerResult
  | [] => []
  | r :: rounds =>
    (createBearer m localGTPU r.1 id defaultEBI r.2).2 ::
      createReports (createRound localGTPU id defaultEBI m r) rounds

def RulesSet (m : Gtpu.Manager) (rounds : List CreateRound) : Prop :=
  Machine.Guarded (createRound localGTPU id defaultEBI)
    (fun m r => rulesSet m r.1 id defaultEBI r.2 = true) m rounds

def EachInstallable (v : Bool) (m : Gtpu.Manager) (rounds : List CreateRound) : Prop :=
  Machine.Guarded (createRound localGTPU id defaultEBI)
    (fun m r => installable m r.1 id defaultEBI r.2 = v) m rounds

theorem createBearers_rounds (m : Gtpu.Manager) (draws : Nat → Nat → Gtpu.TeidDraw)
    (bearers : List CreateBearerContext) (result : CreateBearerResult) :
    let out := createBearers localGTPU id defaultEBI m draws bearers result
    let reports := createReports localGTPU id defaultEBI m (createRounds draws bearers)
    out.1 = Machine.run (createRound localGTPU id defaultEBI) m (createRounds draws bearers) ∧
      out.2.bearers = result.bearers ++ reports ∧
      out.2.cause = if reports.all CreateBearerBearerResult.accepted then result.cause
        else causeContextNotFound := by
  induction bearers generalizing m draws result with
  | nil => exact ⟨rfl, (List.append_nil _).symm, rfl⟩
  | cons b bearers ih =>
    have hround : createRound localGTPU id defaultEBI m (draws 0, b) =
        (createBearer m localGTPU (draws 0) id defaultEBI b).1 := rfl
    simp only [createBearers, createRounds, createReports, Machine.run_cons, List.all_cons,
      hround]
    generalize createBearer m localGTPU (draws 0) id defaultEBI b = round
    obtain ⟨m1, added⟩ := round
    obtain ⟨hm, hbearers, hcause⟩ := ih m1 (fun i => draws (i + 1)) (result.add added)
    refine ⟨hm, ?_, ?_⟩
    · rw [hbearers, (CreateBearerResult.add_spec result added).2, List.append_assoc]
      rfl
    · rw [hcause, CreateBearerResult.add_cause]
      grind

theorem createReports_kept {m : Gtpu.Manager} {t : UInt32} {ref : Gtpu.BearerRef}
    (h : m.bearersByLocalTEID.lookup t = some ref) (rounds : List CreateRound) :
    (Machine.run (createRound localGTPU id defaultEBI) m rounds).bearersByLocalTEID.lookup t =
        some ref ∧
      ∀ br ∈ createReports localGTPU id defaultEBI m rounds,
        ¬(br.accepted = true ∧ br.localUserTEID = t) := by
  induction rounds generalizing m with
  | nil => exact ⟨h, fun _ hbr => nomatch hbr⟩
  | cons r rounds ih =>
    obtain ⟨hkept, hgiven⟩ := createBearer_kept m localGTPU r.1 id defaultEBI r.2
    obtain ⟨hrun, hlater⟩ := ih (hkept t ref h)
    refine ⟨hrun, fun br hbr => ?_⟩
    rcases List.mem_cons.mp hbr with rfl | hbr
    · grind
    · exact hlater br hbr

theorem createReports_leftover {m : Gtpu.Manager} (h : ¬RulesSet localGTPU id defaultEBI m rounds) :
    ∃ t ref, m.bearersByLocalTEID.lookup t = none ∧
      (Machine.run (createRound localGTPU id defaultEBI) m rounds).bearersByLocalTEID.lookup t =
        some ref ∧
      ∀ br ∈ createReports localGTPU id defaultEBI m rounds,
        ¬(br.accepted = true ∧ br.localUserTEID = t) := by
  induction rounds generalizing m with
  | nil => exact absurd trivial h
  | cons r rounds ih =>
    by_cases hr : rulesSet m r.1 id defaultEBI r.2 = true
    · obtain ⟨t, ref, hnone, hrun, hlater⟩ := ih fun hrest => h ⟨hr, hrest⟩
      obtain ⟨hkept, hgiven⟩ := createBearer_kept m localGTPU r.1 id defaultEBI r.2
      refine ⟨t, ref, ?_, hrun, fun br hbr => ?_⟩
      · cases hm : m.bearersByLocalTEID.lookup t with
        | none => rfl
        | some ref' => exact nomatch hnone.symm.trans (hkept t ref' hm)
      · rcases List.mem_cons.mp hbr with rfl | hbr
        · rintro ⟨hacc, rfl⟩
          exact nomatch hnone.symm.trans (hgiven hacc).2
        · exact hlater br hbr
    · rw [Bool.not_eq_true] at hr
      obtain ⟨t, ref, hnone, hthere, hnot⟩ := createBearer_leftover localGTPU hr
      obtain ⟨hrun, hlater⟩ := createReports_kept localGTPU id defaultEBI hthere rounds
      refine ⟨t, ref, hnone, hrun, fun br hbr => ?_⟩
      rcases List.mem_cons.mp hbr with rfl | hbr
      · exact hnot
      · exact hlater br hbr

theorem createReports_installed {m : Gtpu.Manager} (h : RulesSet localGTPU id defaultEBI m rounds) :
    InstallsReported id defaultEBI m
        (Machine.run (createRound localGTPU id defaultEBI) m rounds)
        (createReports localGTPU id defaultEBI m rounds) ∧
      KeepsBearers id m (Machine.run (createRound localGTPU id defaultEBI) m rounds) := by
  induction rounds generalizing m with
  | nil => exact ⟨.nil, fun _ _ hb => hb, fun _ _ ht => ht⟩
  | cons r rounds ih =>
    obtain ⟨hrules, hrest⟩ := h
    obtain ⟨hreported, hkeeps⟩ := ih hrest
    cases hi : installable m r.1 id defaultEBI r.2 with
    | false =>
      obtain ⟨hm, hacc⟩ := createBearer_rejected localGTPU hi
      have hm' : createRound localGTPU id defaultEBI m r = m := hm
      simp only [Machine.run_cons, createReports, hm'] at hreported hkeeps ⊢
      exact ⟨hreported.rejected hacc, hkeeps⟩
    | true =>
      obtain ⟨hacc, hinst, hdefault, hfree⟩ :=
        createBearer_installs localGTPU hi hrules
      have hfirst := installs_keepsBearers hinst hfree
      refine ⟨.accepted hacc hinst hdefault hfree hkeeps hreported, ?_, ?_⟩
      · exact fun ebi b hb => hkeeps.bearer ebi b (hfirst.bearer ebi b hb)
      · exact fun t ref ht => hkeeps.tunnel t ref (hfirst.tunnel t ref ht)

theorem createReports_accepted {m : Gtpu.Manager} (v : Bool)
    (h : RulesSet localGTPU id defaultEBI m rounds) :
    (∀ br ∈ createReports localGTPU id defaultEBI m rounds, br.accepted = v) ↔
      EachInstallable localGTPU id defaultEBI v m rounds := by
  induction rounds generalizing m with
  | nil => exact ⟨fun _ => trivial, fun _ _ hbr => nomatch hbr⟩
  | cons r rounds ih =>
    have hhead : (createBearer m localGTPU r.1 id defaultEBI r.2).2.accepted =
        installable m r.1 id defaultEBI r.2 := by
      cases hi : installable m r.1 id defaultEBI r.2 with
      | false => exact (createBearer_rejected localGTPU hi).2
      | true => exact (createBearer_installs localGTPU hi h.1).1
    simp only [createReports, List.forall_mem_cons, hhead, ih h.2]
    exact Iff.rfl

end Rounds

def defaultEBIOf (sess : Session.Session) : UInt8 :=
  (sess.s2b.map Session.S2BContext.ebi).getD 0

structure CreatesReported (w : World) (localGTPU : Option IP)
    (draws : Nat → Nat → Gtpu.TeidDraw) (event : CreateBearerEvent) (sess : Session.Session) :
    Prop where
  installed : InstallsReported sess.id (defaultEBIOf sess) w.gtpu
    (handlePGWCreateBearer w localGTPU draws event).1.gtpu
    (handlePGWCreateBearer w localGTPU draws event).2.bearers
  others : Gtpu.Manager.OnlyAt sess.id w.gtpu
    (handlePGWCreateBearer w localGTPU draws event).1.gtpu
  cause : ∀ ebi teid remote,
    NewBearer w.gtpu (handlePGWCreateBearer w localGTPU draws event).1.gtpu sess.id ebi teid
      remote →
    (handlePGWCreateBearer w localGTPU draws event).2.cause ≠ causeContextNotFound

theorem handlePGWCreateBearer_rounds {w : World} (localGTPU : Option IP)
    (draws : Nat → Nat → Gtpu.TeidDraw) {event : CreateBearerEvent} {sess : Session.Session}
    (hsess : w.sessions.findByLocalControlTEID event.localControlTEID = some sess) :
    let out := handlePGWCreateBearer w localGTPU draws event
    let rounds := createRounds draws event.contexts
    let reports := createReports localGTPU sess.id (defaultEBIOf sess) w.gtpu rounds
    out.1.gtpu =
        Machine.run (createRound localGTPU sess.id (defaultEBIOf sess)) w.gtpu rounds ∧
      out.2.bearers = reports ∧
      out.2.cause = if reports.all CreateBearerBearerResult.accepted then causeRequestAccepted
        else causeContextNotFound := by
  simp only [handlePGWCreateBearer, hsess]
  exact createBearers_rounds localGTPU sess.id (defaultEBIOf sess) w.gtpu draws event.contexts _

theorem createRounds_onlyAt (localGTPU : Option IP) (id : Session.ID) (defaultEBI : UInt8)
    (m : Gtpu.Manager) (rounds : List CreateRound) :
    Gtpu.Manager.OnlyAt id m
      (Machine.run (createRound localGTPU id defaultEBI) m rounds) := by
  apply Machine.run_invariant (Gtpu.Manager.OnlyAt id m)
  · intro m1 r h
    exact h.trans (createBearer_onlyAt m1 id localGTPU r.1 defaultEBI r.2)
  · exact .refl m

theorem creates_reported_iff {w : World} (localGTPU : Option IP)
    (draws : Nat → Nat → Gtpu.TeidDraw) {event : CreateBearerEvent} {sess : Session.Session}
    (hsess : w.sessions.findByLocalControlTEID event.localControlTEID = some sess) :
    CreatesReported w localGTPU draws event sess ↔
      RulesSet localGTPU sess.id (defaultEBIOf sess) w.gtpu
          (createRounds draws event.contexts) ∧
        (EachInstallable localGTPU sess.id (defaultEBIOf sess) true w.gtpu
            (createRounds draws event.contexts) ∨
          EachInstallable localGTPU sess.id (defaultEBIOf sess) false w.gtpu
            (createRounds draws event.contexts)) := by
  obtain ⟨hm, hbearers, hcause⟩ := handlePGWCreateBearer_rounds localGTPU draws hsess
  constructor
  · rintro ⟨hinst, -, hnot64⟩
    rw [hm, hbearers] at hinst
    have hrules : RulesSet localGTPU sess.id (defaultEBIOf sess) w.gtpu
        (createRounds draws event.contexts) := by
      by_contra hfail
      obtain ⟨t, ref, hnone, hthere, hnamed⟩ :=
        createReports_leftover localGTPU sess.id (defaultEBIOf sess) hfail
      obtain ⟨br, hbr, hacc, hlocal, -⟩ :=
        (hinst.tunnels t ref).mp ⟨hthere, by rw [hnone]; exact fun h => nomatch h⟩
      exact hnamed br hbr ⟨hacc, hlocal⟩
    refine ⟨hrules, ?_⟩
    rw [← createReports_accepted _ _ _ _ hrules, ← createReports_accepted _ _ _ _ hrules]
    -- one accepted bearer is a new one, and then no bearer is rejected
    by_cases hnone : ∀ br ∈ createReports localGTPU sess.id (defaultEBIOf sess) w.gtpu
        (createRounds draws event.contexts), br.accepted = false
    · exact .inr hnone
    push Not at hnone
    obtain ⟨br, hbr, hacc⟩ := hnone
    rw [Bool.ne_false_iff] at hacc
    have hnew := (hinst.bearers br.ebi br.localUserTEID br.pgwUserTEID).mpr
      ⟨br, hbr, hacc, rfl, rfl, rfl⟩
    have hnot := hnot64 _ _ _ (hm ▸ hnew)
    rw [hcause] at hnot
    refine .inl (List.all_eq_true.mp ?_)
    by_contra hall
    exact hnot (if_neg hall)
  · rintro ⟨hrules, hall⟩
    rw [← createReports_accepted _ _ _ _ hrules, ← createReports_accepted _ _ _ _ hrules] at hall
    have hinst := (createReports_installed _ _ _ hrules).1
    refine ⟨hm ▸ hbearers ▸ hinst, hm ▸ createRounds_onlyAt _ _ _ _ _, ?_⟩
    intro ebi teid remote hnew
    rw [hm] at hnew
    obtain ⟨br, hbr, hacc, -⟩ := (hinst.bearers ebi teid remote).mp hnew
    rcases hall with hall | hnone
    · rw [hcause, if_pos (List.all_eq_true.mpr hall)]
      decide
    · rw [hnone br hbr] at hacc
      cases hacc

section Examples

def pairEvent : CreateBearerEvent where
  localControlTEID := 0x1001
  bearers := [{ ebi := 6, hasEBI := true, pgwUserTEID := 0x6002, qci := 5 },
    { unassignedEBI := true, pgwUserTEID := 0x6003, qci := 1 }]

theorem pair_created :
    CreatesReported servedWorld servedGTPU quietEnv.draws pairEvent servedSession := by
  have hrun : servedWorld.sessions.findByLocalControlTEID 0x1001 = some servedSession ∧
      Machine.checks (createRound servedGTPU servedSession.id (defaultEBIOf servedSession))
        (fun m r => rulesSet m r.1 servedSession.id (defaultEBIOf servedSession) r.2 &&
          installable m r.1 servedSession.id (defaultEBIOf servedSession) r.2)
        servedWorld.gtpu (createRounds quietEnv.draws pairEvent.contexts) = true := by
    decide +kernel
  refine (creates_reported_iff servedGTPU quietEnv.draws hrun.1).mpr ⟨?_, .inl ?_⟩
  · exact Machine.Guarded.of_checks (fun _ _ h => (Bool.and_eq_true _ _ ▸ h).1) hrun.2
  · exact Machine.Guarded.of_checks (fun _ _ h => (Bool.and_eq_true _ _ ▸ h).2) hrun.2

def collidingEvent : CreateBearerEvent where
  localControlTEID := 0x1001
  bearers := [{ ebi := 6, hasEBI := true, pgwUserTEID := 0x6002, qci := 5 },
    { ebi := 5, hasEBI := true, pgwUserTEID := 0x6003, qci := 1 }]

def singleEvent : CreateBearerEvent where
  localControlTEID := 0x1001
  bearers := [{ ebi := 6, hasEBI := true, pgwUserTEID := 0x6002, qci := 5 }]

def failingDraws : Nat → Nat → Gtpu.TeidDraw
  | 0, 0 => { quietEnv.draws 0 0 with fault := true }
  | 0, _ => quietEnv.draws 1 0
  | _, _ => { teid := none }

/-- A rejected bearer hides one that is installed, and a failure leaves a tunnel behind. -/
theorem created_unreported :
    ¬CreatesReported servedWorld servedGTPU quietEnv.draws collidingEvent servedSession ∧
      ¬CreatesReported servedWorld servedGTPU failingDraws singleEvent servedSession := by
  constructor
  · have hrun : ((handlePGWCreateBearer servedWorld servedGTPU quietEnv.draws
          collidingEvent).1.gtpu.bearerAt servedSession.id 6).isSome = true ∧
        servedWorld.gtpu.bearerAt servedSession.id 6 = none ∧
        (handlePGWCreateBearer servedWorld servedGTPU quietEnv.draws collidingEvent).2.cause =
          64 := by
      decide +kernel
    intro h
    obtain ⟨b, hb⟩ := Option.isSome_iff_exists.mp hrun.1
    refine h.cause 6 b.localRXTEID b.remoteTXTEID ⟨b, hb, ?_, rfl, rfl⟩ hrun.2.2
    exact fun h => nomatch h
  · intro h
    have hrun : (handlePGWCreateBearer servedWorld servedGTPU failingDraws
          singleEvent).1.gtpu.bearersByLocalTEID.lookup 0x2002 = some ⟨servedSession.id, 6⟩ ∧
        servedWorld.gtpu.bearersByLocalTEID.lookup 0x2002 ≠ some ⟨servedSession.id, 6⟩ ∧
        ∀ br ∈ (handlePGWCreateBearer servedWorld servedGTPU failingDraws
          singleEvent).2.bearers, br.localUserTEID = 0x2003 := by
      decide +kernel
    obtain ⟨br, hbr, -, hlocal, -⟩ := (h.installed.tunnels _ _).mp ⟨hrun.1, hrun.2.1⟩
    rw [hrun.2.2 br hbr] at hlocal
    exact absurd hlocal (by decide)

end Examples

end Epdg
