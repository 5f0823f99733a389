import Epdg.Properties.UplinkSelection

/-!
The order in which the bearers of a session are visited.

The rules of the bearers come in that order, the first 32 are stored, and of two rules with one
precedence the first one wins. So the order is seen in the TEID of a packet unless one TEID prevails
in all of them.
-/
namespace Epdg.Gtpu

def bearerRules (ds : Session) (b : Bearer) : List Rule :=
  match b.tft with
  | none => []
  | some tft =>
    if b.ebi = ds.defaultEBI then []
    else (tft.filters.filter fun f => f.direction = 0x01 ∨ f.direction = 0x03).map
      (PacketFilter.rule b.remoteTXTEID)

theorem buildTCBPFTFTRules_eq (o : RangeOrder) (ds : Session) :
    buildTCBPFTFTRules o ds = (o.order ds.bearers.values).flatMap (bearerRules ds) := rfl

theorem bearerRules_teid {ds : Session} {b : Bearer} {r : Rule} (h : r ∈ bearerRules ds b) :
    r.teid = b.remoteTXTEID := by
  simp only [bearerRules] at h
  split at h
  · cases h
  split at h
  · cases h
  · obtain ⟨f, -, rfl⟩ := List.mem_map.mp h
    rfl

theorem filter_teid_flatMap (ds : Session) (q : UInt32 → Bool) (bs : List Bearer) :
    (bs.flatMap (bearerRules ds)).filter (fun r => q r.teid)
      = (bs.filter fun b => q b.remoteTXTEID).flatMap (bearerRules ds) := by
  induction bs with
  | nil => rfl
  | cons b bs ih =>
    rw [List.flatMap_cons, List.filter_append, ih]
    have hb : ∀ r ∈ bearerRules ds b, q r.teid = q b.remoteTXTEID := fun r hr => by
      rw [bearerRules_teid hr]
    cases hq : q b.remoteTXTEID with
    | true => simp_all
    | false => simp_all

def own (teid : UInt32) (rules : List Rule) : List Rule := rules.filter fun r => r.teid = teid

def others (teid : UInt32) (rules : List Rule) : List Rule :=
  rules.filter fun r => !decide (r.teid = teid)

def Prevails (ds : Session) (p : Flow) (teid : UInt32) : Prop :=
  ∀ o : RangeOrder,
    let rules := buildTCBPFTFTRules o ds
    ∃ r ∈ (own teid rules).take (maxTCBPFTFTRules - (others teid rules).length),
      tftRuleMatches r p = true ∧ r.rank < 255 ∧
        ∀ q ∈ others teid rules, tftRuleMatches q p = true → r.rank < q.rank

def Unopposed (ds : Session) (p : Flow) (default : UInt32) : Prop :=
  ∀ b ∈ ds.bearers.values, b.remoteTXTEID ≠ default →
    ∀ q ∈ (bearerRules ds b).take maxTCBPFTFTRules, tftRuleMatches q p = true → 255 ≤ q.rank

def Steady (ds : Session) (p : Flow) (default : UInt32) : Prop :=
  Unopposed ds p default ∨ ∃ teid, Prevails ds p teid

def chosen (ds : Session) (p : Flow) (default : UInt32) (o : RangeOrder) : UInt32 :=
  Least.pick (tftRuleMatches · p) Rule.rank 255 Rule.teid default
    ((buildTCBPFTFTRules o ds).take maxTCBPFTFTRules)

section Chosen
variable {ds : Session} {p : Flow} {default teid : UInt32}

theorem chosen_of_prevails (h : Prevails ds p teid) (o : RangeOrder) :
    chosen ds p default o = teid := by
  obtain ⟨r, hr, hmatch, hlt, hbetter⟩ := h o
  have hown : r.teid = teid :=
    of_decide_eq_true (List.mem_filter.mp (List.mem_of_mem_take hr)).2
  have hstored : r ∈ (buildTCBPFTFTRules o ds).take maxTCBPFTFTRules :=
    Least.filter_take_subset (fun r : Rule => decide (r.teid = teid)) _ _ hr
  rw [chosen, ← hown]
  refine Least.pick_of_better hstored hmatch hlt fun q hq hqmatch hne => hbetter q ?_ hqmatch
  refine List.mem_filter.mpr ⟨List.mem_of_mem_take hq, ?_⟩
  simp_all

theorem chosen_of_unopposed (h : Unopposed ds p default) (o : RangeOrder) :
    chosen ds p default o = default := by
  refine Least.pick_of_worse fun q hq hmatch hne => ?_
  obtain ⟨b, hb, hqb⟩ := Least.mem_take_flatMap hq
  refine h b ((o.perm _).mem_iff.mp hb) ?_ q hqb hmatch
  rw [← bearerRules_teid (List.mem_of_mem_take hqb)]
  exact hne

def RangeOrder.last (o : RangeOrder) (teid : UInt32) (b : Bearer) : RangeOrder where
  order bs :=
    let rest := (o.order bs).filter fun c => !decide (c.remoteTXTEID = teid)
    rest.filter (fun c => decide (c = b)) ++ rest.filter (fun c => !decide (c = b)) ++
      (o.order bs).filter fun c => decide (c.remoteTXTEID = teid)
  perm bs := by
    refine ((List.filter_append_perm _ _).append_right _).trans ?_
    refine List.perm_append_comm.trans ?_
    exact (List.filter_append_perm _ _).trans (o.perm bs)

theorem buildTCBPFTFTRules_last (ds : Session) (o : RangeOrder) (teid : UInt32) (b : Bearer) :
    ∃ os, buildTCBPFTFTRules (o.last teid b) ds = os ++ own teid (buildTCBPFTFTRules o ds) ∧
      os.Perm (others teid (buildTCBPFTFTRules o ds)) ∧
      (b ∈ ds.bearers.values → b.remoteTXTEID ≠ teid →
        ∀ n, (bearerRules ds b).take n ⊆ os.take n) := by
  let rest := (o.order ds.bearers.values).filter fun c => !decide (c.remoteTXTEID = teid)
  let front := rest.filter (fun c => decide (c = b)) ++ rest.filter fun c => !decide (c = b)
  have hown : own teid (buildTCBPFTFTRules o ds) = ((o.order ds.bearers.values).filter fun c =>
      decide (c.remoteTXTEID = teid)).flatMap (bearerRules ds) :=
    filter_teid_flatMap ds (fun t => decide (t = teid)) _
  have hothers : others teid (buildTCBPFTFTRules o ds) = rest.flatMap (bearerRules ds) :=
    filter_teid_flatMap ds (fun t => !decide (t = teid)) _
  refine ⟨front.flatMap (bearerRules ds), ?_, ?_, fun hb hne n => ?_⟩
  · rw [hown, ← List.flatMap_append]
    rfl
  · rw [hothers]
    exact (List.filter_append_perm _ rest).flatMap_right _
  · have hrest : b ∈ rest := by
      refine List.mem_filter.mpr ⟨(o.perm _).mem_iff.mpr hb, ?_⟩
      simp_all
    obtain ⟨first, hfirst⟩ : ∃ tl, rest.filter (fun c => decide (c = b)) = b :: tl := by
      have hmem : b ∈ rest.filter fun c => decide (c = b) :=
        List.mem_filter.mpr ⟨hrest, decide_eq_true rfl⟩
      cases hlist : rest.filter fun c => decide (c = b) with
      | nil => simp_all
      | cons c tl =>
        have hc : c ∈ rest.filter fun c => decide (c = b) := by simp_all
        grind
    simp only [front, hfirst, List.cons_append, List.flatMap_cons]
    rw [List.take_append]
    simp_all

theorem steady_of_chosen (h : ∀ o, chosen ds p default o = teid) : Steady ds p default := by
  by_cases hun : Unopposed ds p default
  · exact .inl hun
  refine .inr ⟨teid, fun o => ?_⟩
  simp only [Unopposed, not_forall] at hun
  obtain ⟨b, hb, hne, q, hq, hmatch, hlt⟩ := hun
  obtain ⟨os, hbuild, hperm, hfirst⟩ := buildTCBPFTFTRules_last ds o teid b
  have hpick := h (o.last teid b)
  rw [chosen, hbuild, List.take_append] at hpick
  have hos : ∀ r ∈ os.take maxTCBPFTFTRules, r.teid ≠ teid := fun r hr => by
    have hr' := (List.mem_filter.mp (hperm.mem_iff.mp (List.mem_of_mem_take hr))).2
    simpa using hr'
  rcases Least.pick_append hos hpick with ⟨r, hr, hrmatch, hrlt, hbetter⟩ | ⟨heq, hworse⟩
  · rw [hperm.length_eq] at hr
    refine ⟨r, hr, hrmatch, hrlt, fun q hq hqmatch => hbetter q ?_ hqmatch⟩
    -- A rule of the TEID is stored, so all the others are.
    have hroom : (others teid (buildTCBPFTFTRules o ds)).length ≤ maxTCBPFTFTRules := by
      by_contra hfull
      rw [Nat.sub_eq_zero_of_le (Nat.le_of_not_le hfull)] at hr
      cases hr
    rw [List.take_of_length_le (hperm.length_eq ▸ hroom)]
    grind
  · grind

theorem chosen_eq_iff_steady :
    (∀ o o', chosen ds p default o = chosen ds p default o') ↔ Steady ds p default := by
  constructor
  · intro h
    exact steady_of_chosen fun o => h o ⟨id, fun _ => .refl _⟩
  · rintro (hun | ⟨teid, hprevails⟩) o o'
    · rw [chosen_of_unopposed hun, chosen_of_unopposed hun]
    · rw [chosen_of_prevails hprevails, chosen_of_prevails hprevails]

end Chosen
theorem selectLoop_congr {m m' : Table TftRuleKey Rule} {addr : UInt32} {p : Flow}
    (h : ∀ i, m'.lookup ⟨addr, i⟩ = m.lookup ⟨addr, i⟩) (count n i : Nat) (s : Selection) :
    selectLoop m' addr count p n i s = selectLoop m addr count p n i s := by
  induction n generalizing i s with
  | zero => rfl
  | succ n ih => rw [selectLoop, selectLoop, h, ih]

theorem tcGtpuEncapFunc_congr {k k' : KernelMaps} {skb : Skb}
    (h : ∀ addr, skb.PlainFrom addr → k.SameFor k' addr) (room : Bool) :
    tcGtpuEncapFunc k' room skb = tcGtpuEncapFunc k room skb := by
  have hsession : uplinkSession k' skb = uplinkSession k skb := by
    refine Option.ext fun entry => ?_
    rw [uplinkSession_eq_some_iff, uplinkSession_eq_some_iff]
    refine and_congr_right fun hskb => ?_
    rw [(h _ hskb).session]
  rw [tcGtpuEncapFunc, tcGtpuEncapFunc, hsession]
  cases hentry : uplinkSession k skb with
  | none => rfl
  | some entry =>
    have hskb := (uplinkSession_eq_some_iff.mp hentry).1
    simp only [selectTEID, selectLoop_congr (h _ hskb).rule]

section Synced
variable {k k' : KernelMaps} {ds : Session} {o : RangeOrder} {a : UInt32} {skb : Skb}

theorem syncTFTRules_teid {sess : UeSessionEntry} (hpaa : ds.paa = .v4 a)
    (hsess : k.ueSessionMap.lookup a = some sess) (h : k.syncTFTRules o ds = some k')
    (hskb : skb.PlainFrom a) :
    (tcGtpuEncapFunc k' true skb).teid = some (chosen ds skb.flow sess.ulTeid o) := by
  rw [KernelMaps.syncTFTRules, hpaa] at h
  obtain ⟨entry, hentry, hstores⟩ := KernelMaps.setTFTRules_stores h
  cases hsess.symm.trans hentry
  rw [tcGtpuEncapFunc_teid hstores hskb]
  rfl

theorem syncTFTRules_others (hpaa : ds.paa = .v4 a) (h : k.syncTFTRules o ds = some k')
    (hskb : ¬skb.PlainFrom a) : tcGtpuEncapFunc k' true skb = tcGtpuEncapFunc k true skb := by
  rw [KernelMaps.syncTFTRules, hpaa] at h
  refine tcGtpuEncapFunc_congr (fun addr haddr => KernelMaps.setTFTRules_sameFor h ?_) true
  grind

end Synced

theorem order_unseen_iff (k : KernelMaps) (ds : Session) (skb : Skb) :
    (∀ o o' k₁ k₂, k.syncTFTRules o ds = some k₁ → k.syncTFTRules o' ds = some k₂ →
        (tcGtpuEncapFunc k₁ true skb).teid = (tcGtpuEncapFunc k₂ true skb).teid) ↔
      ∀ a sess, ds.paa = .v4 a → k.ueSessionMap.lookup a = some sess → skb.PlainFrom a →
        Steady ds skb.flow sess.ulTeid := by
  constructor
  · intro h a sess hpaa hsess hskb
    rw [← chosen_eq_iff_steady]
    intro o o'
    have hsome : (k.ueSessionMap.lookup a).isSome := by rw [hsess]; rfl
    obtain ⟨k₁, hk₁⟩ :=
      Option.isSome_iff_exists.mp (KernelMaps.syncTFTRules_isSome o hpaa hsome)
    obtain ⟨k₂, hk₂⟩ :=
      Option.isSome_iff_exists.mp (KernelMaps.syncTFTRules_isSome o' hpaa hsome)
    have heq := h o o' k₁ k₂ hk₁ hk₂
    rw [syncTFTRules_teid hpaa hsess hk₁ hskb, syncTFTRules_teid hpaa hsess hk₂ hskb] at heq
    exact Option.some.inj heq
  · intro h o o' k₁ k₂ hk₁ hk₂
    cases hpaa : ds.paa with
    | v6 hi lo =>
      rw [KernelMaps.syncTFTRules, hpaa] at hk₁
      cases hk₁
    | v4 a =>
      by_cases hskb : skb.PlainFrom a
      · cases hsess : k.ueSessionMap.lookup a with
        | none =>
          rw [KernelMaps.syncTFTRules, hpaa] at hk₁
          obtain ⟨entry, hentry, -⟩ := KernelMaps.setTFTRules_stores hk₁
          cases hsess.symm.trans hentry
        | some sess =>
          rw [syncTFTRules_teid hpaa hsess hk₁ hskb, syncTFTRules_teid hpaa hsess hk₂ hskb]
          exact congrArg some (chosen_eq_iff_steady.mpr (h a sess hpaa hsess hskb) o o')
      · rw [syncTFTRules_others hpaa hk₁ hskb, syncTFTRules_others hpaa hk₂ hskb]

section Bearers

def udpBearer (ebi : UInt8) (teid : UInt32) : Bearer where
  ebi := ebi
  localRXTEID := teid
  remoteTXTEID := teid
  pgwGTPUIP := .v4 0xc0000202
  localGTPUIP := .v4 0xc0000201
  tft := some { filters := [{ id := 1, precedence := 10, direction := 1, hasProtocol := true
                              protocol := ipprotoUDP }] }

def tiedSession : Session where
  id := ⟨1, 0⟩
  paa := .v4 0x0a000001
  localGTPUIP := .v4 0xc0000201
  pgwGTPUIP := .v4 0xc0000202
  defaultEBI := 5
  bearers := ((∅ : Table UInt8 Bearer).insert 7 (udpBearer 7 0x6003)).insert 6 (udpBearer 6 0x6002)
  pgwControlTEID := 0x5001
  localControlTEID := 0x1001

theorem tied_by_order :
    ∃ k₁ k₂, ueMaps.syncTFTRules ⟨id, fun _ => .refl _⟩ tiedSession = some k₁ ∧
      ueMaps.syncTFTRules ⟨List.reverse, List.reverse_perm⟩ tiedSession = some k₂ ∧
      (tcGtpuEncapFunc k₁ true udpPacket).teid = some 0x6002 ∧
      (tcGtpuEncapFunc k₂ true udpPacket).teid = some 0x6003 := by
  have hsess : ueMaps.ueSessionMap.lookup 0x0a000001 = some ueEntry := by decide
  have hsome : (ueMaps.ueSessionMap.lookup 0x0a000001).isSome := by rw [hsess]; rfl
  have hpaa : tiedSession.paa = .v4 0x0a000001 := rfl
  obtain ⟨k₁, hk₁⟩ := Option.isSome_iff_exists.mp
    (KernelMaps.syncTFTRules_isSome ⟨id, fun _ => .refl _⟩ hpaa hsome)
  obtain ⟨k₂, hk₂⟩ := Option.isSome_iff_exists.mp
    (KernelMaps.syncTFTRules_isSome ⟨List.reverse, List.reverse_perm⟩ hpaa hsome)
  refine ⟨k₁, k₂, hk₁, hk₂, ?_, ?_⟩
  · rw [syncTFTRules_teid hpaa hsess hk₁ udpPacket_plain]
    decide
  · rw [syncTFTRules_teid hpaa hsess hk₂ udpPacket_plain]
    decide

end Bearers
end Epdg.Gtpu
