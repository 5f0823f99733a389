import Mathlib.Data.List.Sort
import Epdg.PgwDiscovery

/-!
Which record the discovery of the PGW settles on.
-/
namespace Epdg.PgwDiscovery

structure Best (R : Resolver) (service : Bytes → Bool) (records : List NaptrRecord)
    (r : NaptrRecord) : Prop where
  mem : r ∈ records
  kind : service r.service = true
  resolves : (resolveNAPTR R r).isSome = true
  least : ∀ r' ∈ records, service r'.service = true → (resolveNAPTR R r').isSome = true →
    r'.less r = false

def NoneResolves (R : Resolver) (service : Bytes → Bool) (records : List NaptrRecord) : Prop :=
  ∀ r ∈ records, service r.service = true → resolveNAPTR R r = none

inductive Outcome (R : Resolver) (cfg : Config) (records : List NaptrRecord) :
    Except DiscoveryError (IP × Method) → Prop
  | s2b (r : NaptrRecord) (ip : IP) (hbest : Best R isS2BService records r)
      (hip : resolveNAPTR R r = some ip) : Outcome R cfg records (.ok (ip, .dnsS2B))
  | s5s8 (hnone : NoneResolves R isS2BService records) (hallowed : cfg.allowS5S8Fallback = true)
      (r : NaptrRecord) (ip : IP) (hbest : Best R isS5S8Service records r)
      (hip : resolveNAPTR R r = some ip) : Outcome R cfg records (.ok (ip, .dnsS5S8))
  | failed (hnone : NoneResolves R isS2BService records)
      (hfallback : cfg.allowS5S8Fallback = true → NoneResolves R isS5S8Service records)
      (e : DiscoveryError) : Outcome R cfg records (.error e)

section Search
variable {R : Resolver} {service : Bytes → Bool} {sorted records : List NaptrRecord} {ip : IP}

theorem NaptrRecord.less_irrefl (r : NaptrRecord) : r.less r = false := by
  rw [NaptrRecord.less, if_neg (fun h => h rfl)]
  simp_all

theorem firstResolved_best (hperm : sorted.Perm records)
    (hsorted : sorted.Pairwise fun a b => b.less a = false)
    (h : firstResolved R service sorted = some ip) :
    ∃ r, Best R service records r ∧ resolveNAPTR R r = some ip := by
  obtain ⟨before, r, after, rfl, hr, hbefore⟩ := List.findSome?_eq_some_iff.mp h
  split at hr
  · rename_i hservice
    refine ⟨r, ⟨hperm.mem_iff.mp (by simp), hservice, by rw [hr]; rfl, ?_⟩, hr⟩
    intro r' hmem hservice' hresolves
    rcases List.mem_append.mp (hperm.mem_iff.mpr hmem) with hmem | hmem
    · -- what stands before the first one cannot be resolved
      simp_all
    · rcases List.mem_cons.mp hmem with rfl | hmem
      · exact r'.less_irrefl
      · exact List.rel_of_pairwise_cons (List.pairwise_append.mp hsorted).2.1 hmem
  · cases hr

theorem firstResolved_none (hperm : sorted.Perm records)
    (h : firstResolved R service sorted = none) : NoneResolves R service records := by
  intro r hmem hservice
  have hr := List.findSome?_eq_none_iff.mp h r (hperm.mem_iff.mpr hmem)
  simp_all

end Search

/-- Discovery settles on a best record, however the records of the same rank are sorted. -/
theorem discovery_selects_best (srt : Sorter) (R : Resolver) (cfg : Config) (fqdn : Bytes)
    (answer : List Rr) :
    Outcome R cfg (naptrRecords answer) (discoverViaDNS srt R cfg fqdn (some answer)) := by
  have hperm := srt.perm (naptrRecords answer)
  have hsorted := srt.sorted (naptrRecords answer)
  simp only [discoverViaDNS]
  split
  · rename_i ip hip
    obtain ⟨r, hbest, hr⟩ := firstResolved_best hperm hsorted hip
    exact .s2b r ip hbest hr
  rename_i hnone
  have hnone := firstResolved_none hperm hnone
  split
  · rename_i ip hip
    split at hip
    · rename_i hallowed
      obtain ⟨r, hbest, hr⟩ := firstResolved_best hperm hsorted hip
      exact .s5s8 hnone hallowed r ip hbest hr
    · cases hip
  · rename_i hfallback
    refine .failed hnone (fun hallowed => ?_) _
    rw [if_pos hallowed] at hfallback
    exact firstResolved_none hperm hfallback

section Runs

theorem NaptrRecord.less_total (a b : NaptrRecord) : b.less a = false ∨ a.less b = false := by
  simp only [NaptrRecord.less]
  grind

theorem NaptrRecord.less_trans {a b c : NaptrRecord} (hab : b.less a = false)
    (hbc : c.less b = false) : c.less a = false := by
  simp only [NaptrRecord.less] at hab hbc ⊢
  grind

def insertionSorter : Sorter where
  sort := List.insertionSort fun a b => b.less a = false
  perm := List.perm_insertionSort _
  sorted records := by
    have : Std.Total fun a b : NaptrRecord => b.less a = false := ⟨NaptrRecord.less_total⟩
    have : IsTrans NaptrRecord fun a b => b.less a = false :=
      ⟨fun _ _ _ => NaptrRecord.less_trans⟩
    exact List.pairwise_insertionSort _ _

def oneHost : Resolver where
  lookupHost name := if name = Bytes.ascii "pgw2" then some [Bytes.ascii "192.0.2.9"] else none
  lookupSRV _ := none
  parseIP s := if s = Bytes.ascii "192.0.2.9" then some (.v4 0xc0000209) else none

/-- The first S2b record cannot be resolved, and the second one comes before the S5 record. -/
example :
    discoverViaDNS insertionSorter oneHost ⟨true, true, [], [], []⟩ []
      (some [.naptr 20 10 (Bytes.ascii "A") (Bytes.ascii "x-3gpp-pgw:x-s5-gtp:x-s2b-gtp")
          (Bytes.ascii "pgw2."),
        .naptr 5 1 (Bytes.ascii "a") (Bytes.ascii "x-3gpp-pgw:x-s5-gtp") (Bytes.ascii "pgw2"),
        .naptr 10 1 (Bytes.ascii "a") (Bytes.ascii "x-3gpp-pgw:x-s2b-gtp") (Bytes.ascii "pgw1")])
      = .ok (.v4 0xc0000209, .dnsS2B) := by
  rfl

end Runs
end Epdg.PgwDiscovery
