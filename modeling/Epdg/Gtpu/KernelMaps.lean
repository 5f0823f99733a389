import Epdg.Gtpu.Bearers

/-!
The BPF maps of the data plane and how they are written: `internal/gtpu/bpf_loader.go` and
`internal/gtpu/tc_loader.go`, and the TFT rules of `internal/gtpu/dataplane.go`.

The operations on the maps themselves succeed here, so what is left are the checks of the loaders.
The packet counters are not modelled.
-/
namespace Epdg

def IP.addr4 : IP → Option UInt32
  | .v4 a => some a
  | .v6 _ _ => none

namespace Gtpu

structure Rule where
  teid : UInt32
  precedence : UInt8
  flags : UInt8
  protocol : UInt8
  remoteIP : UInt32 := 0
  remoteMask : UInt32 := 0
  localPortLo : UInt16
  localPortHi : UInt16
  remotePortLo : UInt16
  remotePortHi : UInt16
  deriving DecidableEq, Repr

def tcTFTFlagRemoteIP : UInt8 := 0x01
def tcTFTFlagProtocol : UInt8 := 0x02
def tcTFTFlagLocalPort : UInt8 := 0x04
def tcTFTFlagRemotePort : UInt8 := 0x08

def maxTCBPFTFTRules : Nat := 32

def PacketFilter.remote (f : PacketFilter) : Option (UInt32 × UInt32) := do
  let ip ← f.remoteIPv4
  let addr ← ip.addr4
  let mask ← f.remoteIPv4Mask
  some (addr, mask)

def PacketFilter.rule (teid : UInt32) (f : PacketFilter) : Rule :=
  { teid
    precedence := f.precedence
    flags := (if f.remote.isSome then tcTFTFlagRemoteIP else 0) |||
      (if f.hasProtocol then tcTFTFlagProtocol else 0) |||
      (if f.hasLocalPort then tcTFTFlagLocalPort else 0) |||
      (if f.hasRemotePort then tcTFTFlagRemotePort else 0)
    protocol := f.protocol
    remoteIP := (f.remote.map Prod.fst).getD 0
    remoteMask := (f.remote.map Prod.snd).getD 0
    localPortLo := f.localPortLo
    localPortHi := f.localPortHi
    remotePortLo := f.remotePortLo
    remotePortHi := f.remotePortHi }

structure RangeOrder where
  order : List Bearer → List Bearer
  perm : ∀ bearers, (order bearers).Perm bearers

def buildTCBPFTFTRules (o : RangeOrder) (ds : Session) : List Rule :=
  (o.order ds.bearers.values).flatMap fun b =>
    match b.tft with
    | none => []
    | some tft =>
      if b.ebi = ds.defaultEBI then []
      else (tft.filters.filter fun f => f.direction = 0x01 ∨ f.direction = 0x03).map
        (PacketFilter.rule b.remoteTXTEID)

structure TeidEntry where
  paa : UInt32
  pgwAddr : UInt32
  deriving DecidableEq, Repr

structure UeSessionEntry where
  ulTeid : UInt32
  pgwIP : UInt32
  localIP : UInt32
  s2bIfindex : UInt32
  ruleCount : Nat
  deriving DecidableEq, Repr

structure TftRuleKey where
  addr : UInt32
  index : Nat
  deriving DecidableEq, Repr

structure KernelMaps where
  teidMap : Table UInt32 TeidEntry := ∅
  ueSessionMap : Table UInt32 UeSessionEntry := ∅
  tftRuleMap : Table TftRuleKey Rule := ∅

namespace KernelMaps
variable {a addr : UInt32} {k k' : KernelMaps} {rules : List Rule} {i : Nat}

def addTEID (k : KernelMaps) (teid : UInt32) (paa pgwAddr : IP) : Option KernelMaps := do
  let paa ← paa.addr4
  let pgwAddr ← pgwAddr.addr4
  some { k with teidMap := k.teidMap.insert teid { paa, pgwAddr } }

def removeTEID (k : KernelMaps) (teid : UInt32) : KernelMaps :=
  { k with teidMap := k.teidMap.erase teid }

def addUESession (k : KernelMaps) (paa : IP) (ulTeid : UInt32) (pgwIP localIP : IP)
    (s2bIfindex : UInt32) : Option KernelMaps := do
  let paa ← paa.addr4
  let pgwIP ← pgwIP.addr4
  let localIP ← localIP.addr4
  some { k with
    ueSessionMap := k.ueSessionMap.insert paa
      { ulTeid, pgwIP, localIP, s2bIfindex, ruleCount := 0 } }

def clearTFTRules (k : KernelMaps) (paa : UInt32) : KernelMaps :=
  { k with
    tftRuleMap := (List.range maxTCBPFTFTRules).foldl (fun m i => m.erase ⟨paa, i⟩)
      k.tftRuleMap }

def putRules (paa : UInt32) : Nat → Table TftRuleKey Rule → List Rule → Table TftRuleKey Rule
  | _, m, [] => m
  | i, m, rule :: rules => putRules paa (i + 1) (m.insert ⟨paa, i⟩ rule) rules

def setTFTRules (k : KernelMaps) (paa : IP) (rules : List Rule) : Option KernelMaps := do
  let paa ← paa.addr4
  if rules.length > maxTCBPFTFTRules then none
  let entry ← k.ueSessionMap.lookup paa
  let k := { k with ueSessionMap := k.ueSessionMap.insert paa { entry with ruleCount := 0 } }
  let k := k.clearTFTRules paa
  let k := { k with tftRuleMap := putRules paa 0 k.tftRuleMap rules }
  some { k with
    ueSessionMap := k.ueSessionMap.insert paa { entry with ruleCount := rules.length } }

def removeUESession (k : KernelMaps) (paa : IP) : KernelMaps :=
  match paa.addr4 with
  | none => k
  | some paa =>
    let k := k.clearTFTRules paa
    { k with ueSessionMap := k.ueSessionMap.erase paa }

def syncTFTRules (k : KernelMaps) (o : RangeOrder) (ds : Session) : Option KernelMaps :=
  k.setTFTRules ds.paa ((buildTCBPFTFTRules o ds).take maxTCBPFTFTRules)

def teidAt (k : KernelMaps) (teid : UInt32) : Option TeidEntry := k.teidMap.lookup teid

def tunnelAt (k : KernelMaps) (paa : UInt32) : Option (UInt32 × UInt32) :=
  (k.ueSessionMap.lookup paa).map fun e => (e.ulTeid, e.pgwIP)

structure KeepsTunnels (k k' : KernelMaps) : Prop where
  teid : ∀ t, k'.teidAt t = k.teidAt t
  tunnel : ∀ p, k'.tunnelAt p = k.tunnelAt p

theorem setTFTRules_keepsTunnels {paa : IP} (h : k.setTFTRules paa rules = some k')
    : KeepsTunnels k k' := by
  simp only [setTFTRules, Option.bind_eq_bind, Option.bind_eq_some_iff] at h
  obtain ⟨a, -, h⟩ := h
  split at h
  · cases h
  obtain ⟨entry, hentry, h⟩ := Option.bind_eq_some_iff.mp h
  cases h
  refine ⟨fun _ => rfl, fun p => ?_⟩
  simp only [tunnelAt, clearTFTRules, Table.lookup_insert_ite]
  grind

theorem setTFTRules_isSome (hlen : rules.length ≤ maxTCBPFTFTRules)
    (h : (k.ueSessionMap.lookup a).isSome) : (k.setTFTRules (.v4 a) rules).isSome := by
  obtain ⟨entry, hentry⟩ := Option.isSome_iff_exists.mp h
  simp [setTFTRules, IP.addr4, Nat.not_lt.mpr hlen, hentry]

structure Stores (k : KernelMaps) (addr : UInt32) (entry : UeSessionEntry) (rules : List Rule) :
    Prop where
  session : k.ueSessionMap.lookup addr = some entry
  count : entry.ruleCount = rules.length
  bounded : rules.length ≤ maxTCBPFTFTRules
  rule : ∀ i, i < rules.length → k.tftRuleMap.lookup ⟨addr, i⟩ = rules[i]?

theorem putRules_lookup_lt (a : UInt32) (rules : List Rule) (m : Table TftRuleKey Rule) {j : Nat}
    (hi : i < j) : (putRules a j m rules).lookup ⟨a, i⟩ = m.lookup ⟨a, i⟩ := by
  induction rules generalizing j m with
  | nil => rfl
  | cons r rules ih =>
    rw [putRules, ih _ (Nat.lt_succ_of_lt hi), Table.lookup_insert_ite, if_neg]
    grind

theorem putRules_lookup (a : UInt32) (rules : List Rule) (m : Table TftRuleKey Rule) (j : Nat)
    (hi : i < rules.length) : (putRules a j m rules).lookup ⟨a, j + i⟩ = rules[i]? := by
  induction rules generalizing i j m with
  | nil => exact absurd hi (Nat.not_lt_zero i)
  | cons r rules ih =>
    rw [putRules]
    cases i with
    | zero =>
      rw [Nat.add_zero, putRules_lookup_lt _ _ _ (Nat.lt_succ_self j),
        Table.lookup_insert_ite, if_pos rfl]
      rfl
    | succ i =>
      rw [Nat.add_succ, ← Nat.succ_add]
      simp_all

theorem setTFTRules_stores (h : k.setTFTRules (.v4 a) rules = some k') :
    ∃ entry, k.ueSessionMap.lookup a = some entry ∧
      Stores k' a { entry with ruleCount := rules.length } rules := by
  simp only [setTFTRules, IP.addr4, Option.bind_eq_bind, Option.bind_some] at h
  split at h
  · cases h
  rename_i hlen
  obtain ⟨entry, hentry, h⟩ := Option.bind_eq_some_iff.mp h
  cases h
  refine ⟨entry, hentry, ?_, rfl, Nat.le_of_not_lt hlen, fun i hi => ?_⟩
  · simp_all
  · have hput := putRules_lookup a rules (k.clearTFTRules a).tftRuleMap 0 hi
    rw [Nat.zero_add] at hput
    exact hput

theorem clearTFTRules_lookup_ne (k : KernelMaps) (h : addr ≠ a) (i : Nat) :
    (k.clearTFTRules a).tftRuleMap.lookup ⟨addr, i⟩ = k.tftRuleMap.lookup ⟨addr, i⟩ := by
  simp only [clearTFTRules]
  generalize k.tftRuleMap = m
  induction List.range maxTCBPFTFTRules generalizing m with
  | nil => rfl
  | cons j js ih => simp_all

theorem putRules_lookup_ne (h : addr ≠ a) (rules : List Rule) (m : Table TftRuleKey Rule)
    (i j : Nat) : (putRules a j m rules).lookup ⟨addr, i⟩ = m.lookup ⟨addr, i⟩ := by
  induction rules generalizing j m with
  | nil => rfl
  | cons r rules ih =>
    rw [putRules, ih, Table.lookup_insert_ite, if_neg]
    simp_all

structure SameFor (k k' : KernelMaps) (addr : UInt32) : Prop where
  session : k'.ueSessionMap.lookup addr = k.ueSessionMap.lookup addr
  rule : ∀ i, k'.tftRuleMap.lookup ⟨addr, i⟩ = k.tftRuleMap.lookup ⟨addr, i⟩

theorem setTFTRules_sameFor (h : k.setTFTRules (.v4 a) rules = some k') (hne : addr ≠ a)
    : SameFor k k' addr := by
  simp only [setTFTRules, IP.addr4, Option.bind_eq_bind, Option.bind_some] at h
  split at h
  · cases h
  obtain ⟨entry, -, h⟩ := Option.bind_eq_some_iff.mp h
  cases h
  refine ⟨?_, fun i => ?_⟩
  · rw [Table.lookup_insert_ite, if_neg hne]
    exact (Table.lookup_insert_ite _ _ _ _).trans (if_neg hne)
  · rw [putRules_lookup_ne hne]
    exact clearTFTRules_lookup_ne _ hne i

theorem syncTFTRules_isSome {ds : Session} (o : RangeOrder) (hpaa : ds.paa = .v4 a)
    (h : (k.ueSessionMap.lookup a).isSome) : (k.syncTFTRules o ds).isSome := by
  rw [syncTFTRules, hpaa]
  exact setTFTRules_isSome (List.length_take_le _ _) h

end KernelMaps
end Gtpu
end Epdg
