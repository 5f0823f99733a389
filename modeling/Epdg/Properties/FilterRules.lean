import Epdg.Gtpu.Components
import Epdg.Properties.UplinkSelection

/-!
The rule of a packet filter against the components that the filter carries.

A rule has one remote address, one protocol, one range of local and one of remote ports: those of
the last component of each kind. The local address, the security parameter index and the type of
service do not reach the rule.
-/
namespace Epdg.Gtpu
variable {f : PacketFilter} {raw : Bytes} {i : Nat} {tft : TFT}

structure RawFilter where
  header : UInt8
  precedence : UInt8
  contents : Bytes
  deriving DecidableEq, Repr

def RawFilter.blank (r : RawFilter) : PacketFilter :=
  { id := r.header &&& 0x0f, precedence := r.precedence, direction := (r.header >>> 4) &&& 0x03 }

def splitFilters : Nat → Bytes → List RawFilter
  | n + 1, header :: precedence :: contentLen :: raw =>
    { header, precedence, contents := raw.take contentLen.toNat } ::
      splitFilters n (raw.drop contentLen.toNat)
  | _, _ => []

def splitTFT : Bytes → List RawFilter
  | [] => []
  | b :: raw => splitFilters (b &&& 0x0f).toNat raw

theorem parseFilters_getElem {n : Nat} {filters : List PacketFilter}
    (h : parseFilters n raw = some filters) (hf : filters[i]? = some f) :
    ∃ r, (splitFilters n raw)[i]? = some r ∧
      parsePacketFilterContents r.blank r.contents = some f := by
  induction n generalizing raw filters i with
  | zero =>
    cases raw <;> cases h <;> cases hf
  | succ n ih =>
    match raw, h with
    | header :: precedence :: contentLen :: raw, h =>
      simp only [parseFilters] at h
      split at h
      · cases h
      obtain ⟨pf, hpf, h⟩ := Option.bind_eq_some_iff.mp h
      obtain ⟨rest, hrest, h⟩ := Option.bind_eq_some_iff.mp h
      cases h
      cases i with
      | zero =>
        cases hf
        exact ⟨_, rfl, hpf⟩
      | succ i => exact ih hrest hf

theorem parseTFT_getElem (h : parseTFT raw = some (some tft)) (hf : tft.filters[i]? = some f) :
    ∃ r, (splitTFT raw)[i]? = some r ∧
      parsePacketFilterContents r.blank r.contents = some f := by
  cases raw with
  | nil => cases h
  | cons b raw =>
    simp only [parseTFT] at h
    split at h
    all_goals first
      | (obtain ⟨filters, hfilters, h⟩ := Option.map_eq_some_iff.mp h
         cases h
         exact parseFilters_getElem hfilters hf)
      | (cases h; cases hf)
      | cases h

namespace Component

def Kind.ruled : Kind → Bool
  | .remoteAddr | .protocol | .localPort | .remotePort => true
  | .localAddr | .spi | .tos | .flowLabel => false

def lastOf (k : Kind) (cs : List Component) : Option Component :=
  (cs.filter fun c => c.kind = k).getLast?

theorem lastOf_concat (k : Kind) (cs : List Component) (c : Component) :
    lastOf k (cs ++ [c]) = if c.kind = k then some c else lastOf k cs := by
  by_cases hk : c.kind = k <;> simp [lastOf, hk]

theorem lastOf_mem {k : Kind} {cs : List Component} {c : Component} (h : lastOf k cs = some c) :
    c ∈ cs := (List.mem_filter.mp (List.mem_of_getLast? h)).1

end Component

def PacketFilter.asks (f : PacketFilter) (p : Flow) : Component.Kind → Prop
  | .remoteAddr => ∀ r, f.remote = some r → ipv4MaskMatch p.daddr r.1 r.2 = true
  | .protocol => f.hasProtocol = true → p.protocol = f.protocol
  | .localPort => f.hasLocalPort = true → (p.ports.any fun (src, _) =>
    f.localPortLo.toNat ≤ src && src ≤ f.localPortHi.toNat) = true
  | .remotePort => f.hasRemotePort = true → (p.ports.any fun (_, dst) =>
    f.remotePortLo.toNat ≤ dst && dst ≤ f.remotePortHi.toNat) = true
  | .localAddr | .spi | .tos | .flowLabel => True

private theorem flags_has (a b c d : Bool) :
    let flags : UInt8 := (if a then tcTFTFlagRemoteIP else 0) |||
      (if b then tcTFTFlagProtocol else 0) ||| (if c then tcTFTFlagLocalPort else 0) |||
      (if d then tcTFTFlagRemotePort else 0)
    decide (flags &&& tcTFTFlagRemoteIP ≠ 0) = a ∧ decide (flags &&& tcTFTFlagProtocol ≠ 0) = b ∧
      decide (flags &&& tcTFTFlagLocalPort ≠ 0) = c ∧
      decide (flags &&& tcTFTFlagRemotePort ≠ 0) = d := by
  revert a b c d
  decide

theorem PacketFilter.rule_has (f : PacketFilter) (teid : UInt32) :
    (f.rule teid).has tcTFTFlagRemoteIP = f.remote.isSome ∧
      (f.rule teid).has tcTFTFlagProtocol = f.hasProtocol ∧
      (f.rule teid).has tcTFTFlagLocalPort = f.hasLocalPort ∧
      (f.rule teid).has tcTFTFlagRemotePort = f.hasRemotePort :=
  flags_has f.remote.isSome f.hasProtocol f.hasLocalPort f.hasRemotePort

theorem tftRuleMatches_rule_iff (f : PacketFilter) (teid : UInt32) (p : Flow) :
    tftRuleMatches (f.rule teid) p = true ↔ ∀ k, f.asks p k := by
  obtain ⟨hremote, hprotocol, hlocal, hport⟩ := f.rule_has teid
  have haddr : (f.remote.isSome = true → ipv4MaskMatch p.daddr (f.rule teid).remoteIP
      (f.rule teid).remoteMask = true) ↔ f.asks p .remoteAddr := by
    cases hr : f.remote <;> simp [PacketFilter.asks, PacketFilter.rule, hr]
  have hrule : tftRuleMatches (f.rule teid) p = true ↔
      f.asks p .remoteAddr ∧ f.asks p .protocol ∧ f.asks p .localPort ∧ f.asks p .remotePort := by
    rw [← haddr]
    simp only [tftRuleMatches, hremote, hprotocol, hlocal, hport, Bool.and_eq_true,
      Bool.or_eq_true, Bool.not_eq_true', ← Bool.not_eq_true, ← imp_iff_not_or, and_assoc,
      decide_eq_true_eq]
    rfl
  rw [hrule]
  constructor
  · rintro ⟨ha, hp, hl, hr⟩ k
    cases k <;> first | assumption | trivial
  · simp_all

theorem ipv4MaskMatch_iff (a b mask : UInt32) :
    ipv4MaskMatch a b mask = true ↔ a &&& mask = b &&& mask := by
  have hdistrib : (a ^^^ b) &&& mask = (a &&& mask) ^^^ (b &&& mask) := by
    apply UInt32.eq_of_toBitVec_eq
    ext i
    simp only [UInt32.toBitVec_and, UInt32.toBitVec_xor, BitVec.getElem_and, BitVec.getElem_xor,
      Bool.and_xor_distrib_right]
  rw [ipv4MaskMatch, decide_eq_true_eq, hdistrib, UInt32.xor_eq_zero_iff]

namespace Component

theorem asks_apply (c : Component) (f : PacketFilter) (skb : Skb) (k : Kind) :
    (c.apply f).asks skb.flow k ↔
      if c.kind = k then k.ruled = true → c.accepts skb = true else f.asks skb.flow k := by
  cases c with
  | remoteAddr addr mask =>
    cases k with
    | remoteAddr =>
      simp [PacketFilter.asks, apply, kind, Kind.ruled, accepts, PacketFilter.remote, IP.addr4,
        ipv4MaskMatch_iff, Skb.flow]
    | _ => rfl
  | localAddr addr mask =>
    cases k with
    | localAddr => simp [PacketFilter.asks, kind, Kind.ruled]
    | _ => rfl
  | protocol p =>
    cases k with
    | protocol => simp [PacketFilter.asks, apply, kind, Kind.ruled, accepts, Skb.flow]
    | _ => rfl
  | localPort lo hi => cases k <;> rfl
  | remotePort lo hi => cases k <;> rfl
  | spi value =>
    cases k with
    | spi => simp [PacketFilter.asks, kind, Kind.ruled]
    | _ => rfl
  | tos value =>
    cases k with
    | tos => simp [PacketFilter.asks, kind, Kind.ruled]
    | _ => rfl
  | flowLabel value =>
    cases k with
    | flowLabel => simp [PacketFilter.asks, kind, Kind.ruled]
    | _ => rfl

def Decisive (cs : List Component) (c : Component) : Prop :=
  c.kind.ruled = true ∧ lastOf c.kind cs = some c

theorem asks_foldl (r : RawFilter) (cs : List Component) (skb : Skb) (k : Kind) :
    (cs.foldl apply r.blank).asks skb.flow k ↔
      ∀ c, lastOf k cs = some c → k.ruled = true → c.accepts skb = true := by
  induction cs using List.reverseRecOn with
  | nil => cases k <;> simp [PacketFilter.asks, RawFilter.blank, PacketFilter.remote, lastOf]
  | append_singleton cs c ih =>
    rw [List.foldl_concat, asks_apply, lastOf_concat]
    grind

def Covered (cs : List Component) (skb : Skb) : Prop :=
  (∀ c, Decisive cs c → c.accepts skb = true) →
    ∀ c ∈ cs, ¬Decisive cs c → c.accepts skb = true

theorem decisive_iff_asks (r : RawFilter) (cs : List Component) (skb : Skb) :
    (∀ k, (cs.foldl apply r.blank).asks skb.flow k) ↔
      ∀ c, Decisive cs c → c.accepts skb = true := by
  simp only [asks_foldl]
  constructor
  · intro h c hc
    exact h c.kind c hc.2 hc.1
  · intro h k c hlast hruled
    have hkind : c.kind = k :=
      of_decide_eq_true (List.mem_filter.mp (List.mem_of_getLast? hlast)).2
    subst hkind
    exact h c ⟨hruled, hlast⟩

theorem all_iff_decisive (cs : List Component) (skb : Skb) :
    ((∀ c, Decisive cs c → c.accepts skb = true) ↔ ∀ c ∈ cs, c.accepts skb = true) ↔
      Covered cs skb := by
  constructor
  · intro h hdecisive c hc _
    grind
  · intro h
    constructor
    · intro hdecisive c hc
      by_cases hd : Decisive cs c
      · exact hdecisive c hd
      · exact h hdecisive c hc hd
    · intro hall c hd
      exact hall c (lastOf_mem hd.2)

end Component

theorem mem_buildTCBPFTFTRules {ds : Session} {b : Bearer} (o : RangeOrder)
    (hb : b ∈ ds.bearers.values) (hebi : b.ebi ≠ ds.defaultEBI) (htft : b.tft = some tft)
    (hf : f ∈ tft.filters) (hdir : f.direction = 0x01 ∨ f.direction = 0x03) :
    f.rule b.remoteTXTEID ∈ buildTCBPFTFTRules o ds := by
  rw [buildTCBPFTFTRules, List.mem_flatMap]
  refine ⟨b, (o.perm _).mem_iff.mpr hb, ?_⟩
  grind

theorem rule_matches_components_iff {raw : Bytes} {tft : TFT}
    (hparse : parseTFT raw = some (some tft)) {i : Nat} {f : PacketFilter}
    (hf : tft.filters[i]? = some f) (hdir : f.direction = 0x01 ∨ f.direction = 0x03)
    {ds : Session} {b : Bearer} (hb : b ∈ ds.bearers.values) (hebi : b.ebi ≠ ds.defaultEBI)
    (htft : b.tft = some tft) (o : RangeOrder) :
    f.rule b.remoteTXTEID ∈ buildTCBPFTFTRules o ds ∧
      ∃ r cs, (splitTFT raw)[i]? = some r ∧ Component.contents r.contents = some cs ∧
        ∀ skb : Skb, (tftRuleMatches (f.rule b.remoteTXTEID) skb.flow = true ↔
          ∀ c ∈ cs, c.accepts skb = true) ↔ Component.Covered cs skb := by
  refine ⟨mem_buildTCBPFTFTRules o hb hebi htft (List.mem_of_getElem? hf) hdir, ?_⟩
  obtain ⟨r, hr, hcontents⟩ := parseTFT_getElem hparse hf
  rw [Component.parsePacketFilterContents_eq] at hcontents
  obtain ⟨cs, hcs, rfl⟩ := Option.map_eq_some_iff.mp hcontents
  refine ⟨r, cs, hr, hcs, fun skb => ?_⟩
  rw [tftRuleMatches_rule_iff, Component.decisive_iff_asks]
  exact Component.all_iff_decisive cs skb

section Filters

def sipTFT : Bytes := [0x21, 0x31, 10, 5, 0x30, 17, 0x50, 0x13, 0xc4]

def sipFilter : PacketFilter where
  id := 1
  precedence := 10
  direction := 3
  protocol := 17
  hasProtocol := true
  remotePortLo := 5060
  remotePortHi := 5060
  hasRemotePort := true

def sipBearer : Bearer where
  ebi := 6
  localRXTEID := 0x2002
  remoteTXTEID := 0x6002
  pgwGTPUIP := .v4 0xc0000202
  localGTPUIP := .v4 0xc0000201
  qci := 5
  tft := some { filters := [sipFilter] }

def sipSession : Session where
  id := ⟨1, 0⟩
  paa := .v4 0x0a000001
  localGTPUIP := .v4 0xc0000201
  pgwGTPUIP := .v4 0xc0000202
  defaultEBI := 5
  bearers := (∅ : Table UInt8 Bearer).insert 6 sipBearer
  pgwControlTEID := 0x5001
  localControlTEID := 0x1001

/-- The protocol and the port reach the rule. -/
theorem sip_rule_exact :
    sipFilter.rule 0x6002 ∈ buildTCBPFTFTRules ⟨id, fun _ => .refl _⟩ sipSession ∧
      (tftRuleMatches (sipFilter.rule 0x6002) udpPacket.flow = true ↔
        ∀ c ∈ [Component.protocol 17, .remotePort 5060 5060], c.accepts udpPacket = true) := by
  have hparse : parseTFT sipTFT = some (some { filters := [sipFilter] }) := by decide
  have hf : [sipFilter][0]? = some sipFilter := rfl
  have hbearer : sipBearer ∈ sipSession.bearers.values := by decide
  obtain ⟨hmem, r, cs, hr, hcs, hiff⟩ :=
    rule_matches_components_iff hparse hf (.inr rfl) hbearer (by decide) rfl ⟨id, fun _ => .refl _⟩
  have hraw : (splitTFT sipTFT)[0]? = some ⟨0x31, 10, [0x30, 17, 0x50, 0x13, 0xc4]⟩ := by decide
  cases hraw.symm.trans hr
  have hcontents : Component.contents [0x30, 17, 0x50, 0x13, 0xc4]
      = some [.protocol 17, .remotePort 5060 5060] := by decide
  cases hcontents.symm.trans hcs
  refine ⟨hmem, (hiff udpPacket).mpr fun hdecisive c hc hnot => ?_⟩
  refine absurd ?_ hnot
  rcases List.mem_cons.mp hc with rfl | hc
  · exact ⟨rfl, rfl⟩
  · cases List.mem_singleton.mp hc
    exact ⟨rfl, rfl⟩

def Loosened (raw : Bytes) (skb : Skb) : Prop :=
  ∃ f cs, parseTFT raw = some (some { filters := [f] }) ∧ f.direction = 0x03 ∧
    (splitTFT raw).map (fun r => Component.contents r.contents) = [some cs] ∧
    tftRuleMatches (f.rule 0x6002) skb.flow = true ∧ ¬∀ c ∈ cs, c.accepts skb = true

/-- A local address that is not the UE's, a type of service and a security parameter index that
the packet does not have, and a port that another one follows. -/
theorem components_dropped :
    Loosened [0x21, 0x31, 10, 9, 0x18, 10, 0, 0, 2, 255, 255, 255, 255] udpPacket ∧
      Loosened [0x21, 0x31, 10, 3, 0x70, 0xb8, 0xfc] udpPacket ∧
      Loosened [0x21, 0x31, 10, 5, 0x60, 0, 0, 0, 1] udpPacket ∧
      Loosened [0x21, 0x31, 10, 6, 0x50, 0, 80, 0x50, 0x13, 0xc4] udpPacket := by
  refine ⟨⟨_, _, rfl, rfl, rfl, by decide, by decide⟩, ⟨_, _, rfl, rfl, rfl, by decide, by decide⟩,
    ⟨_, _, rfl, rfl, rfl, by decide, by decide⟩, ⟨_, _, rfl, rfl, rfl, by decide, by decide⟩⟩

end Filters
end Epdg.Gtpu
