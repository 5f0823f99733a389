import Epdg.Properties.TftGrammar

/-!
Which TFTs `ParseTFT` accepts, and that what it keeps of one can be sent again.
-/
namespace Epdg.Gtpu
open Bytes
variable {has : Bool} {b : UInt8} {ip : Option IP} {mask : Option UInt32} {hi lo : UInt16} {t : TFT}
  {raw : Bytes}

section Reencoding

def addressComponent (type : UInt8) (h : valueLength type = some 8) :
    Option IP → Option UInt32 → List WireComponent
  | some (.v4 addr), some mask => [⟨type, putUint32 addr ++ putUint32 mask, h⟩]
  | _, _ => []

def portComponent (single range : UInt8) (hs : valueLength single = some 2)
    (hr : valueLength range = some 4) (lo hi : UInt16) : WireComponent :=
  if lo = hi then ⟨single, putUint16 lo, hs⟩ else ⟨range, putUint16 lo ++ putUint16 hi, hr⟩

namespace PacketFilter
variable {pf : PacketFilter}

def wire (pf : PacketFilter) : List WireComponent :=
  addressComponent 0x10 rfl pf.remoteIPv4 pf.remoteIPv4Mask ++
    addressComponent 0x18 rfl pf.localIPv4 pf.localIPv4Mask ++
    (if pf.hasProtocol then [⟨0x30, [pf.protocol], rfl⟩] else []) ++
    (if pf.hasLocalPort then [portComponent 0x40 0x41 rfl rfl pf.localPortLo pf.localPortHi]
      else []) ++
    (if pf.hasRemotePort then [portComponent 0x50 0x51 rfl rfl pf.remotePortLo pf.remotePortHi]
      else [])

def AddressKept (ip : Option IP) (mask : Option UInt32) : Prop :=
  (ip = none ∧ mask = none) ∨ ∃ a m, ip = some (.v4 a) ∧ mask = some m

structure Kept (pf : PacketFilter) : Prop where
  id : pf.id ≤ 0x0f
  direction : pf.direction ≤ 0x03
  remote : AddressKept pf.remoteIPv4 pf.remoteIPv4Mask
  localAddr : AddressKept pf.localIPv4 pf.localIPv4Mask
  protocol : pf.hasProtocol = false → pf.protocol = 0
  localPort : pf.hasLocalPort = false → pf.localPortLo = 0 ∧ pf.localPortHi = 0
  remotePort : pf.hasRemotePort = false → pf.remotePortLo = 0 ∧ pf.remotePortHi = 0

theorem kept_blank (r : RawFilter) : r.blank.Kept where
  id := UInt8.and_le_right
  direction := UInt8.and_le_right
  remote := .inl ⟨rfl, rfl⟩
  localAddr := .inl ⟨rfl, rfl⟩
  protocol := fun _ => rfl
  localPort := fun _ => ⟨rfl, rfl⟩
  remotePort := fun _ => ⟨rfl, rfl⟩

theorem Kept.apply (h : pf.Kept) (c : Component) : (c.apply pf).Kept := by
  cases c with
  | remoteAddr addr mask => exact { h with remote := .inr ⟨addr, mask, rfl, rfl⟩ }
  | localAddr addr mask => exact { h with localAddr := .inr ⟨addr, mask, rfl, rfl⟩ }
  | protocol p => exact { h with protocol := fun hno => nomatch hno }
  | localPort lo hi => exact { h with localPort := fun hno => nomatch hno }
  | remotePort lo hi => exact { h with remotePort := fun hno => nomatch hno }
  | spi | tos | flowLabel => exact h

theorem Kept.storeAll (h : pf.Kept) (ws : List WireComponent) : (storeAll pf ws).Kept := by
  induction ws generalizing pf with
  | nil => exact h
  | cons w ws ih => exact ih (h.apply w.component)

end PacketFilter

theorem storeAll_append (pf : PacketFilter) (ws vs : List WireComponent) :
    storeAll pf (ws ++ vs) = storeAll (storeAll pf ws) vs := List.foldl_append

theorem port_putUint16 (n : UInt16) (rest : Bytes) : port (putUint16 n ++ rest) = n := by
  have h : beNat [(n >>> 8).toUInt8, n.toUInt8] = be16 (n >>> 8).toUInt8 n.toUInt8 := by
    simp [beNat, be16]
  change (beNat [(n >>> 8).toUInt8, n.toUInt8]).toUInt16 = n
  rw [h, be16_putUint16]
  exact UInt16.ofNat_toNat

theorem address_words (a m : UInt32) :
    be32 (putUint32 a ++ putUint32 m) = a ∧
    be32 ((putUint32 a ++ putUint32 m).drop 4) = m := by
  have hm := be32_putUint32 m []
  rw [List.append_nil] at hm
  exact ⟨be32_putUint32 a _, hm⟩

theorem port_single (n : UInt16) : port (putUint16 n) = n := by
  have h := port_putUint16 n []
  simp_all

theorem port_words (lo hi : UInt16) :
    port (putUint16 lo ++ putUint16 hi) = lo ∧
    port ((putUint16 lo ++ putUint16 hi).drop 2) = hi :=
  ⟨port_putUint16 lo _, port_single hi⟩

section Stored
variable {pf : PacketFilter}

theorem storeAll_remote (h : PacketFilter.AddressKept ip mask) (hip : pf.remoteIPv4 = none)
    (hmask : pf.remoteIPv4Mask = none) : storeAll pf (addressComponent 0x10 rfl ip mask)
      = { pf with remoteIPv4 := ip, remoteIPv4Mask := mask } := by
  rcases h with ⟨rfl, rfl⟩ | ⟨a, m, rfl, rfl⟩
  · cases pf
    cases hip
    cases hmask
    rfl
  · change Component.apply pf (.remoteAddr _ _) = _
    rw [(address_words a m).1, (address_words a m).2]
    rfl

theorem storeAll_local (h : PacketFilter.AddressKept ip mask) (hip : pf.localIPv4 = none)
    (hmask : pf.localIPv4Mask = none) : storeAll pf (addressComponent 0x18 rfl ip mask)
      = { pf with localIPv4 := ip, localIPv4Mask := mask } := by
  rcases h with ⟨rfl, rfl⟩ | ⟨a, m, rfl, rfl⟩
  · cases pf
    cases hip
    cases hmask
    rfl
  · change Component.apply pf (.localAddr _ _) = _
    rw [(address_words a m).1, (address_words a m).2]
    rfl

theorem storeAll_protocol {p : UInt8} (h : has = false → p = 0) (hp : pf.protocol = 0)
    (hhas : pf.hasProtocol = false) : storeAll pf (if has then [⟨0x30, [p], rfl⟩] else [])
      = { pf with protocol := p, hasProtocol := has } := by
  cases has with
  | false =>
    cases h rfl
    cases pf
    cases hp
    cases hhas
    rfl
  | true => rfl

theorem component_port {single range : UInt8} {hs : valueLength single = some 2}
    {hr : valueLength range = some 4} {made : UInt16 → UInt16 → Component}
    (hsingle : ∀ v, Component.ofValue single v = made (port v) (port v))
    (hrange : ∀ v, Component.ofValue range v = made (port v) (port (v.drop 2)))
    (lo hi : UInt16) : (portComponent single range hs hr lo hi).component = made lo hi := by
  unfold portComponent WireComponent.component
  split
  · rename_i heq
    rw [hsingle, port_single, heq]
  · rw [hrange, (port_words lo hi).1, (port_words lo hi).2]

theorem storeAll_localPort (h : has = false → lo = 0 ∧ hi = 0) (hlo : pf.localPortLo = 0)
    (hhi : pf.localPortHi = 0) (hhas : pf.hasLocalPort = false) :
    storeAll pf (if has then [portComponent 0x40 0x41 rfl rfl lo hi] else [])
      = { pf with localPortLo := lo, localPortHi := hi, hasLocalPort := has } := by
  cases has with
  | false =>
    obtain ⟨rfl, rfl⟩ := h rfl
    cases pf
    cases hlo
    cases hhi
    cases hhas
    rfl
  | true =>
    have hc : (portComponent 0x40 0x41 rfl rfl lo hi).component = .localPort lo hi :=
      component_port (fun _ => rfl) (fun _ => rfl) lo hi
    exact congrArg (Component.apply pf) hc

theorem storeAll_remotePort (h : has = false → lo = 0 ∧ hi = 0) (hlo : pf.remotePortLo = 0)
    (hhi : pf.remotePortHi = 0) (hhas : pf.hasRemotePort = false) :
    storeAll pf (if has then [portComponent 0x50 0x51 rfl rfl lo hi] else [])
      = { pf with remotePortLo := lo, remotePortHi := hi, hasRemotePort := has } := by
  cases has with
  | false =>
    obtain ⟨rfl, rfl⟩ := h rfl
    cases pf
    cases hlo
    cases hhi
    cases hhas
    rfl
  | true =>
    have hc : (portComponent 0x50 0x51 rfl rfl lo hi).component = .remotePort lo hi :=
      component_port (fun _ => rfl) (fun _ => rfl) lo hi
    exact congrArg (Component.apply pf) hc

theorem storeAll_wire (h : pf.Kept) :
    storeAll { id := pf.id, precedence := pf.precedence, direction := pf.direction } pf.wire
      = pf := by
  rw [PacketFilter.wire, storeAll_append, storeAll_append, storeAll_append, storeAll_append,
    storeAll_remote h.remote rfl rfl, storeAll_local h.localAddr rfl rfl,
    storeAll_protocol h.protocol rfl rfl, storeAll_localPort h.localPort rfl rfl rfl,
    storeAll_remotePort h.remotePort rfl rfl rfl]

end Stored

theorem length_encode_address (type : UInt8) (h : valueLength type = some 8) (ip : Option IP)
    (mask : Option UInt32) :
    ((addressComponent type h ip mask).flatMap WireComponent.encode).length ≤ 9 := by
  unfold addressComponent
  split
  · exact Nat.le_refl _
  · exact Nat.zero_le _

theorem length_encode_port (single range : UInt8) (hs : valueLength single = some 2)
    (hr : valueLength range = some 4) (lo hi : UInt16) :
    (portComponent single range hs hr lo hi).encode.length ≤ 5 := by
  unfold portComponent
  split
  · exact (by decide : 3 ≤ 5)
  · exact Nat.le_refl _

theorem length_encode_wire (pf : PacketFilter) :
    (pf.wire.flatMap WireComponent.encode).length < 256 := by
  have hremote := length_encode_address 0x10 rfl pf.remoteIPv4 pf.remoteIPv4Mask
  have hlocal := length_encode_address 0x18 rfl pf.localIPv4 pf.localIPv4Mask
  have hport := length_encode_port 0x40 0x41 rfl rfl pf.localPortLo pf.localPortHi
  have hport' := length_encode_port 0x50 0x51 rfl rfl pf.remotePortLo pf.remotePortHi
  unfold PacketFilter.wire
  simp only [List.flatMap_append, List.length_append]
  split <;> split <;> split <;>
    simp only [List.flatMap_cons, List.flatMap_nil, List.append_nil, List.length_nil,
      WireComponent.encode, List.length_cons] at hport hport' ⊢ <;> omega

def PacketFilter.block (pf : PacketFilter) : FilterBlock where
  header := pf.id ||| pf.direction <<< 4
  precedence := pf.precedence
  contents := pf.wire.flatMap WireComponent.encode
  fits := length_encode_wire pf

theorem block_stores {pf : PacketFilter} (h : pf.Kept) : pf.block.Stores pf := by
  have hand : ∀ b : UInt8, b ≤ 0x03 → b &&& 0x03 = b ∧ b ≤ 0x0f := forall_byte (by decide +kernel)
  obtain ⟨hdir, hle⟩ := hand pf.direction h.direction
  obtain ⟨hlo, hhi⟩ := halves h.id hle
  refine ⟨pf.wire, [], (List.append_nil _).symm, .inl rfl, ?_⟩
  have hblank : pf.block.blank
      = { id := pf.id, precedence := pf.precedence, direction := pf.direction } := by
    simp only [RawFilter.blank, PacketFilter.block, hlo, hhi, hdir]
  rw [hblank, storeAll_wire h]

def TFT.encode (b : UInt8) (t : TFT) : Bytes :=
  (b &&& 0xe0 ||| t.filters.length.toUInt8) ::
    (t.filters.map PacketFilter.block).flatMap FilterBlock.encode

theorem kept_of_stores {blocks : List FilterBlock} {filters : List PacketFilter}
    (h : List.Forall₂ FilterBlock.Stores blocks filters) : ∀ pf ∈ filters, pf.Kept := by
  induction h with
  | nil => exact fun pf hpf => nomatch hpf
  | cons hstores _ ih =>
    obtain ⟨ws, rest, -, -, rfl⟩ := hstores
    exact List.forall_mem_cons.mpr ⟨(PacketFilter.kept_blank _).storeAll ws, ih⟩

theorem firstByte_again (b : UInt8) :
    (b &&& 0xe0 ||| (b &&& 0x0f).toNat.toUInt8) >>> 5 = b >>> 5 ∧
    (b &&& 0xe0 ||| (b &&& 0x0f).toNat.toUInt8) &&& 0x0f = b &&& 0x0f := by
  have hall : ∀ b : UInt8, (b &&& 0xe0 ||| (b &&& 0x0f).toNat.toUInt8) >>> 5 = b >>> 5 ∧
      (b &&& 0xe0 ||| (b &&& 0x0f).toNat.toUInt8) &&& 0x0f = b &&& 0x0f :=
    forall_byte (by decide +kernel)
  exact hall b

section
variable (hop : CarriesFilters b) (hlen : t.filters.length = (b &&& 0x0f).toNat)
include hop hlen

theorem declares_encode : Declares (t.encode b) (t.filters.map PacketFilter.block) := by
  obtain ⟨hop', hcount⟩ := firstByte_again b
  rw [← hlen] at hop' hcount
  refine ⟨_, [], by rw [TFT.encode, List.append_nil], ?_, ?_⟩
  · rw [CarriesFilters, hop']
    exact hop
  · simp_all

theorem parseTFT_encode (hkept : ∀ pf ∈ t.filters, pf.Kept) :
    parseTFT (t.encode b) = some (some t) := by
  have hdecl := declares_encode hop hlen
  obtain ⟨b', rest, heq, hop', -⟩ := id hdecl
  rw [heq] at hdecl ⊢
  refine (parseTFT_iff hop').mpr ⟨_, hdecl, ?_⟩
  exact List.forall₂_map_left_iff.mpr
    (List.forall₂_same.mpr fun pf hpf => block_stores (hkept pf hpf))

end

end Reencoding

def WellFormed (raw : Bytes) : Prop :=
  ∃ blocks, Declares raw blocks ∧ ∀ bl ∈ blocks, ∃ ws, SplitsInto bl.contents ws []

def FilterBlock.CutShort (bl : FilterBlock) : Prop :=
  ∃ ws rest, SplitsInto bl.contents ws rest ∧ CutOff rest

def EndsEarly (raw : Bytes) : Prop :=
  ∃ blocks, Declares raw blocks ∧ (∃ bl ∈ blocks, bl.CutShort) ∧
    ∀ bl ∈ blocks, bl.CutShort ∨ ∃ ws, SplitsInto bl.contents ws []

theorem not_wellFormed_of_endsEarly (h : EndsEarly raw) : ¬WellFormed raw := by
  rintro ⟨blocks, hdecl, hall⟩
  obtain ⟨blocks', hdecl', ⟨bl, hbl, ws, rest, hcut, hrest⟩, -⟩ := h
  obtain rfl := hdecl.unique hdecl'
  obtain ⟨vs, hsplit⟩ := hall bl hbl
  exact not_cutOff_of_splits hsplit hcut hrest

theorem FilterBlock.exists_stores_iff {bl : FilterBlock} :
    (∃ pf, bl.Stores pf) ↔ bl.CutShort ∨ ∃ ws, SplitsInto bl.contents ws [] := by
  constructor
  · rintro ⟨pf, ws, rest, hs, rfl | hcut, -⟩
    · grind
    · exact .inl ⟨ws, rest, hs, hcut⟩
  · rintro (⟨ws, rest, hs, hcut⟩ | ⟨ws, hs⟩)
    · exact ⟨_, ws, rest, hs, .inr hcut, rfl⟩
    · exact ⟨_, ws, [], hs, .inl rfl, rfl⟩

theorem parseTFT_isSome_iff (hop : CarriesFilters b) : (∃ t, parseTFT (b :: raw) = some (some t)) ↔
      WellFormed (b :: raw) ∨ EndsEarly (b :: raw) := by
  have hstored : ∀ blocks : List FilterBlock,
      (∃ filters, List.Forall₂ FilterBlock.Stores blocks filters) ↔
        ∀ bl ∈ blocks, bl.CutShort ∨ ∃ ws, SplitsInto bl.contents ws [] := by
    intro blocks
    induction blocks with
    | nil => exact iff_of_true ⟨[], .nil⟩ fun bl hbl => nomatch hbl
    | cons bl blocks ih =>
      rw [List.forall_mem_cons, ← ih, ← FilterBlock.exists_stores_iff]
      constructor
      · rintro ⟨_, _ | ⟨hpf, hall⟩⟩
        grind
      · rintro ⟨⟨pf, hpf⟩, filters, hall⟩
        exact ⟨pf :: filters, .cons hpf hall⟩
  constructor
  · rintro ⟨t, h⟩
    obtain ⟨blocks, hdecl, hall⟩ := (parseTFT_iff hop).mp h
    have heach := (hstored blocks).mp ⟨_, hall⟩
    by_cases hcut : ∃ bl ∈ blocks, bl.CutShort
    · exact .inr ⟨blocks, hdecl, hcut, heach⟩
    · refine .inl ⟨blocks, hdecl, fun bl hbl => ?_⟩
      simp_all
  · intro h
    obtain ⟨blocks, hdecl, heach⟩ : ∃ blocks, Declares (b :: raw) blocks ∧
        ∀ bl ∈ blocks, bl.CutShort ∨ ∃ ws, SplitsInto bl.contents ws [] := by
      rcases h with ⟨blocks, hdecl, hall⟩ | ⟨blocks, hdecl, -, hall⟩
      · grind
      · grind
    obtain ⟨filters, hall⟩ := (hstored blocks).mpr heach
    exact ⟨{ filters }, (parseTFT_iff hop).mpr ⟨blocks, hdecl, hall⟩⟩

/-- For the operations with packet filters the parser takes exactly the well-formed TFTs unless the
TFT ends early in a component that it steps over. What it returns is what the components of each
declared packet filter leave, and is the same when it is sent and parsed again. -/
theorem parseTFT_accepts_iff {b : UInt8} (hop : CarriesFilters b) (raw : Bytes) :
    (((∃ t, parseTFT (b :: raw) = some (some t)) ↔ WellFormed (b :: raw)) ↔
      ¬EndsEarly (b :: raw)) ∧
    ∀ t, parseTFT (b :: raw) = some (some t) →
      (∃ blocks, Declares (b :: raw) blocks ∧ List.Forall₂ FilterBlock.Stores blocks t.filters) ∧
      WellFormed (t.encode b) ∧ parseTFT (t.encode b) = some (some t) := by
  constructor
  · rw [parseTFT_isSome_iff hop]
    constructor
    · intro h hearly
      exact not_wellFormed_of_endsEarly hearly (h.mp (.inr hearly))
    · exact fun hnot => or_iff_left hnot
  · intro t h
    obtain ⟨blocks, hdecl, hall⟩ := (parseTFT_iff hop).mp h
    have hlen : t.filters.length = (b &&& 0x0f).toNat := by
      obtain ⟨b', rest, heq, -, hlen⟩ := hdecl
      obtain ⟨rfl, -⟩ := List.cons.inj heq
      rw [← hlen, hall.length_eq]
    refine ⟨⟨blocks, hdecl, hall⟩, ⟨_, declares_encode hop hlen, ?_⟩,
      parseTFT_encode hop hlen (kept_of_stores hall)⟩
    intro bl hbl
    obtain ⟨pf, -, rfl⟩ := List.mem_map.mp hbl
    exact ⟨pf.wire, (List.append_nil _).symm⟩

section Runs

def oneFilterTFT (contents : Bytes) : Bytes :=
  [0x21, 0x11, 10, contents.length.toUInt8] ++ contents

def cutContents : List Bytes := [[0x60, 1], [0x70], [0x80, 0, 0]]

def AcceptedCut (contents : Bytes) : Prop :=
  parseTFT (oneFilterTFT contents)
    = some (some { filters := [{ id := 1, precedence := 10, direction := 1 }] }) ∧
  ¬WellFormed (oneFilterTFT contents)

theorem cutContents_accepted : ∀ contents ∈ cutContents, AcceptedCut contents := by
  have hparse : ∀ contents ∈ cutContents, parseTFT (oneFilterTFT contents)
      = some (some { filters := [{ id := 1, precedence := 10, direction := 1 }] }) := by
    decide +kernel
  have hcut : ∀ contents ∈ cutContents, CutOff contents ∧ contents.length < 256 := by
    simp only [cutContents, List.forall_mem_cons]
    refine ⟨⟨⟨0x60, [1], 4, rfl, ?_, rfl, ?_⟩, ?_⟩, ⟨⟨0x70, [], 2, rfl, ?_, rfl, ?_⟩, ?_⟩,
      ⟨⟨0x80, [0, 0], 3, rfl, ?_, rfl, ?_⟩, ?_⟩, fun c hc => nomatch hc⟩
    all_goals decide
  intro contents hmem
  obtain ⟨hcutOff, hfits⟩ := hcut contents hmem
  refine ⟨hparse contents hmem, not_wellFormed_of_endsEarly ?_⟩
  let bl : FilterBlock := { header := 0x11, precedence := 10, contents, fits := hfits }
  have hbl : bl.CutShort := ⟨[], contents, rfl, hcutOff⟩
  refine ⟨[bl], ⟨0x21, [], by simp [bl, oneFilterTFT, FilterBlock.encode], .inl rfl, rfl⟩,
    ⟨bl, List.mem_singleton_self bl, hbl⟩, ?_⟩
  intro bl' hbl'
  rw [List.mem_singleton.mp hbl']
  exact .inl hbl

/-- A filter with a cut SPI, TOS or flow label is accepted without it. -/
theorem cut_filters_accepted :
    AcceptedCut [0x60, 1] ∧ AcceptedCut [0x70] ∧ AcceptedCut [0x80, 0, 0] :=
  ⟨cutContents_accepted _ (by decide), cutContents_accepted _ (by decide),
    cutContents_accepted _ (by decide)⟩

/-- The packet filter of a SIP flow is parsed, and parsed again from what was kept. -/
theorem sip_tft_accepted :
    WellFormed (TFT.encode 0x21 { filters := [sipFilter] }) ∧
    parseTFT (TFT.encode 0x21 { filters := [sipFilter] })
      = some (some { filters := [sipFilter] }) :=
  ((parseTFT_accepts_iff (.inl rfl) sipTFT.tail).2 { filters := [sipFilter] } (by decide)).2

end Runs
end Epdg.Gtpu
