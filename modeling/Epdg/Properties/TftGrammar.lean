import Epdg.Lib.PrefixCode
import Epdg.Properties.FilterRules

/-!
The bytes of a TFT that `ParseTFT` takes.

A packet filter is a sequence of components, each a type and a value whose length the type fixes
(TS 24.008 section 10.5.6.12). The parser checks the length of the values that it stores. It steps
over the others without a look at what is left, so that the contents may end in the middle of one.
-/
namespace Epdg.Gtpu
open Bytes
variable {n : Nat} {b raw : Bytes} {ws : List WireComponent}

def valueLength : UInt8 → Option Nat
  | 0x10 => some 8
  | 0x18 => some 8
  | 0x30 => some 1
  | 0x40 => some 2
  | 0x41 => some 4
  | 0x50 => some 2
  | 0x51 => some 4
  | 0x60 => some 4
  | 0x70 => some 2
  | 0x80 => some 3
  | _ => none

structure WireComponent where
  type : UInt8
  value : Bytes
  whole : valueLength type = some value.length

def Component.ofValue (type : UInt8) (value : Bytes) : Component :=
  match type with
  | 0x10 => .remoteAddr (be32 value) (be32 (value.drop 4))
  | 0x18 => .localAddr (be32 value) (be32 (value.drop 4))
  | 0x30 => .protocol (value.byteAt 0)
  | 0x40 => .localPort (port value) (port value)
  | 0x41 => .localPort (port value) (port (value.drop 2))
  | 0x50 => .remotePort (port value) (port value)
  | 0x51 => .remotePort (port value) (port (value.drop 2))
  | 0x60 => .spi value
  | 0x70 => .tos value
  | _ => .flowLabel value

namespace WireComponent

def encode (w : WireComponent) : Bytes := w.type :: w.value

def component (w : WireComponent) : Component := .ofValue w.type w.value

theorem isPrefixCode : IsPrefixCode encode := by
  rintro ⟨type, value, hv⟩ ⟨type', value', hv'⟩ x y heq
  simp only [encode, List.cons_append, List.cons.injEq] at heq
  obtain ⟨rfl, heq⟩ := heq
  obtain ⟨rfl, hrest⟩ := List.append_inj heq (Option.some.inj (hv.symm.trans hv'))
  exact ⟨rfl, hrest⟩

end WireComponent

def Skipped (type : UInt8) : Prop := type = 0x60 ∨ type = 0x70 ∨ type = 0x80

def CutOff (b : Bytes) : Prop :=
  ∃ type value n, b = type :: value ∧ Skipped type ∧ valueLength type = some n ∧ value.length < n

theorem be32_take (h : 4 ≤ n) : be32 (b.take n) = be32 b := by
  rw [be32, be32, List.take_take, Nat.min_eq_left h]

theorem port_take (h : 2 ≤ n) : port (b.take n) = port b := by
  rw [port, port, List.take_take, Nat.min_eq_left h]

instance (type : UInt8) : Decidable (Skipped type) :=
  inferInstanceAs (Decidable (type = 0x60 ∨ type = 0x70 ∨ type = 0x80))

theorem Component.read_eq (type : UInt8) (data : Bytes) :
    Component.read type data = (valueLength type).bind fun n =>
      if data.length < n then if Skipped type then some (.ofValue type data, []) else none
      else some (.ofValue type (data.take n), data.drop n) := by
  fun_cases Component.read type data
  all_goals simp_all [valueLength, Component.ofValue, Skipped, be32_take, port_take,
    List.drop_take, byteAt]
  -- what is left of a skipped component that ends early is all of it
  all_goals grind [List.take_of_length_le]

theorem Component.apply_skipped (pf : PacketFilter) {type : UInt8} (h : Skipped type)
    (value : Bytes) : (Component.ofValue type value).apply pf = pf := by
  rcases h with rfl | rfl | rfl <;> rfl

section Contents
variable {pf pf' : PacketFilter} {type : UInt8} {data rest : Bytes}

theorem component_iff :
    pf.component type data = some (pf', rest) ↔
      (∃ w : WireComponent, type :: data = w.encode ++ rest ∧ pf' = w.component.apply pf) ∨
      CutOff (type :: data) ∧ rest = [] ∧ pf' = pf := by
  rw [Component.component_eq, Component.read_eq]
  constructor
  · intro h
    obtain ⟨r, hr, heq⟩ := Option.map_eq_some_iff.mp h
    obtain ⟨n, hn, hr⟩ := Option.bind_eq_some_iff.mp hr
    split at hr
    · rename_i hshort
      split at hr
      · rename_i hskip
        cases hr
        cases heq
        exact .inr ⟨⟨type, data, n, rfl, hskip, hn, hshort⟩, rfl, Component.apply_skipped _ hskip _⟩
      · cases hr
    · rename_i hlong
      cases hr
      cases heq
      refine .inl ⟨⟨type, data.take n, ?_⟩, ?_, rfl⟩
      · simp_all
      · rw [WireComponent.encode, List.cons_append, List.take_append_drop]
  · rintro (⟨⟨t, value, hv⟩, heq, rfl⟩ | ⟨⟨t, value, n, heq, hskip, hn, hshort⟩, rfl, rfl⟩)
    · simp only [WireComponent.encode, List.cons_append, List.cons.injEq] at heq
      obtain ⟨rfl, rfl⟩ := heq
      rw [hv, Option.bind_some, if_neg (by simp), List.take_left, List.drop_left]
      rfl
    · cases heq
      rw [hn, Option.bind_some, if_pos hshort, if_pos hskip, Option.map_some,
        Component.apply_skipped _ hskip]

def SplitsInto (data : Bytes) (ws : List WireComponent) (rest : Bytes) : Prop :=
  data = ws.flatMap WireComponent.encode ++ rest

def storeAll (pf : PacketFilter) (ws : List WireComponent) : PacketFilter :=
  ws.foldl (fun pf w => w.component.apply pf) pf

theorem splitsInto_nil_iff : SplitsInto [] ws rest ↔ ws = [] ∧ rest = [] := by
  cases ws with
  | nil => simp [SplitsInto, eq_comm]
  | cons w ws => simp [SplitsInto, WireComponent.encode]

theorem parseComponents_nil (fuel : Nat) (pf : PacketFilter) :
    parseComponents fuel pf [] = some pf := by
  cases fuel <;> rfl

theorem parseComponents_iff {fuel : Nat} (hfuel : data.length ≤ fuel) :
    parseComponents fuel pf data = some pf' ↔
      ∃ ws rest, SplitsInto data ws rest ∧ (rest = [] ∨ CutOff rest) ∧ pf' = storeAll pf ws := by
  induction fuel generalizing pf data with
  | zero =>
    obtain rfl : data = [] := List.eq_nil_of_length_eq_zero (Nat.le_zero.mp hfuel)
    rw [parseComponents_nil]
    constructor
    · rintro ⟨⟩
      exact ⟨[], [], splitsInto_nil_iff.mpr ⟨rfl, rfl⟩, .inl rfl, rfl⟩
    · rintro ⟨ws, rest, hs, -, rfl⟩
      obtain ⟨rfl, rfl⟩ := splitsInto_nil_iff.mp hs
      rfl
  | succ fuel ih =>
    cases data with
    | nil =>
      rw [parseComponents_nil, ← parseComponents_nil fuel]
      simp_all
    | cons type data =>
      rw [parseComponents]
      constructor
      · intro h
        obtain ⟨⟨pf1, data1⟩, hc, hp⟩ := Option.bind_eq_some_iff.mp h
        rcases component_iff.mp hc with ⟨w, hw, rfl⟩ | ⟨hcut, rfl, rfl⟩
        · have hlen : data1.length ≤ fuel := by
            have := congrArg List.length hw
            simp only [WireComponent.encode, List.length_cons, List.cons_append,
              List.length_append] at this hfuel
            omega
          obtain ⟨ws, rest, hs, hrest, rfl⟩ := (ih hlen).mp hp
          refine ⟨w :: ws, rest, ?_, hrest, rfl⟩
          rw [SplitsInto, List.flatMap_cons, List.append_assoc, ← hs, hw]
        · cases (parseComponents_nil fuel pf1).symm.trans hp
          exact ⟨[], _, rfl, .inr hcut, rfl⟩
      · rintro ⟨ws, rest, hs, hrest, rfl⟩
        cases ws with
        | nil =>
          obtain rfl : type :: data = rest := hs
          have hcut := hrest.resolve_left (List.cons_ne_nil type data)
          rw [component_iff.mpr (.inr ⟨hcut, rfl, rfl⟩)]
          exact parseComponents_nil fuel pf
        | cons w ws =>
          rw [SplitsInto, List.flatMap_cons, List.append_assoc] at hs
          have hlen : (ws.flatMap WireComponent.encode ++ rest).length ≤ fuel := by
            have := congrArg List.length hs
            simp only [WireComponent.encode, List.length_cons, List.cons_append,
              List.length_append] at this hfuel ⊢
            omega
          rw [component_iff.mpr (.inl ⟨w, hs, rfl⟩)]
          exact (ih hlen).mpr ⟨ws, rest, rfl, hrest, rfl⟩

theorem parsePacketFilterContents_iff :
    parsePacketFilterContents pf data = some pf' ↔
      ∃ ws rest, SplitsInto data ws rest ∧ (rest = [] ∨ CutOff rest) ∧ pf' = storeAll pf ws :=
  parseComponents_iff (Nat.le_refl _)

theorem not_cutOff_of_splits {vs : List WireComponent} (hs : SplitsInto data ws [])
    (hcut : SplitsInto data vs rest) : ¬CutOff rest := by
  rintro ⟨type, value, n, rfl, -, hn, hshort⟩
  rcases WireComponent.isPrefixCode.flatMap_append_cases (hs.symm.trans hcut)
    with ⟨k, -, hk⟩ | ⟨k, -, hk⟩
  · simp at hk
  cases k with
  | nil => cases hk
  | cons w k =>
    simp only [List.flatMap_cons, WireComponent.encode, List.cons_append, List.append_nil,
      List.cons.injEq] at hk
    obtain ⟨rfl, rfl⟩ := hk
    have hlen := Option.some.inj (w.whole.symm.trans hn)
    rw [List.length_append] at hshort
    omega

end Contents

structure FilterBlock extends RawFilter where
  fits : contents.length < 256

namespace FilterBlock

def encode (bl : FilterBlock) : Bytes :=
  bl.header :: bl.precedence :: bl.contents.length.toUInt8 :: bl.contents

theorem length_toUInt8 (bl : FilterBlock) :
    bl.contents.length.toUInt8.toNat = bl.contents.length := Nat.mod_eq_of_lt bl.fits

theorem isPrefixCode : IsPrefixCode encode := by
  intro bl bl' x y heq
  have hn := bl.length_toUInt8
  have hn' := bl'.length_toUInt8
  obtain ⟨⟨header, precedence, contents⟩, fits⟩ := bl
  simp only [encode, List.cons_append, List.cons.injEq] at heq hn hn'
  obtain ⟨rfl, rfl, hlen, heq⟩ := heq
  rw [hlen] at hn
  obtain ⟨rfl, hrest⟩ := List.append_inj heq (hn.symm.trans hn')
  exact ⟨rfl, hrest⟩

def Stores (bl : FilterBlock) (pf : PacketFilter) : Prop :=
  ∃ ws rest, SplitsInto bl.contents ws rest ∧ (rest = [] ∨ CutOff rest) ∧
    pf = storeAll bl.blank ws

end FilterBlock

theorem parseFilters_iff {filters : List PacketFilter} : parseFilters n raw = some filters ↔
      ∃ blocks rest, raw = blocks.flatMap FilterBlock.encode ++ rest ∧ blocks.length = n ∧
        List.Forall₂ FilterBlock.Stores blocks filters := by
  induction n generalizing raw filters with
  | zero =>
    constructor
    · intro h
      obtain rfl : [] = filters := by cases raw <;> exact Option.some.inj h
      simp_all
    · rintro ⟨blocks, rest, rfl, hlen, h⟩
      obtain rfl : blocks = [] := List.eq_nil_of_length_eq_zero hlen
      cases h
      cases rest <;> rfl
  | succ n ih =>
    constructor
    · intro h
      match raw, h with
      | header :: precedence :: contentLen :: raw, h =>
        simp only [parseFilters] at h
        split at h
        · cases h
        rename_i hlong
        obtain ⟨pf, hpf, h⟩ := Option.bind_eq_some_iff.mp h
        obtain ⟨filters, hrest, h⟩ := Option.bind_eq_some_iff.mp h
        cases h
        obtain ⟨blocks, rest, hraw, rfl, hall⟩ := ih.mp hrest
        have hn : (raw.take contentLen.toNat).length = contentLen.toNat := by simp_all
        let bl : FilterBlock :=
          { header, precedence, contents := raw.take contentLen.toNat
            fits := by
              rw [hn]
              exact contentLen.toNat_lt }
        refine ⟨bl :: blocks, rest, ?_, rfl,
          .cons (parsePacketFilterContents_iff.mp hpf) hall⟩
        simp only [List.flatMap_cons, FilterBlock.encode, bl, hn, List.cons_append,
          List.append_assoc, ← hraw, List.take_append_drop]
        simp
    · rintro ⟨blocks, rest, rfl, hlen, h⟩
      cases h with
      | nil => cases hlen
      | cons hstores hall =>
        rename_i bl pf blocks filters
        have hrec := ih.mpr ⟨blocks, rest, rfl, Nat.succ.inj hlen, hall⟩
        simp only [List.flatMap_cons, FilterBlock.encode, List.cons_append, parseFilters,
          bl.length_toUInt8, List.append_assoc, List.take_left, List.drop_left, hrec]
        rw [if_neg (by simp)]
        have hpf := parsePacketFilterContents_iff.mpr hstores
        simp only [RawFilter.blank] at hpf
        rw [hpf]
        rfl

def CarriesFilters (b : UInt8) : Prop := b >>> 5 = 1 ∨ b >>> 5 = 3 ∨ b >>> 5 = 4

def Declares (raw : Bytes) (blocks : List FilterBlock) : Prop :=
  ∃ b rest, raw = b :: (blocks.flatMap FilterBlock.encode ++ rest) ∧ CarriesFilters b ∧
    blocks.length = (b &&& 0x0f).toNat

theorem Declares.unique {blocks blocks' : List FilterBlock} (h : Declares raw blocks)
    (h' : Declares raw blocks') : blocks = blocks' := by
  obtain ⟨b, rest, rfl, -, hlen⟩ := h
  obtain ⟨b', rest', heq, -, hlen'⟩ := h'
  obtain ⟨rfl, htail⟩ := List.cons.inj heq
  exact (FilterBlock.isPrefixCode.flatMap_cancel (hlen.trans hlen'.symm) htail).1

theorem parseTFT_iff {b : UInt8} {t : TFT} (hop : CarriesFilters b) :
    parseTFT (b :: raw) = some (some t) ↔
      ∃ blocks, Declares (b :: raw) blocks ∧ List.Forall₂ FilterBlock.Stores blocks t.filters := by
  have hparse : parseTFT (b :: raw) =
      (parseFilters (b &&& 0x0f).toNat raw).map fun filters => some { filters } := by
    rcases hop with h | h | h <;> simp only [parseTFT, h]
  rw [hparse]
  constructor
  · intro h
    obtain ⟨filters, hf, ht⟩ := Option.map_eq_some_iff.mp h
    cases ht
    obtain ⟨blocks, rest, rfl, hlen, hall⟩ := parseFilters_iff.mp hf
    exact ⟨blocks, ⟨b, rest, rfl, hop, hlen⟩, hall⟩
  · rintro ⟨blocks, ⟨b', rest, heq, -, hlen⟩, hall⟩
    obtain ⟨rfl, rfl⟩ := List.cons.inj heq
    rw [parseFilters_iff.mpr ⟨blocks, rest, rfl, hlen, hall⟩]
    rfl

end Epdg.Gtpu
