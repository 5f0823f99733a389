import Mathlib.Tactic.SplitIfs
import Epdg.Pco

/-!
The codec of protocol configuration options.

A payload is an octet of flags, containers that are whole and, when it is truncated, an end that
is not. The decoder reads the containers one after the other and sets the end aside; in strict mode
it rejects what it would have set aside.
-/
namespace Epdg.Pco
open Bytes
variable {cs : List Container} {fuel : Nat}

def Container.Fits (c : Container) : Prop := c.contents.length ≤ 255

def CutOff (b : Bytes) : Prop :=
  b ≠ [] ∧ ∀ (c : Container) (rest : Bytes), c.Fits → b ≠ c.encode ++ rest

def Truncated (b : Bytes) : Prop :=
  ∃ (cs : List Container) (tail : Bytes),
    (∀ c ∈ cs, c.Fits) ∧ b = cs.flatMap Container.encode ++ tail ∧ CutOff tail

def pieces (size : Nat) (b : Bytes) : List Bytes :=
  (List.range (b.length / size)).map fun i => (b.drop (size * i)).take size

def Container.addresses (id : UInt16) (size : Nat) (address : Bytes → IP) (c : Container) :
    List IP :=
  if c.protocolID = id then (pieces size c.contents).map address else []

section Pieces
variable {size : Nat} {b : Bytes}

theorem pieces_short (h : b.length < size) : pieces size b = [] := by
  rw [pieces, Nat.div_eq_of_lt h]
  rfl

theorem pieces_step (hpos : 0 < size) (h : size ≤ b.length) :
    pieces size b = b.take size :: pieces size (b.drop size) := by
  have hcount : b.length / size = (b.drop size).length / size + 1 := by
    rw [List.length_drop, ← Nat.add_div_right _ hpos, Nat.sub_add_cancel h]
  rw [pieces, hcount, List.range_succ_eq_map, List.map_cons, List.map_map, pieces]
  refine congrArg₂ List.cons (by rw [Nat.mul_zero, List.drop_zero]) (List.map_congr_left ?_)
  intro i _
  rw [Function.comp_apply, List.drop_drop, Nat.mul_succ, Nat.add_comm]

theorem ipv4List_eq (b : Bytes) : ipv4List b = (pieces 4 b).map fun x => .v4 (be32 x) := by
  fun_induction ipv4List b with
  | case1 a b c d rest ih =>
    rw [pieces_step (by decide) (by simp), List.map_cons, ih]
    rfl
  | case2 b hshort =>
    have hlen : b.length < 4 := by
      match b, hshort with
      | [], _ | [_], _ | [_, _], _ | [_, _, _], _ => simp
      | a :: b :: c :: d :: rest, h => exact absurd rfl (h a b c d rest)
    rw [pieces_short hlen]
    rfl

theorem ip16_take (b : Bytes) : ip16 (b.take 16) = ip16 b := by
  have hhi : be64 (b.take 16) = be64 b := by rw [be64, be64, List.take_take]; rfl
  have hlo : be64 ((b.take 16).drop 8) = be64 (b.drop 8) := by
    rw [be64, be64, List.drop_take, List.take_take]
    rfl
  have hv4 : be32 ((b.take 16).drop 12) = be32 (b.drop 12) := by
    rw [be32, be32, List.drop_take, List.take_take]
    rfl
  rw [ip16, ip16, hhi, hlo, hv4, List.take_take]
  rfl

theorem ipv6ListLoop_eq (h : b.length ≤ fuel) : ipv6ListLoop fuel b = (pieces 16 b).map ip16 := by
  induction fuel generalizing b with
  | zero =>
    rw [pieces_short (by omega)]
    rfl
  | succ fuel ih =>
    rw [ipv6ListLoop]
    by_cases hlen : b.length < 16
    · rw [if_pos hlen, pieces_short hlen]
      rfl
    have hrest : (b.drop 16).length ≤ fuel := by grind
    rw [if_neg hlen, pieces_step (by decide) (by omega), ih hrest, List.map_cons, ip16_take]

theorem ipv6List_eq (b : Bytes) : ipv6List b = (pieces 16 b).map ip16 := 
  ipv6ListLoop_eq (Nat.le_refl _)

end Pieces

section Reading
variable {d : Decoded} {c : Container} {cs : List Container} {tail : Bytes} {strict : Bool}

def Decoded.read (d : Decoded) (c : Container) : Decoded :=
  { d with containers := d.containers ++ [c] }.decodeKnown c

def leftover : Bytes → Container
  | id0 :: id1 :: _ :: rest => ⟨(be16 id0 id1).toUInt16, rest⟩
  | rest => { contents := rest }

theorem decodeLoop_container (hc : c.Fits) (fuel : Nat) (rest : Bytes) :
    decodeLoop strict (fuel + 1) d (c.encode ++ rest) = decodeLoop strict fuel (d.read c) rest := by
  have hid : (be16 (c.protocolID >>> 8).toUInt8 c.protocolID.toUInt8).toUInt16 = c.protocolID := by
    rw [be16_putUint16]
    exact UInt16.ofNat_toNat
  have hlen : c.contents.length.toUInt8.toNat = c.contents.length :=
    UInt8.toNat_ofNat_of_lt (Nat.lt_succ_of_le hc)
  simp only [Container.encode, putUint16, List.cons_append, List.nil_append, decodeLoop, hid, hlen]
  rw [if_neg (by simp), List.take_left, List.drop_left]
  rfl

theorem decodeLoop_cutOff (h : CutOff tail) (fuel : Nat) :
    decodeLoop strict (fuel + 1) d tail =
      if strict then none else some (d.setAside (leftover tail)) := by
  match tail, h with
  | [], h => exact absurd rfl h.1
  | [a], _ => rfl
  | [a, b], _ => rfl
  | id0 :: id1 :: l :: rest, h =>
    rw [decodeLoop]
    refine if_pos (Decidable.byContradiction fun hlen => ?_)
    have hl : (rest.take l.toNat).length = l.toNat := List.length_take_of_le (Nat.not_lt.mp hlen)
    refine h.2 ⟨(be16 id0 id1).toUInt16, rest.take l.toNat⟩ (rest.drop l.toNat) ?_ ?_
    · rw [Container.Fits, hl]
      exact Nat.le_of_lt_succ l.toNat_lt
    · rw [Container.encode, putUint16_be16, hl]
      simp

theorem length_encode (c : Container) : c.encode.length = c.contents.length + 3 := by
  simp [Container.encode, putUint16]

theorem decodeLoop_containers (hcs : ∀ c ∈ cs, c.Fits) (htail : tail = [] ∨ CutOff tail)
    (hfuel : (cs.flatMap Container.encode ++ tail).length ≤ fuel) :
    decodeLoop strict fuel d (cs.flatMap Container.encode ++ tail) =
      if tail = [] then some (cs.foldl Decoded.read d)
      else if strict then none
      else some ((cs.foldl Decoded.read d).setAside (leftover tail)) := by
  induction cs generalizing d fuel with
  | nil =>
    rcases htail with rfl | hcut
    · cases fuel <;> rfl
    obtain ⟨fuel, rfl⟩ : ∃ n, fuel = n + 1 :=
      Nat.exists_eq_add_one_of_ne_zero (by
        have := List.length_pos_iff.mpr hcut.1
        simp only [List.flatMap_nil, List.nil_append] at hfuel
        omega)
    rw [if_neg hcut.1]
    exact decodeLoop_cutOff hcut fuel
  | cons c cs ih =>
    have hc : c.Fits := hcs c List.mem_cons_self
    rw [List.flatMap_cons, List.append_assoc] at hfuel ⊢
    rw [List.length_append, length_encode] at hfuel
    obtain ⟨fuel, rfl⟩ : ∃ n, fuel = n + 1 := Nat.exists_eq_add_one_of_ne_zero (by omega)
    rw [decodeLoop_container hc]
    grind

theorem exists_containers (b : Bytes) :
    ∃ (cs : List Container) (tail : Bytes), (∀ c ∈ cs, c.Fits) ∧
      b = cs.flatMap Container.encode ++ tail ∧ (tail = [] ∨ CutOff tail) := by
  by_cases hnil : b = []
  · exact ⟨[], b, fun c h => absurd h List.not_mem_nil, rfl, .inl hnil⟩
  by_cases hcut : CutOff b
  · exact ⟨[], b, fun c h => absurd h List.not_mem_nil, rfl, .inr hcut⟩
  obtain ⟨c, rest, hc, heq⟩ : ∃ c rest, Container.Fits c ∧ b = c.encode ++ rest := by
    refine Classical.byContradiction fun hno => hcut ⟨hnil, fun c rest hc heq => ?_⟩
    grind
  obtain ⟨cs, tail, hcs, hrest, htail⟩ := exists_containers rest
  refine ⟨c :: cs, tail, ?_, ?_, htail⟩
  rotate_left
  · simp_all
  simp_all
termination_by b.length
decreasing_by
  rw [heq, List.length_append, length_encode]
  omega

theorem setAside_if (p : Prop) [Decidable p] (d : Decoded) (c : Container) :
    ∃ unsupported, (if p then d.setAside c else d) = { d with unsupported } := by
  split
  · exact ⟨_, rfl⟩
  · exact ⟨_, rfl⟩

theorem read_eq (d : Decoded) (c : Container) :
    ∃ unsupported, d.read c = { d with
      containers := d.containers ++ [c]
      dnsV4 := d.dnsV4 ++ c.addresses containerDNSIPv4 4 fun x => .v4 (be32 x)
      pcscfV4 := d.pcscfV4 ++ c.addresses containerPCSCFIPv4 4 fun x => .v4 (be32 x)
      dnsV6 := d.dnsV6 ++ c.addresses containerDNSIPv6 16 ip16
      pcscfV6 := d.pcscfV6 ++ c.addresses containerPCSCFIPv6 16 ip16
      unsupported } := by
  obtain ⟨id, contents⟩ := c
  let c : Container := ⟨id, contents⟩
  let d' : Decoded := { d with containers := d.containers ++ [c] }
  obtain ⟨u4, h4⟩ := setAside_if (contents.length % 4 ≠ 0) d' c
  obtain ⟨u16, h16⟩ := setAside_if (contents.length % 16 ≠ 0) d' c
  simp only [d', c] at h4 h16
  simp only [Decoded.read, Decoded.decodeKnown, Container.addresses, ipv4List_eq, ipv6List_eq, h4,
    h16]
  by_cases h1 : id = containerDNSIPv4
  · exact ⟨u4, by simp +decide [h1]⟩
  by_cases h2 : id = containerPCSCFIPv4
  · exact ⟨u4, by simp +decide [h2]⟩
  by_cases h3 : id = containerDNSIPv6
  · exact ⟨u16, by simp +decide [h3]⟩
  by_cases h5 : id = containerPCSCFIPv6
  · simp_all
  exact ⟨d.unsupported ++ [⟨id, contents⟩], by simp [h1, h2, h3, h5, Decoded.setAside]⟩

theorem foldl_read_pco (cs : List Container) (d : Decoded) :
    (cs.foldl Decoded.read d).pco = ⟨d.extension, d.containers ++ cs⟩ := by
  induction cs generalizing d with
  | nil => rw [List.append_nil]; rfl
  | cons c cs ih =>
    obtain ⟨unsupported, hread⟩ := read_eq d c
    simp_all

theorem foldl_read_list {part : Decoded → List IP} {adds : Container → List IP}
    (h : ∀ d c, part (d.read c) = part d ++ adds c) (cs : List Container) (d : Decoded) :
    part (cs.foldl Decoded.read d) = part d ++ cs.flatMap adds := by
  induction cs generalizing d with
  | nil => rw [List.flatMap_nil, List.append_nil]; rfl
  | cons c cs ih => rw [List.foldl_cons, ih, h, List.flatMap_cons, List.append_assoc]

end Reading

structure Decoded.Lists (d : Decoded) (cs : List Container) : Prop where
  dnsV4 : d.dnsV4 = cs.flatMap (Container.addresses containerDNSIPv4 4 fun x => .v4 (be32 x))
  pcscfV4 : d.pcscfV4 = cs.flatMap (Container.addresses containerPCSCFIPv4 4 fun x => .v4 (be32 x))
  dnsV6 : d.dnsV6 = cs.flatMap (Container.addresses containerDNSIPv6 16 ip16)
  pcscfV6 : d.pcscfV6 = cs.flatMap (Container.addresses containerPCSCFIPv6 16 ip16)

theorem foldl_read_lists (cs : List Container) (ext : Bool) :
    (cs.foldl Decoded.read { extension := ext }).Lists cs := by
  constructor
  all_goals
    refine foldl_read_list (fun d c => ?_) cs _
    obtain ⟨unsupported, hread⟩ := read_eq d c
    rw [hread]

theorem decode_containers {tail : Bytes} (hcs : ∀ c ∈ cs, c.Fits) (htail : tail = [] ∨ CutOff tail)
    (first : UInt8) (strict : Bool) :
    decode (first :: (cs.flatMap Container.encode ++ tail)) strict =
      let d := cs.foldl Decoded.read { extension := first &&& 0x80 ≠ 0 }
      if tail = [] then if strict && d.unsupported ≠ [] then none else some (some d)
      else if strict then none else some (some (d.setAside (leftover tail))) := by
  rw [decode, decodeLoop_containers hcs htail (Nat.le_refl _)]
  grind

theorem encode_eq {p : PCO} (h : ∀ c ∈ p.containers, c.Fits) :
    encode p =
      some ((if p.extension then 0x80 else 0) :: p.containers.flatMap Container.encode) := by
  refine if_neg fun hlarge => ?_
  obtain ⟨c, hc, hlen⟩ := List.any_eq_true.mp hlarge
  exact Nat.not_lt.mpr (h c hc) (of_decide_eq_true hlen)

theorem extension_octet (first : UInt8) :
    (if decide (first &&& 0x80 ≠ 0) = true then 0x80 else 0) = first &&& 0x80 := by
  revert first
  exact forall_byte (by decide +kernel)

theorem extension_flag (e : Bool) :
    decide ((if e then 0x80 else 0 : UInt8) &&& 0x80 ≠ 0) = e := by
  cases e <;> decide

theorem not_truncated (hcs : ∀ c ∈ cs, c.Fits) : ¬Truncated (cs.flatMap Container.encode) := by
  rintro ⟨cs', tail, hcs', heq, hcut⟩
  have hwhole : decodeLoop true (cs.flatMap Container.encode).length { extension := false }
      (cs.flatMap Container.encode) = some (cs.foldl Decoded.read { extension := false }) := by
    have h : decodeLoop true _ { extension := false } (cs.flatMap Container.encode ++ []) = _ :=
      decodeLoop_containers hcs (.inl rfl) (Nat.le_refl _)
    simp_all
  rw [heq, decodeLoop_containers hcs' (.inr hcut) (Nat.le_refl _), if_neg hcut.1] at hwhole
  cases hwhole

/-- What is encoded is decoded again, and what is decoded whole is encoded again. -/
theorem pco_round_trip :
    (∀ p : PCO, (∀ c ∈ p.containers, c.contents.length ≤ 255) →
      ∃ b d, encode p = some b ∧ decode b false = some (some d) ∧ d.pco = p ∧
        d.Lists p.containers) ∧
    ∀ (first : UInt8) (rest : Bytes), ∃ d, decode (first :: rest) false = some (some d) ∧
      (encode d.pco = some ((first &&& 0x80) :: rest) ↔ ¬Truncated rest) := by
  constructor
  · intro p hfits
    refine ⟨_, p.containers.foldl Decoded.read { extension := p.extension }, encode_eq hfits, ?_,
      ?_, foldl_read_lists _ _⟩
    · have h := decode_containers hfits (.inl rfl) (if p.extension then 0x80 else 0) false
      rwa [List.append_nil, extension_flag, if_pos rfl] at h
    · rw [foldl_read_pco, List.nil_append]
  · intro first rest
    obtain ⟨cs, tail, hcs, rfl, htail⟩ := exists_containers rest
    have hpco := foldl_read_pco cs { extension := decide (first &&& 0x80 ≠ 0) }
    have hencode : encode (cs.foldl Decoded.read { extension := decide (first &&& 0x80 ≠ 0) }).pco
        = some ((first &&& 0x80) :: cs.flatMap Container.encode) := by
      rw [hpco, List.nil_append, encode_eq hcs, extension_octet]
    rw [decode_containers hcs htail]
    rcases htail with rfl | hcut
    · refine ⟨_, rfl, ?_⟩
      rw [List.append_nil]
      exact iff_of_true hencode (not_truncated hcs)
    rw [if_neg hcut.1]
    refine ⟨_, rfl, iff_of_false (fun h => hcut.1 ?_) fun h => h ⟨cs, tail, hcs, rfl, hcut⟩⟩
    have h' := Option.some.inj (hencode.symm.trans h)
    exact List.self_eq_append_right.mp (List.cons.inj h').2

def dnsAnswer : PCO where
  extension := true
  containers := [⟨containerDNSIPv4, [8, 8, 8, 8, 8, 8, 4, 4, 0]⟩, ⟨0x0010, [5, 120]⟩]

theorem pco_round_trip_dns :
    (∀ c ∈ dnsAnswer.containers, c.contents.length ≤ 255) ∧
      ∃ b d, encode dnsAnswer = some b ∧ decode b false = some (some d) ∧ d.pco = dnsAnswer ∧
        d.Lists dnsAnswer.containers :=
  ⟨by decide, pco_round_trip.1 dnsAnswer (by decide)⟩

theorem decode_strict (payload : Bytes) :
    decode payload true =
      (decode payload false).filter fun r => r.all fun d => d.unsupported = [] := by
  cases payload with
  | nil => rfl
  | cons first rest =>
    obtain ⟨cs, tail, hcs, rfl, htail⟩ := exists_containers rest
    rw [decode_containers hcs htail, decode_containers hcs htail]
    generalize cs.foldl Decoded.read { extension := decide (first &&& 0x80 ≠ 0) } = d
    by_cases hnil : tail = []
    · grind
    · simp [hnil, Decoded.setAside, Option.filter_some]

/-- Strict mode accepts what lenient mode decodes with nothing set aside. -/
theorem strict_iff_lenient (payload : Bytes) (r : Option Decoded) :
    decode payload true = some r ↔
      decode payload false = some r ∧ ∀ d, r = some d → d.unsupported = [] := by
  rw [decode_strict, Option.filter_eq_some_iff]
  refine and_congr_right fun _ => ?_
  cases r with
  | none => simp
  | some d => simp

theorem decode_lenient (first : UInt8) (rest : Bytes) :
    ∃ d, decode (first :: rest) false = some (some d) := by
  obtain ⟨cs, tail, hcs, rfl, htail⟩ := exists_containers rest
  rw [decode_containers hcs htail]
  by_cases hnil : tail = []
  · simp_all
  · simp_all

theorem mem_addresses_isV4 {id : UInt16} {a : IP}
    (h : a ∈ cs.flatMap (Container.addresses id 4 fun x => .v4 (be32 x))) : a.isV4 = true := by
  obtain ⟨c, -, hmem⟩ := List.mem_flatMap.mp h
  rw [Container.addresses] at hmem
  split at hmem
  · obtain ⟨x, -, rfl⟩ := List.mem_map.mp hmem
    rfl
  · cases hmem

theorem decode_isV4 {payload : Bytes} {d : Decoded} (h : decode payload false = some (some d)) :
    (∀ a ∈ d.dnsV4, a.isV4 = true) ∧ ∀ a ∈ d.pcscfV4, a.isV4 = true := by
  cases payload with
  | nil => cases h
  | cons first rest =>
    obtain ⟨cs, tail, hcs, rfl, htail⟩ := exists_containers rest
    have hlists := foldl_read_lists cs (decide (first &&& 0x80 ≠ 0))
    have hd : d.dnsV4 = (cs.foldl Decoded.read { extension := first &&& 0x80 ≠ 0 }).dnsV4 ∧
        d.pcscfV4 = (cs.foldl Decoded.read { extension := first &&& 0x80 ≠ 0 }).pcscfV4 := by
      rw [decode_containers hcs htail] at h
      by_cases hnil : tail = []
      · simp_all
      · cases (if_neg hnil).symm.trans h
        exact ⟨rfl, rfl⟩
    rw [hd.1, hd.2, hlists.dnsV4, hlists.pcscfV4]
    exact ⟨fun a => mem_addresses_isV4, fun a => mem_addresses_isV4⟩

end Epdg.Pco
