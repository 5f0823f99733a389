import Epdg.Diameter.Codec

/-!
Diameter messages through `Encode` and `DecodeMessage`.

The bytes of an AVP list are described with the padding as a parameter. `DecodeAVPs` accepts
exactly what is of that form, whatever the padding holds; `AVP.Encode` writes the form with
zeros. Both round trips meet there.
-/
namespace Epdg.Diameter
open Bytes
variable {l : List (AVP × Bytes)} {m : Message} {fuel : Nat} {avps : List AVP} {a : AVP}

theorem le_pad4 (n : Nat) : n ≤ pad4 n := by
  simp only [pad4]
  split <;> omega

def AVP.header (a : AVP) : Bytes :=
  putUint32 a.code ++ [a.flags] ++ put24 a.length.toUInt32 ++
    (if a.vendorID ≠ 0 then putUint32 a.vendorID else [])

def AVP.padding (a : AVP) : Nat := pad4 a.length - a.length

structure AVP.Sound (a : AVP) : Prop where
  vendor : a.flags &&& flagVendorAVP ≠ 0 ↔ a.vendorID ≠ 0
  length : a.length < 2 ^ 24

def wires (l : List (AVP × Bytes)) : Bytes := l.flatMap fun x => x.1.header ++ x.1.data ++ x.2

def Padded (l : List (AVP × Bytes)) : Prop :=
  ∀ x ∈ l, x.1.Sound ∧ x.2.length = x.1.padding

section
variable {a : AVP} {p : Bytes}

theorem header_length (a : AVP) : a.header.length = a.headerSize := by
  simp only [AVP.header, AVP.headerSize]
  split <;> simp [putUint32_eq, put24]

theorem wire_length (hp : p.length = a.padding) :
    (a.header ++ a.data ++ p).length = pad4 a.length := by
  have hle := le_pad4 a.length
  have hlen : a.length = a.headerSize + a.data.length := rfl
  rw [List.length_append, List.length_append, header_length, hp, AVP.padding]
  omega

theorem decodeAVPsLoop_wire (ha : a.Sound) (hp : p.length = a.padding) (rest : Bytes)
    (fuel : Nat) :
    decodeAVPsLoop (fuel + 1) (a.header ++ a.data ++ p ++ rest) =
      (decodeAVPsLoop fuel rest).map (a :: ·) := by
  let v : Bytes := if a.vendorID ≠ 0 then putUint32 a.vendorID else []
  let n : UInt32 := a.length.toUInt32
  have hn : be24 (n >>> 16).toUInt8 (n >>> 8).toUInt8 n.toUInt8 = a.length := by
    have hlt := ha.length
    have htoNat : n.toNat = a.length := Nat.mod_eq_of_lt (by omega)
    rw [be24_shifts (by omega), htoNat]
  have hheader : a.header = [(a.code >>> 24).toUInt8, (a.code >>> 16).toUInt8,
      (a.code >>> 8).toUInt8, a.code.toUInt8, a.flags, (n >>> 16).toUInt8, (n >>> 8).toUInt8,
      n.toUInt8] ++ v := by
    simp only [AVP.header, putUint32_eq, put24]
    rfl
  have hcode : be32 [(a.code >>> 24).toUInt8, (a.code >>> 16).toUInt8, (a.code >>> 8).toUInt8,
      a.code.toUInt8] = a.code := by
    have h := be32_putUint32 a.code []
    rwa [putUint32_eq] at h
  have hlen : a.length = a.headerSize + a.data.length := rfl
  have hpad := le_pad4 a.length
  have hbytes : (a.header ++ a.data ++ p ++ rest).length = pad4 a.length + rest.length := by
    rw [List.length_append, wire_length hp]
  have hdrop : (a.header ++ a.data ++ p ++ rest).drop (pad4 a.length) = rest :=
    List.drop_left' (wire_length hp)
  have htake : ((a.header ++ a.data ++ p ++ rest).take a.length).drop a.headerSize = a.data := by
    have hfront : (a.header ++ a.data).length = a.length := by
      rw [List.length_append, header_length, hlen]
    rw [List.append_assoc (a.header ++ a.data), List.take_left' hfront,
      List.drop_left' (header_length a)]
  have hvendor : a.vendorID ≠ 0 →
      be32 ((a.header ++ a.data ++ p ++ rest).drop 8) = a.vendorID := by
    intro hv
    have hdrop8 : (a.header ++ a.data ++ p ++ rest).drop 8 =
        putUint32 a.vendorID ++ (a.data ++ p ++ rest) := by
      rw [hheader]
      simp [v, hv]
    rw [hdrop8, be32_putUint32]
  obtain ⟨x, hx⟩ : ∃ x, a.header ++ a.data ++ p ++ rest = (a.code >>> 24).toUInt8 ::
      (a.code >>> 16).toUInt8 :: (a.code >>> 8).toUInt8 :: a.code.toUInt8 :: a.flags ::
      (n >>> 16).toUInt8 :: (n >>> 8).toUInt8 :: n.toUInt8 :: x :=
    ⟨v ++ a.data ++ p ++ rest, by rw [hheader]; simp⟩
  rw [hx] at hbytes hdrop htake hvendor ⊢
  simp only [decodeAVPsLoop, hcode, hn, hbytes, hdrop]
  by_cases hv : a.vendorID = 0
  · have hflag : ¬a.flags &&& flagVendorAVP ≠ 0 := fun h => ha.vendor.mp h hv
    have hsize : a.headerSize = 8 := by simp [AVP.headerSize, hv]
    rw [hsize] at htake hlen
    simp only [hflag, false_and, if_false, htake]
    rw [if_neg (by omega), if_neg (by omega), ← hv]
  have hflag : a.flags &&& flagVendorAVP ≠ 0 := ha.vendor.mpr hv
  have hsize : a.headerSize = 12 := by simp [AVP.headerSize, hv]
  rw [hsize] at htake hlen
  simp only [hflag, hvendor hv, htake, hv, ne_eq, not_false_eq_true, true_and, if_true,
    if_false]
  rw [if_neg (by omega), if_neg (by omega), if_neg (by omega)]

private theorem take_drop_take (d : Bytes) {i j : Nat} (h : i ≤ j) :
    d.take i ++ (d.take j).drop i ++ d.drop j = d := by
  have hi : (d.take j).take i = d.take i := by rw [List.take_take, Nat.min_eq_left h]
  rw [← hi, List.take_append_drop, List.take_append_drop]

theorem front_cut {d : Bytes} {n : Nat} (hsize : a.headerSize ≤ n)
    (hdata : a.data = (d.take n).drop a.headerSize) (hd : pad4 n ≤ d.length)
    (hheader : a.length = n → a.header = d.take a.headerSize) :
    a.length = n ∧ d = a.header ++ a.data ++ (d.take (pad4 n)).drop n ++ d.drop (pad4 n) ∧
      ((d.take (pad4 n)).drop n).length = a.padding := by
  have hpad := le_pad4 n
  have hlen : a.length = n := by
    rw [AVP.length, hdata, List.length_drop, List.length_take]
    omega
  refine ⟨hlen, ?_, ?_⟩
  · have hfront : a.header ++ a.data = d.take n := by
      have htake : d.take a.headerSize = (d.take n).take a.headerSize := by
        rw [List.take_take, Nat.min_eq_left hsize]
      simp_all
    rw [hfront, take_drop_take d hpad]
  · rw [List.length_drop, List.length_take, AVP.padding, hlen]
    omega

theorem decodeAVPsLoop_cons {b : UInt8} {bs : Bytes}
    (h : decodeAVPsLoop (fuel + 1) (b :: bs) = some avps) :
    ∃ a p rest avps', avps = a :: avps' ∧ b :: bs = a.header ++ a.data ++ p ++ rest ∧
      a.Sound ∧ p.length = a.padding ∧ decodeAVPsLoop fuel rest = some avps' := by
  simp only [decodeAVPsLoop] at h
  split at h
  · rename_i c0 c1 c2 c3 flags l0 l1 l2 x hd
    rw [hd] at h ⊢
    have hcode := putUint32_be32 c0 c1 c2 c3 []
    have hlength : put24 (be24 l0 l1 l2).toUInt32 = [l0, l1, l2] := shifts_be24 l0 l1 l2
    have hlt := be24_lt l0 l1 l2
    by_cases hv : flags &&& flagVendorAVP ≠ 0
    · simp only [hv, ne_eq, not_false_eq_true, true_and, if_true, Option.ite_none_left_eq_some,
        Option.map_eq_some_iff] at h
      obtain ⟨hshort, hzero, hbounds, hpadded, avps', hrest, rfl⟩ := h
      rw [not_or] at hbounds
      obtain ⟨v0, v1, v2, v3, y, rfl⟩ := four_front (x := x) (by simp at hshort; omega)
      let a : AVP := ⟨be32 [c0, c1, c2, c3], be32 (v0 :: v1 :: v2 :: v3 :: y), flags,
        ((c0 :: c1 :: c2 :: c3 :: flags :: l0 :: l1 :: l2 :: v0 :: v1 :: v2 :: v3 :: y).take
          (be24 l0 l1 l2)).drop 12⟩
      have hid : a.vendorID ≠ 0 := hzero
      have hsize : a.headerSize = 12 := by simp [AVP.headerSize, hid]
      have hheader : a.length = be24 l0 l1 l2 →
          a.header = [c0, c1, c2, c3, flags, l0, l1, l2, v0, v1, v2, v3] := by
        intro hlen
        rw [AVP.header, hlen, hlength, hcode, if_pos hid, putUint32_be32]
        rfl
      obtain ⟨hlen, hcut, hpad⟩ := front_cut (a := a)
        (d := c0 :: c1 :: c2 :: c3 :: flags :: l0 :: l1 :: l2 :: v0 :: v1 :: v2 :: v3 :: y)
        (n := be24 l0 l1 l2) (by omega) (by rw [hsize]) (Nat.not_lt.mp hpadded)
        (fun hlen => by rw [hheader hlen, hsize]; rfl)
      exact ⟨a, _, _, avps', rfl, hcut, ⟨⟨fun _ => hid, fun _ => hv⟩, hlen ▸ hlt⟩, hpad, hrest⟩
    · simp only [hv, false_and, if_false, Option.ite_none_left_eq_some,
        Option.map_eq_some_iff] at h
      obtain ⟨hbounds, hpadded, avps', hrest, rfl⟩ := h
      let a : AVP := ⟨be32 [c0, c1, c2, c3], 0, flags,
        ((c0 :: c1 :: c2 :: c3 :: flags :: l0 :: l1 :: l2 :: x).take (be24 l0 l1 l2)).drop 8⟩
      have hheader : a.length = be24 l0 l1 l2 →
          a.header = [c0, c1, c2, c3, flags, l0, l1, l2] := by
        intro hlen
        rw [AVP.header, hlen, hlength, hcode]
        rfl
      obtain ⟨hlen, hcut, hpad⟩ := front_cut (a := a)
        (d := c0 :: c1 :: c2 :: c3 :: flags :: l0 :: l1 :: l2 :: x) (n := be24 l0 l1 l2)
        (show 8 ≤ be24 l0 l1 l2 by omega) rfl (Nat.not_lt.mp hpadded)
        (fun hlen => hheader hlen)
      exact ⟨a, _, _, avps', rfl, hcut, ⟨⟨fun h => (hv h).elim, fun h => (h rfl).elim⟩, hlen ▸ hlt⟩,
        hpad, hrest⟩
  · cases h

end

/-! ### AVP lists -/

theorem wires_cons (x : AVP × Bytes) (l : List (AVP × Bytes)) :
    wires (x :: l) = x.1.header ++ x.1.data ++ x.2 ++ wires l := rfl

theorem Padded.tail {x : AVP × Bytes} (h : Padded (x :: l)) :
    Padded l := fun y hy => h y (List.mem_cons_of_mem x hy)

theorem length_le_wires (l : List (AVP × Bytes)) : l.length ≤ (wires l).length := by
  induction l with
  | nil => exact Nat.le_refl 0
  | cons x l ih =>
    have hsize : 8 ≤ x.1.header.length := by
      rw [header_length, AVP.headerSize]
      split <;> omega
    rw [wires_cons]
    simp only [List.length_cons, List.length_append]
    omega

theorem decodeAVPsLoop_wires (h : Padded l) (hf : l.length ≤ fuel)
    : decodeAVPsLoop fuel (wires l) = some (l.map Prod.fst) := by
  induction l generalizing fuel with
  | nil => cases fuel <;> rfl
  | cons x l ih =>
    obtain ⟨hsound, hpad⟩ := h x List.mem_cons_self
    cases fuel with
    | zero => cases hf
    | succ fuel =>
      rw [wires_cons, decodeAVPsLoop_wire hsound hpad,
        ih h.tail (Nat.le_of_succ_le_succ hf)]
      rfl

theorem decodeAVPs_wires (h : Padded l) : decodeAVPs (wires l) = some (l.map Prod.fst) :=
  decodeAVPsLoop_wires h (length_le_wires l)

theorem decodeAVPsLoop_sound {data : Bytes} (h : decodeAVPsLoop fuel data = some avps) :
    ∃ l, Padded l ∧ l.map Prod.fst = avps ∧ data = wires l := by
  induction fuel generalizing data avps with
  | zero =>
    cases data with
    | nil =>
      cases h
      exact ⟨[], nofun, rfl, rfl⟩
    | cons b bs => cases h
  | succ fuel ih =>
    cases data with
    | nil =>
      cases h
      exact ⟨[], nofun, rfl, rfl⟩
    | cons b bs =>
      obtain ⟨a, p, rest, avps', rfl, hdata, hsound, hpad, hrest⟩ := decodeAVPsLoop_cons h
      obtain ⟨l, hl, rfl, rfl⟩ := ih hrest
      refine ⟨(a, p) :: l, ?_, rfl, hdata⟩
      intro x hx
      cases hx with
      | head => exact ⟨hsound, hpad⟩
      | tail _ hx => exact hl x hx

/-! ### What `Encode` writes -/

def AVP.marked (a : AVP) : AVP :=
  if a.vendorID ≠ 0 then { a with flags := a.flags ||| flagVendorAVP } else a

def zeroPadded (avps : List AVP) : List (AVP × Bytes) :=
  avps.map fun a => (a, List.replicate a.padding 0)

theorem marked_length (a : AVP) : a.marked.length = a.length := by
  simp only [AVP.marked]
  split <;> rfl

theorem or_vendor_and (f : UInt8) : (f ||| flagVendorAVP) &&& flagVendorAVP ≠ 0 := by
  revert f
  exact forall_byte (by decide +kernel)

theorem or_vendor_eq (f : UInt8) : f &&& flagVendorAVP ≠ 0 → f ||| flagVendorAVP = f := by
  revert f
  exact forall_byte (by decide +kernel)

theorem marked_of_sound (h : a.Sound) : a.marked = a := by
  simp only [AVP.marked]
  split
  · rename_i hv
    rw [or_vendor_eq a.flags (h.vendor.mpr hv)]
  · rfl

theorem marked_sound (hv : a.flags &&& flagVendorAVP ≠ 0 → a.vendorID ≠ 0)
    (hlen : a.length < 2 ^ 24) : a.marked.Sound := by
  refine ⟨?_, (marked_length a).symm ▸ hlen⟩
  by_cases hz : a.vendorID = 0
  · have hflag : ¬a.flags &&& flagVendorAVP ≠ 0 := fun h => hv h hz
    simp only [AVP.marked, hz, ne_eq, not_true_eq_false, if_false, iff_false]
    exact hflag
  · simp only [AVP.marked, hz, ne_eq, not_false_eq_true, if_true, iff_true]
    exact or_vendor_and a.flags

theorem encode_eq_wire (a : AVP) :
    a.encode = a.marked.header ++ a.marked.data ++ List.replicate a.marked.padding 0 := by
  simp only [AVP.encode, AVP.header, AVP.padding, marked_length]
  by_cases hz : a.vendorID = 0
  · simp [AVP.marked, hz]
  · simp [AVP.marked, hz]

theorem flatMap_encode (avps : List AVP) :
    avps.flatMap AVP.encode = wires (zeroPadded (avps.map AVP.marked)) := by
  induction avps with
  | nil => rfl
  | cons a avps ih =>
    rw [List.flatMap_cons, ih, encode_eq_wire]
    rfl

theorem zeroPadded_padded (h : ∀ a ∈ avps, a.Sound) : Padded (zeroPadded avps) := by
  intro x hx
  obtain ⟨a, ha, rfl⟩ := List.mem_map.mp hx
  simp_all

theorem zeroPadded_fst (avps : List AVP) : (zeroPadded avps).map Prod.fst = avps := by
  simp [zeroPadded, Function.comp_def]

/-! ### Messages -/

def Message.header (m : Message) (length : Nat) : Bytes :=
  [version] ++ put24 length.toUInt32 ++ [m.flags] ++ put24 m.commandCode ++
    putUint32 m.appID ++ putUint32 m.hopByHop ++ putUint32 m.endToEnd

theorem message_header_length (m : Message) (length : Nat) :
    (m.header length).length = headerLen := by
  simp [Message.header, putUint32_eq, put24, headerLen]

theorem encode_eq_wires (m : Message) :
    m.encode = m.header (headerLen + (wires (zeroPadded (m.avps.map AVP.marked))).length) ++
      wires (zeroPadded (m.avps.map AVP.marked)) := by
  rw [Message.encode, flatMap_encode]
  rfl

section
variable (hl : Padded l) (havps : l.map Prod.fst = m.avps) (hcmd : m.commandCode.toNat < 2 ^ 24)
include hl havps hcmd

theorem decodeFull_wires (length : Nat) : decodeFull (m.header length ++ wires l) = some m := by
  have hcmd' : read24 (m.commandCode >>> 16).toUInt8 (m.commandCode >>> 8).toUInt8
      m.commandCode.toUInt8 = m.commandCode := by
    rw [read24, be24_shifts hcmd]
    exact UInt32.ofNat_toNat
  let ids : Bytes :=
    putUint32 m.appID ++ (putUint32 m.hopByHop ++ (putUint32 m.endToEnd ++ wires l))
  have hbytes : m.header length ++ wires l = version :: (length.toUInt32 >>> 16).toUInt8 ::
      (length.toUInt32 >>> 8).toUInt8 :: length.toUInt32.toUInt8 :: m.flags ::
      (m.commandCode >>> 16).toUInt8 :: (m.commandCode >>> 8).toUInt8 ::
      m.commandCode.toUInt8 :: ids := by
    simp [Message.header, put24, ids]
  have h4 : ids.drop 4 = putUint32 m.hopByHop ++ (putUint32 m.endToEnd ++ wires l) :=
    List.drop_left' rfl
  have h8 : ids.drop 8 = putUint32 m.endToEnd ++ wires l := by
    rw [← List.drop_drop (i := 4) (j := 4), h4]
    exact List.drop_left' rfl
  have h12 : ids.drop 12 = wires l := by
    rw [← List.drop_drop (i := 4) (j := 8), h8]
    exact List.drop_left' rfl
  have hlen : ¬ids.length < 12 := by simp [ids, putUint32_eq]
  have happ : be32 ids = m.appID := be32_putUint32 _ _
  rw [hbytes, decodeFull, if_neg hlen, h12, h8, h4, decodeAVPs_wires hl, havps, hcmd', happ,
    be32_putUint32, be32_putUint32]
  rfl

theorem decodeMessage_wires (hmax : headerLen + (wires l).length ≤ maxMessageLen) (rest : Bytes) :
    decodeMessage (m.header (headerLen + (wires l).length) ++ wires l ++ rest) =
      some (m, rest) := by
  let n : Nat := headerLen + (wires l).length
  have hn : be24 (n.toUInt32 >>> 16).toUInt8 (n.toUInt32 >>> 8).toUInt8 n.toUInt32.toUInt8 = n := by
    have hlt : n < 2 ^ 24 := Nat.lt_of_le_of_lt hmax (by decide)
    have htoNat : n.toUInt32.toNat = n := Nat.mod_eq_of_lt (by omega)
    rw [be24_shifts (by omega), htoNat]
  have hfull : (m.header n ++ wires l).length = n := by
    rw [List.length_append, message_header_length]
  have htake : (m.header n ++ wires l ++ rest).take n = m.header n ++ wires l :=
    List.take_left' hfull
  have hdrop : (m.header n ++ wires l ++ rest).drop n = rest := List.drop_left' hfull
  have hlong : ¬(m.header n ++ wires l ++ rest).length < n := by
    rw [List.length_append, hfull]
    omega
  obtain ⟨x, hx⟩ : ∃ x, m.header n ++ wires l ++ rest = version ::
      (n.toUInt32 >>> 16).toUInt8 :: (n.toUInt32 >>> 8).toUInt8 :: n.toUInt32.toUInt8 :: x :=
    ⟨_, by simp only [Message.header, put24, List.cons_append, List.nil_append]; rfl⟩
  change decodeMessage (m.header n ++ wires l ++ rest) = some (m, rest)
  rw [hx] at htake hdrop hlong ⊢
  simp only [decodeMessage, hn, ne_eq, not_true_eq_false, if_false, htake, hdrop]
  rw [if_neg (Nat.not_lt.mpr (Nat.le_add_right _ _)), if_neg (Nat.not_lt.mpr hmax), if_neg hlong,
    decodeFull_wires hl havps hcmd]
  rfl

end

theorem read24_toNat (b0 b1 b2 : UInt8) : (read24 b0 b1 b2).toNat = be24 b0 b1 b2 := by
  have hlt := be24_lt b0 b1 b2
  exact Nat.mod_eq_of_lt (by omega)

theorem put24_read24 (b0 b1 b2 : UInt8) : put24 (read24 b0 b1 b2) = [b0, b1, b2] :=
  shifts_be24 b0 b1 b2

theorem decodeFull_sound {b : Bytes} (h : decodeFull b = some m) :
    ∃ v l0 l1 l2 l, Padded l ∧ l.map Prod.fst = m.avps ∧ m.commandCode.toNat < 2 ^ 24 ∧
      b = v :: l0 :: l1 :: l2 :: m.flags :: (put24 m.commandCode ++ putUint32 m.appID ++
        putUint32 m.hopByHop ++ putUint32 m.endToEnd ++ wires l) := by
  simp only [decodeFull] at h
  split at h
  · rename_i v l0 l1 l2 flags c0 c1 c2 ids
    split at h
    · cases h
    rename_i hids
    obtain ⟨avps, havps, rfl⟩ := Option.map_eq_some_iff.mp h
    obtain ⟨a0, a1, a2, a3, ids, rfl⟩ := four_front (x := ids) (by omega)
    simp only [List.length_cons] at hids
    obtain ⟨h0, h1, h2, h3, ids, rfl⟩ := four_front (x := ids) (by omega)
    simp only [List.length_cons] at hids
    obtain ⟨e0, e1, e2, e3, payload, rfl⟩ := four_front (x := ids) (by omega)
    obtain ⟨l, hl, hfst, hpayload⟩ := decodeAVPsLoop_sound havps
    refine ⟨v, l0, l1, l2, l, hl, hfst, ?_, ?_⟩
    · rw [read24_toNat]
      exact be24_lt c0 c1 c2
    · simp only [List.drop_succ_cons, List.drop_zero, put24_read24, putUint32_be32] at hpayload ⊢
      rw [hpayload]
      rfl
  · cases h

theorem decodeMessage_sound {r rest : Bytes} (h : decodeMessage r = some (m, rest)) :
    ∃ l, Padded l ∧ l.map Prod.fst = m.avps ∧ m.commandCode.toNat < 2 ^ 24 ∧
      headerLen + (wires l).length ≤ maxMessageLen ∧
      r = m.header (headerLen + (wires l).length) ++ wires l ++ rest := by
  simp only [decodeMessage] at h
  split at h
  · rename_i ver l0 l1 l2 x
    simp only [Option.ite_none_left_eq_some, Option.map_eq_some_iff, Prod.mk.injEq] at h
    obtain ⟨hver, hmin, hmax, hlong, m', hfull, rfl, rfl⟩ := h
    obtain ⟨v, k0, k1, k2, l, hl, hfst, hcmd, hbytes⟩ := decodeFull_sound hfull
    have hn : headerLen + (wires l).length = be24 l0 l1 l2 := by
      have hlen := congrArg List.length hbytes
      simp only [List.length_take, List.length_cons, List.length_append, put24, putUint32_eq,
        List.length_nil] at hlen
      simp only [List.length_cons] at hlong
      rw [headerLen] at hmin ⊢
      omega
    have hfront : [v, k0, k1, k2] = [ver, l0, l1, l2] := by
      have htake := congrArg (List.take 4) hbytes
      rw [List.take_take, Nat.min_eq_left (by rw [headerLen] at hmin; omega)] at htake
      exact htake.symm
    refine ⟨l, hl, hfst, hcmd, by omega, ?_⟩
    have hheader : m'.header (headerLen + (wires l).length) ++ wires l =
        (ver :: l0 :: l1 :: l2 :: x).take (be24 l0 l1 l2) := by
      have hput : put24 (be24 l0 l1 l2).toUInt32 = [l0, l1, l2] := shifts_be24 l0 l1 l2
      have hv : ver = version := by simpa using hver
      cases hfront
      rw [hbytes, Message.header, hn, hput, hv]
      simp
    rw [hheader, List.take_append_drop]
  · cases h

end Epdg.Diameter
