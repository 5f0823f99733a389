import Epdg.Ikev2.Walkers
import Epdg.Ikev2.Wire

/-!
The three payload walkers visit the same payloads.

`chain` is the walk with an empty `switch`. A walker whose `switch` refuses some payloads enters the
payloads of the chain up to the first of these.
-/
namespace Epdg.Ikev2
open Bytes

section Chain
variable {α : Type} {visit : α → UInt8 → Bytes → Option (Option α)}
  {next : α → UInt8 → Bytes → Option α} {plain : Bytes}

theorem walkAt_succ (rounds : Nat) (cur : UInt8) (off : Nat) (r : α) :
    walkAt visit plain (rounds + 1) cur off r =
      if ¬ (cur ≠ 0 ∧ off < plain.length) then ⟨[], r, .finished⟩
      else if off + 4 > plain.length then ⟨[], r, .truncated off⟩
      else
        let l := plain.uint16At (off + 2)
        if l < 4 ∨ off + l > plain.length then ⟨[], r, .invalidLength l off⟩
        else
          let body := (plain.take (off + l)).drop (off + 4)
          match visit r cur body with
          | none => ⟨[(cur, body)], r, .outOfRange⟩
          | some none => ⟨[(cur, body)], r, .refused⟩
          | some (some r) =>
            let w := walkAt visit plain rounds (plain.byteAt off) (off + l) r
            { w with visited := (cur, body) :: w.visited } := by
  rw [walkAt]
  split
  · rfl
  · split
    · rfl
    · rename_i h
      rw [index_eq (by omega), beUint16_slice (by omega)]
      dsimp only
      split
      · rfl
      · rename_i hl
        rw [slice_eq (by omega) (by omega)] <;> rfl

theorem walkAt_ends {rounds : Nat} {cur : UInt8} {off : Nat} {r : α} (hoff : off ≤ plain.length)
    (h : plain.length < off + rounds) {w : Walked α}
    (hw : walkAt (fun r type body => some (next r type body)) plain rounds cur off r = w) :
    w.exit = .finished ∨ w.exit.malformed = true ∨
      w.exit = .refused ∧ ∃ r type body, next r type body = none := by
  subst hw
  induction rounds generalizing cur off r with
  | zero => omega
  | succ rounds ih =>
    rw [walkAt_succ]
    split
    · exact .inl rfl
    · split
      · exact .inr (.inl rfl)
      · dsimp only
        split
        · exact .inr (.inl rfl)
        · grind

def chainAt (plain : Bytes) (rounds : Nat) (cur : UInt8) (off : Nat) : Walked Unit :=
  walkAt (fun _ _ _ => some (some ())) plain rounds cur off ()

def upTo {β : Type} (p : β → Bool) : List β → List β
  | [] => []
  | a :: l => if p a then [a] else a :: upTo p l

theorem upTo_false {β : Type} (l : List β) : upTo (fun _ => false) l = l := by
  induction l <;> simp_all [upTo]

theorem walkAt_chain {p : UInt8 × Bytes → Bool}
    (hnext : ∀ r type body, p (type, body) = false → ∃ r', visit r type body = some (some r'))
    (hrefused : ∀ r type body, p (type, body) = true → visit r type body = some none)
    (rounds : Nat) (cur : UInt8) (off : Nat) (r : α) :
    (walkAt visit plain rounds cur off r).visited = upTo p (chainAt plain rounds cur off).visited ∧
      (walkAt visit plain rounds cur off r).exit =
        if (chainAt plain rounds cur off).visited.any p then .refused
        else (chainAt plain rounds cur off).exit := by
  induction rounds generalizing cur off r with
  | zero => exact ⟨rfl, rfl⟩
  | succ rounds ih =>
    rw [chainAt, walkAt_succ, walkAt_succ]
    split
    · exact ⟨rfl, rfl⟩
    · split
      · exact ⟨rfl, rfl⟩
      · dsimp only
        split
        · exact ⟨rfl, rfl⟩
        · cases hp : p (cur, (plain.take (off + plain.uint16At (off + 2))).drop (off + 4)) with
          | false =>
            obtain ⟨r', hr'⟩ := hnext r _ _ hp
            rw [hr']
            simp only [upTo, List.any_cons, hp, Bool.false_or]
            exact ⟨congrArg _ (ih _ _ r').1, (ih _ _ r').2⟩
          | true =>
            rw [hrefused r _ _ hp]
            simp only [upTo, List.any_cons, hp, Bool.true_or, if_pos, and_self]

def Walked.finish {α : Type} (malformed : α → Option α) (w : Walked α) : Option α :=
  match w.exit with
  | .finished => some w.result
  | .truncated _ | .invalidLength _ _ => malformed w.result
  | _ => none

theorem finish_some {w : Walked α} (h : w.exit = .finished ∨ w.exit.malformed = true) :
    w.finish some = some w.result := by
  obtain ⟨visited, result, exit⟩ := w
  cases exit <;> simp_all [Walked.finish, Exit.malformed]

theorem finish_none {w : Walked α} (h : w.exit.malformed = true ∨ w.exit = .refused) :
    w.finish (fun _ => none) = none := by
  obtain ⟨visited, result, exit⟩ := w
  cases exit <;> simp_all [Walked.finish, Exit.malformed]

theorem bytes_at_drop {off : Nat} {type x l0 l1 : UInt8} {rest : Bytes}
    (h : plain.drop off = type :: x :: l0 :: l1 :: rest) :
    plain.byteAt off = type ∧ plain.uint16At (off + 2) = be16 l0 l1 := by
  have hfront : [type, x, l0, l1] <+: plain.drop off := ⟨rest, h.symm⟩
  have hbyte := fun i (hi : i < 4) => byteAt_front hfront (i := i) hi
  exact ⟨(hbyte 0 (by decide)).symm, by
    rw [uint16At, ← hbyte 2 (by decide), Nat.add_assoc, ← hbyte 3 (by decide)]; rfl⟩

theorem walkAt_eq_walkPayloads {malformed : α → Option α}
    {rounds fuel : Nat} {cur : UInt8} {off : Nat} {r : α} (hoff : off ≤ plain.length)
    (hrounds : plain.length < off + rounds) (hfuel : plain.length ≤ off + fuel) :
    (walkAt (fun r type body => some (next r type body)) plain rounds cur off r).finish malformed =
      walkPayloads next malformed fuel cur (plain.drop off) r := by
  induction rounds generalizing cur off r fuel with
  | zero => omega
  | succ rounds ih =>
    have hlen := @List.length_drop _ off plain
    rw [walkAt_succ]
    by_cases hstop : cur ≠ 0 ∧ off < plain.length
    · obtain ⟨hcur, hlt⟩ := hstop
      obtain ⟨fuel, rfl⟩ : ∃ n, fuel = n + 1 := ⟨fuel - 1, by omega⟩
      rw [if_neg (not_not_intro ⟨hcur, hlt⟩)]
      match hdrop : plain.drop off with
      | [] => simp only [hdrop, List.length_nil] at hlen; omega
      | [_] | [_, _] | [_, _, _] =>
        simp only [hdrop, List.length_cons, List.length_nil] at hlen
        rw [if_pos (by omega), walkPayloads, if_neg hcur]
        all_goals first | rfl | nofun
      | type :: x :: l0 :: l1 :: rest =>
        simp only [hdrop, List.length_cons] at hlen
        obtain ⟨htype, hl⟩ := bytes_at_drop hdrop
        rw [if_neg (by omega), walkPayloads, if_neg hcur, hl, htype, ← hdrop, List.length_drop]
        dsimp only
        split
        · rename_i hbad
          rw [if_pos (by omega)]
          rfl
        · rename_i hgood
          rw [if_neg (by omega), List.take_drop, List.drop_drop, List.drop_drop]
          cases next r cur ((plain.take (off + be16 l0 l1)).drop (off + 4)) with
          | none => rfl
          | some r => exact ih (by omega) (by omega) (by omega)
    · rw [if_pos hstop]
      cases fuel with
      | zero => rfl
      | succ fuel =>
        rw [walkPayloads.eq_def]
        dsimp only
        split
        · rfl
        · rename_i hcur
          rw [List.drop_eq_nil_of_le (Nat.le_of_not_lt fun hlt => hstop ⟨hcur, hlt⟩)]
          rfl

end Chain

section Switch
variable (C : Codec)

structure Successful : Prop where
  id : ∀ body, (C.unmarshalID body).isSome = true
  auth : ∀ body, (C.unmarshalAUTH body).isSome = true
  sa : ∀ body, (C.unmarshalSA body).isSome = true
  ts : ∀ body, (C.unmarshalTS body).isSome = true
  cp : ∀ body, (C.unmarshalCP body).isSome = true
  n : ∀ body, (C.unmarshalN body).isSome = true

def shortNotify (payload : UInt8 × Bytes) : Bool :=
  payload.1 = typeN &&
    (payload.2.length < 4 || (payload.2.byteAt 1).toNat > payload.2.length - 4)

theorem visitAuth_notify (r : AuthPayloads) (body : Bytes) :
    visitAuth C r typeN body =
      if body.length < 4 then none
      else if (body.byteAt 1).toNat > body.length - 4 then none
      else (C.unmarshalN body).map fun p => { r with notifies := r.notifies ++ [p] } := rfl

theorem switchAuth_eq (r : AuthPayloads) (type : UInt8) (body : Bytes) :
    switchAuth C r type body = some (visitAuth C r type body) := by
  rw [switchAuth]
  split
  · rename_i htype
    subst htype
    rw [visitAuth_notify]
    split
    · rfl
    · rw [index_eq (by omega), Option.bind_eq_bind, Option.bind_some]
      split <;> rfl
  · rfl

theorem visitInfo_notify (r : InfoPayloads) (p spiSize t0 t1 : UInt8) (rest : Bytes) :
    visitInfo C r typeN (p :: spiSize :: t0 :: t1 :: rest) =
      if (be16 t0 t1).toUInt16 = updateSAAddresses then { r with hasUpdateSA := true }
      else if (be16 t0 t1).toUInt16 = cookie2Notify ∧
          4 + spiSize.toNat ≤ (p :: spiSize :: t0 :: t1 :: rest).length then
        { r with cookie2 := (p :: spiSize :: t0 :: t1 :: rest).drop (4 + spiSize.toNat) }
      else r := rfl

theorem switchInfo_eq (r : InfoPayloads) (type : UInt8) (body : Bytes) :
    switchInfo C r type body = some (some (visitInfo C r type body)) := by
  rw [switchInfo]
  split
  · rename_i htype
    subst htype
    match body with
    | [] | [_] | [_, _] | [_, _, _] => rfl
    | p :: spiSize :: t0 :: t1 :: rest =>
      have hle : 4 ≤ (p :: spiSize :: t0 :: t1 :: rest).length := Nat.le_add_left 4 rest.length
      have hbytes : byteAt (p :: spiSize :: t0 :: t1 :: rest) 1 = spiSize ∧
          uint16At (p :: spiSize :: t0 :: t1 :: rest) 2 = be16 t0 t1 := ⟨rfl, rfl⟩
      rw [visitInfo_notify, if_pos hle, index_eq (by omega), beUint16_slice hle, hbytes.1, hbytes.2]
      dsimp only [Option.bind_eq_bind, Option.bind_some]
      by_cases hupdate : (be16 t0 t1).toUInt16 = updateSAAddresses
      · simp_all
      · rw [if_neg hupdate, if_neg hupdate]
        split
        · rename_i hdata
          rw [slice_eq hdata.2 (Nat.le_refl _), List.take_length]
          rfl
        · rfl
  · rfl

theorem visitAuth_isSome {C : Codec} (hC : Successful C) (r : AuthPayloads) (type : UInt8)
    (body : Bytes) : (visitAuth C r type body).isSome = !shortNotify (type, body) := by
  by_cases htype : type = typeN
  · subst htype
    rw [visitAuth_notify]
    simp only [shortNotify]
    split
    · simp_all
    · split <;> simp_all [hC.n]
  · have hshort : shortNotify (type, body) = false := by simp [shortNotify, htype]
    rw [hshort, visitAuth, if_neg htype]
    repeat' split
    all_goals simp [hC.id, hC.auth, hC.sa, hC.ts, hC.cp]

end Switch

section Agreement
variable {C : Codec} (firstType : UInt8) (plain : Bytes)

theorem authWalk_eq (C : Codec) : authWalk C firstType plain =
    walk (fun r type body => some (visitAuth C r type body)) firstType plain {} := by
  rw [authWalk]
  congr
  funext r type body
  exact switchAuth_eq C r type body

theorem infoWalk_eq (C : Codec) : infoWalk C firstType plain =
    walk (fun r type body => some (some (visitInfo C r type body))) firstType plain {} := by
  rw [infoWalk]
  congr
  funext r type body
  exact switchInfo_eq C r type body

theorem walk_finish {α : Type} (next : α → UInt8 → Bytes → Option α) (malformed : α → Option α)
    (r : α) : (walk (fun r type body => some (next r type body)) firstType plain r).finish malformed =
      walkPayloads next malformed plain.length firstType plain r :=
  walkAt_eq_walkPayloads (Nat.zero_le _) (by omega) (by omega)

theorem walk_total {α : Type} (next : α → UInt8 → Bytes → α) (r : α) :
    let w := walk (fun r type body => some (some (next r type body))) firstType plain r
    let chain := chainAt plain (plain.length + 1) firstType 0
    w.visited = chain.visited ∧ w.exit = chain.exit ∧
      (w.exit = .finished ∨ w.exit.malformed = true) ∧
      walkPayloads (fun r type body => some (next r type body)) some plain.length firstType plain r
        = some w.result := by
  intro w chain
  have hchain : w.visited = upTo (fun _ => false) chain.visited ∧
      w.exit = if chain.visited.any (fun _ => false) then .refused else chain.exit :=
    walkAt_chain (fun r type body _ => ⟨_, rfl⟩) nofun _ _ _ _
  rw [upTo_false, if_neg (by simp)] at hchain
  have hend : w.exit = .finished ∨ w.exit.malformed = true := by
    rcases walkAt_ends (Nat.zero_le _) (by omega) (rfl : _ = w) with h | h | ⟨-, _, _, _, h⟩
    · exact .inl h
    · exact .inr h
    · contradiction
  refine ⟨hchain.1, hchain.2, hend, ?_⟩
  rw [← walk_finish]
  exact finish_some hend

theorem childSAWalk_chain (C : Codec) :
    let c := childSAWalk C firstType plain
    let chain := chainAt plain (plain.length + 1) firstType 0
    c.visited = chain.visited ∧ c.exit = chain.exit ∧
      (c.exit = .finished ∨ c.exit.malformed = true) ∧
      parseChildSAPayloads C firstType plain = c.result := by
  obtain ⟨hvisited, hexit, hend, hresult⟩ := walk_total firstType plain (visitChildSA C) {}
  refine ⟨hvisited, hexit, hend, ?_⟩
  rw [parseChildSAPayloads, hresult]
  rfl

theorem infoWalk_chain (C : Codec) :
    let i := infoWalk C firstType plain
    let chain := chainAt plain (plain.length + 1) firstType 0
    i.visited = chain.visited ∧ i.exit = chain.exit ∧
      parseInfoPayloads C firstType plain = i.result := by
  rw [infoWalk_eq]
  obtain ⟨hvisited, hexit, -, hresult⟩ := walk_total firstType plain (visitInfo C) {}
  refine ⟨hvisited, hexit, ?_⟩
  rw [parseInfoPayloads, hresult]
  rfl

theorem authWalk_chain (hC : Successful C) :
    let chain := chainAt plain (plain.length + 1) firstType 0
    (authWalk C firstType plain).visited = upTo shortNotify chain.visited ∧
      (authWalk C firstType plain).exit =
        if chain.visited.any shortNotify then .refused else chain.exit := by
  rw [authWalk_eq]
  refine walkAt_chain ?_ ?_ _ _ _ _
  · intro r type body hshort
    have hsome := visitAuth_isSome hC r type body
    rw [hshort] at hsome
    obtain ⟨r', hr'⟩ := Option.isSome_iff_exists.mp hsome
    simp_all
  · intro r type body hshort
    have hnone := visitAuth_isSome hC r type body
    simp_all

theorem authWalk_ends (C : Codec) :
    let a := authWalk C firstType plain
    a.exit = .finished ∨ a.exit.malformed = true ∨ a.exit = .refused := by
  rw [authWalk_eq]
  exact (walkAt_ends (Nat.zero_le _) (by omega) rfl).imp_right (Or.imp_right And.left)

/-- Every walker ends, with all its index and slice expressions in range. Where the body decoders
succeed, `parseChildSAPayloads` and `parseInfoPayloads` visit the same payloads, up to a malformed
generic header; `parseAuthPayloads` visits these up to the first notification too short for it, and
reports an error at a malformed header. -/
theorem payload_walkers_agree (C : Codec) :
    let a := authWalk C firstType plain
    let c := childSAWalk C firstType plain
    let i := infoWalk C firstType plain
    (∀ exit ∈ [a.exit, c.exit, i.exit], exit ≠ .running ∧ exit ≠ .outOfRange) ∧
      (parseAuthPayloads C firstType plain = a.finish (fun _ => none) ∧
        parseChildSAPayloads C firstType plain = c.result ∧
        parseInfoPayloads C firstType plain = i.result) ∧
      (Successful C →
        c.visited = i.visited ∧ c.exit = i.exit ∧ (c.exit = .finished ∨ c.exit.malformed = true) ∧
          a.visited = upTo shortNotify c.visited ∧
          a.exit = (if c.visited.any shortNotify then .refused else c.exit) ∧
          (c.exit.malformed = true → parseAuthPayloads C firstType plain = none)) := by
  intro a c i
  obtain ⟨hcv, hce, hend, hc⟩ := childSAWalk_chain firstType plain C
  obtain ⟨hiv, hie, hi⟩ := infoWalk_chain firstType plain C
  rw [← hcv] at hiv
  rw [← hce] at hie
  have ha : parseAuthPayloads C firstType plain = a.finish fun _ => none := by
    rw [parseAuthPayloads, ← walk_finish, ← authWalk_eq]
  refine ⟨?_, ⟨ha, hc, hi⟩, fun hC => ?_⟩
  · have hinRange : ∀ {exit : Exit}, exit = .finished ∨ exit.malformed = true ∨ exit = .refused →
        exit ≠ .running ∧ exit ≠ .outOfRange := by
      intro exit h
      cases exit <;> simp_all [Exit.malformed]
    have hcEnd := hinRange (hend.imp_right .inl)
    intro exit hexit
    simp only [List.mem_cons, List.not_mem_nil, or_false] at hexit
    rcases hexit with rfl | rfl | rfl
    · exact hinRange (authWalk_ends firstType plain C)
    · exact hcEnd
    · exact hie ▸ hcEnd
  · obtain ⟨hav, hae⟩ := authWalk_chain firstType plain hC
    rw [← hcv] at hav hae
    rw [← hce] at hae
    refine ⟨hiv.symm, hie.symm, hend, hav, hae, fun hbad => ?_⟩
    rw [ha]
    apply finish_none
    rw [hae]
    split
    · exact .inr rfl
    · exact .inl hbad

end Agreement

def acceptingCodec : Codec :=
  { Wire.codec with
    unmarshalID := fun body => some ⟨0, body⟩
    unmarshalAUTH := some
    unmarshalSA := fun _ => some []
    unmarshalCP := fun _ => some ⟨0, []⟩
    unmarshalN := fun body => some ⟨0, body⟩ }

theorem acceptingCodec_successful : Successful acceptingCodec :=
  ⟨fun _ => rfl, fun _ => rfl, fun _ => rfl, fun _ => rfl, fun _ => rfl, fun _ => rfl⟩

/-- A header whose length does not cover it. -/
theorem payload_walkers_agree_short_length :
    Successful acceptingCodec ∧
      (childSAWalk acceptingCodec typeIDi [0, 0, 0, 3]).exit.malformed = true ∧
      parseAuthPayloads acceptingCodec typeIDi [0, 0, 0, 3] = none := by
  obtain ⟨-, -, h⟩ := payload_walkers_agree typeIDi [0, 0, 0, 3] acceptingCodec
  exact ⟨acceptingCodec_successful, rfl, (h acceptingCodec_successful).2.2.2.2.2 rfl⟩

/-- Two notifications with empty bodies: `parseAuthPayloads` returns an error at the first one, the
other walkers go on to the second. No header is malformed. -/
theorem short_notification_ends_walk :
    Successful acceptingCodec ∧
      (childSAWalk acceptingCodec typeN [typeN, 0, 0, 4, 0, 0, 0, 4]).exit = .finished ∧
      (infoWalk acceptingCodec typeN [typeN, 0, 0, 4, 0, 0, 0, 4]).visited =
        [(typeN, []), (typeN, [])] ∧
      (authWalk acceptingCodec typeN [typeN, 0, 0, 4, 0, 0, 0, 4]).visited = [(typeN, [])] :=
  ⟨acceptingCodec_successful, rfl, rfl, rfl⟩

end Epdg.Ikev2
