import Epdg.S2b.Responses

/-!
The cache of Create Bearer Responses (`createBearerCache` in `internal/s2b/client.go`) and
`handleCreateBearerRequest` around it.
-/
namespace Epdg.S2b
variable {peer : UDPAddr} {req : Message} {c : Char}

structure AddrFormat where
  text : UDPAddr → List Char
  injective : Function.Injective text
  noBar : ∀ addr, '|' ∉ text addr

def decimal (n : Nat) : List Char := Nat.toDigits 10 n

def createBearerCacheKey (F : AddrFormat) (peer : UDPAddr) (req : Message) : List Char :=
  F.text peer ++ '|' :: (decimal req.teid.toNat ++ '|' ::
    (decimal req.sequence.toNat ++ '|' :: decimal req.type.toNat))

structure CacheEntry where
  encoded : Bytes
  expires : Nat
  deriving DecidableEq, Repr

abbrev ResponseCache := Table (List Char) CacheEntry

def cacheLifetime : Nat := 60 * 1000000000

def ResponseCache.purge (cache : ResponseCache) (now : Nat) : ResponseCache :=
  Table.filterValues cache fun entry => now ≤ entry.expires

def ResponseCache.store (cache : ResponseCache) (now : Nat) (key : List Char)
    (encoded : Bytes) : ResponseCache :=
  AList.insert key { encoded, expires := now + cacheLifetime } (cache.purge now)

structure CreateBearerOutcome where
  cache : ResponseCache
  ran : Option CreateBearerEvent := none
  answer : Option Bytes := none

def handleCreateBearerRequest (F : AddrFormat) (localGTPU : Option IP) (cache : ResponseCache)
    (now later : Nat) (peer : UDPAddr) (req : Message)
    (handler : CreateBearerEvent → CreateBearerResult) : CreateBearerOutcome :=
  let key := createBearerCacheKey F peer req
  let cache := cache.purge now
  match cache.lookup key with
  | some entry => { cache, answer := some entry.encoded }
  | none =>
    match parseCreateBearerRequest req with
    | none => { cache, answer := (rejection req msgCreateBearerResp).encode }
    | some event =>
      match (createBearerResponse localGTPU req event (handler event)).encode with
      | none => { cache, ran := some event }
      | some encoded =>
        { cache := cache.store later key encoded, ran := some event
          answer := some encoded }

theorem handleCreateBearerRequest_answer {F : AddrFormat} {localGTPU : Option IP}
    {cache : ResponseCache} {now later : Nat} {handler : CreateBearerEvent → CreateBearerResult}
    {event : CreateBearerEvent}
    (hmiss : (cache.purge now).lookup (createBearerCacheKey F peer req) = none)
    (hparse : parseCreateBearerRequest req = some event) :
    (handleCreateBearerRequest F localGTPU cache now later peer req handler).answer =
      (createBearerResponse localGTPU req event (handler event)).encode := by
  simp only [handleCreateBearerRequest, hmiss, hparse]
  grind

theorem decimal_injective : Function.Injective decimal := by
  intro m n h
  have hm : Nat.ofDigitChars 10 (decimal m) 0 = m :=
    Nat.ofDigitChars_toDigits (by decide) (by decide)
  rw [h] at hm
  exact hm.symm.trans (Nat.ofDigitChars_toDigits (by decide) (by decide))

theorem not_mem_decimal (hc : c.isDigit = false) (n : Nat) : c ∉ decimal n := by
  intro h
  have hd := Nat.isDigit_of_mem_toDigits (by decide) (by decide) h
  simp_all

private theorem separator_inj {s : Char} {a a' b b' : List Char} (ha : s ∉ a) (ha' : s ∉ a')
    (h : a ++ s :: b = a' ++ s :: b') : a = a' ∧ b = b' := by
  induction a generalizing a' with
  | nil =>
    cases a' with
    | nil => exact ⟨rfl, (List.cons.inj h).2⟩
    | cons c a' => simp_all
  | cons c a ih =>
    cases a' with
    | nil => grind
    | cons c' a' => grind

theorem createBearerCacheKey_inj (F : AddrFormat) {peer' : UDPAddr} {req' : Message} :
    createBearerCacheKey F peer req = createBearerCacheKey F peer' req' ↔
      peer = peer' ∧ req.teid = req'.teid ∧ req.sequence = req'.sequence ∧
        req.type = req'.type := by
  constructor
  · intro h
    have hbar := not_mem_decimal (c := '|') rfl
    obtain ⟨hp, h⟩ := separator_inj (F.noBar _) (F.noBar _) h
    obtain ⟨ht, h⟩ := separator_inj (hbar _) (hbar _) h
    obtain ⟨hs, hy⟩ := separator_inj (hbar _) (hbar _) h
    exact ⟨F.injective hp, UInt32.toNat_inj.mp (decimal_injective ht),
      UInt32.toNat_inj.mp (decimal_injective hs), UInt8.toNat_inj.mp (decimal_injective hy)⟩
  · rintro ⟨rfl, ht, hs, hy⟩
    simp only [createBearerCacheKey, ht, hs, hy]

private def ipText : IP → List Char
  | .v4 a => decimal a.toNat
  | .v6 hi lo => decimal hi.toNat ++ ':' :: decimal lo.toNat

private theorem not_mem_ipText (hc : c.isDigit = false) (hcolon : c ≠ ':') (ip : IP) :
    c ∉ ipText ip := by
  cases ip with
  | v4 a => exact not_mem_decimal hc _
  | v6 hi lo =>
    intro h
    rcases List.mem_append.mp h with h | h
    · exact not_mem_decimal hc _ h
    rcases List.mem_cons.mp h with h | h
    · exact hcolon h
    · exact not_mem_decimal hc _ h

private theorem ipText_injective : Function.Injective ipText := by
  have hcolon := not_mem_decimal (c := ':') rfl
  intro ip ip' h
  cases ip with
  | v4 a =>
    cases ip' with
    | v4 a' => rw [UInt32.toNat_inj.mp (decimal_injective h)]
    | v6 hi lo =>
      refine absurd ?_ (hcolon a.toNat)
      rw [show decimal a.toNat = _ from h]
      exact List.mem_append_right _ List.mem_cons_self
  | v6 hi lo =>
    cases ip' with
    | v4 a =>
      refine absurd ?_ (hcolon a.toNat)
      rw [show decimal a.toNat = _ from h.symm]
      exact List.mem_append_right _ List.mem_cons_self
    | v6 hi' lo' =>
      obtain ⟨hhi, hlo⟩ := separator_inj (hcolon _) (hcolon _) h
      rw [UInt64.toNat_inj.mp (decimal_injective hhi),
        UInt64.toNat_inj.mp (decimal_injective hlo)]

def AddrFormat.numeric : AddrFormat where
  text addr := ipText addr.ip ++ '/' :: decimal addr.port.toNat
  injective := by
    intro addr addr' h
    have hslash := not_mem_ipText (c := '/') rfl (by decide)
    obtain ⟨hip, hport⟩ := separator_inj (hslash _) (hslash _) h
    cases addr
    cases addr'
    rw [UDPAddr.mk.injEq]
    exact ⟨ipText_injective hip, UInt16.toNat_inj.mp (decimal_injective hport)⟩
  noBar := by
    intro addr h
    rcases List.mem_append.mp h with h | h
    · exact not_mem_ipText rfl (by decide) _ h
    rcases List.mem_cons.mp h with h | h
    · exact absurd h (by decide)
    · exact not_mem_decimal rfl _ h

end Epdg.S2b
