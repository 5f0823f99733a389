import Epdg.Ikev2.Cookie

/-!
Cookies under rotating secrets: one that was issued verifies for as long as a secret lives, and
one that verifies was computed for the same initiator under one of the two newest secrets.
-/
namespace Epdg.CookieState
open Ikev2 Bytes
variable {fresh : Bytes} {spiI : UInt64} {remote : UDPAddr}

section Lifetime
variable {P : Primitives} {c : CookieState} {secret : Bytes} {t t' : Time}

theorem keeps_call (h : c.holder.Keeps secret t) {a : Call} (hle : t ≤ a.now)
    (hin : a.now ≤ t + lifetime) : (c.call P a).holder.Keeps secret t := by
  cases a with
  | issue now fresh spiI remote =>
    rw [call, issue, holder_rotate]
    exact h.ask hle hin
  | verify now fresh received spiI remote =>
    rw [call, verifyAt]
    split
    · exact h
    · rw [holder_rotate]
      exact h.ask hle hin

theorem keeps_calls (h : c.holder.Keeps secret t) {cs : List Call} (hin : t' ≤ t + lifetime)
    (hcs : ∀ a ∈ cs, t ≤ a.now ∧ a.now ≤ t') : (c.calls P cs).holder.Keeps secret t := by
  induction cs generalizing c with
  | nil => exact h
  | cons a cs ih =>
    obtain ⟨hle, hlate⟩ := hcs a List.mem_cons_self
    refine ih (keeps_call h hle (Nat.le_trans hlate hin)) fun b hb => ?_
    simp_all

theorem hmac_ne_nil (P : Primitives) (secret : Bytes) (spiI : UInt64) (remote : UDPAddr) :
    hmac P secret spiI remote ≠ [] := by
  intro h
  have hlen := congrArg List.length h
  rw [hmac, P.hmac_length] at hlen
  cases hlen

theorem verifyAt_of_keeps (h : c.holder.Keeps secret t) (hle : t ≤ t') (hin : t' ≤ t + lifetime) :
    (c.verifyAt P t' (some fresh) (hmac P secret spiI remote) spiI remote).2 = true := by
  have hkept : (c.rotate t' (some fresh)).holder.Keeps secret t := by
    rw [holder_rotate]
    exact h.ask hle hin
  rw [verifyAt, if_neg (hmac_ne_nil P secret spiI remote)]
  simp only [verify, Bool.and_eq_true, Bool.or_eq_true, decide_eq_true_eq]
  refine ⟨hmac_ne_nil P secret spiI remote, ?_⟩
  rcases hkept.mem with rfl | rfl
  · exact .inl rfl
  · exact .inr rfl

end Lifetime

def TellsApart (P : Primitives) (secrets : List Bytes) : Prop :=
  ∀ s ∈ secrets, ∀ s' ∈ secrets, ∀ spiI spiI' remote remote',
    P.hmac .sha256 s (cookieInput spiI remote) = P.hmac .sha256 s' (cookieInput spiI' remote') →
      s = s' ∧ cookieInput spiI remote = cookieInput spiI' remote'

theorem verifyAt_accepted {P : Primitives} {c : CookieState} {now : Time} {received : Bytes}
    (h : (c.verifyAt P now (some fresh) received spiI remote).2 = true) :
    ∃ s, (s = (c.call P (.verify now fresh received spiI remote)).holder.current ∨
        s = (c.call P (.verify now fresh received spiI remote)).holder.previous) ∧
      received = hmac P s spiI remote := by
  rw [call]
  rw [verifyAt] at h ⊢
  split at h
  · cases h
  rename_i hne
  rw [if_neg hne]
  simp only [verify, Bool.and_eq_true, Bool.or_eq_true, decide_eq_true_eq] at h
  rcases h.2 with hcur | hprev
  · exact ⟨_, .inl rfl, hcur⟩
  · exact ⟨_, .inr rfl, hprev⟩

/-- From `newCookieState` on, a cookie verifies for its initiator until a lifetime after it was
issued, whatever calls come in between. A value that verifies was computed with one of the two
newest secrets for the same SPI, address and port, and for no others. -/
theorem cookies_verify (P : Primitives) (start : Time) (secret : Bytes) :
    (∀ before t fresh spiI remote c cookie between t' fresh',
      ((new start secret).calls P before).issue P t (some fresh) spiI remote = (c, cookie) →
      (∀ a ∈ between, t ≤ a.now ∧ a.now ≤ t') → t ≤ t' → t' ≤ t + lifetime →
      ((c.calls P between).verifyAt P t' (some fresh') cookie spiI remote).2 = true) ∧
    (∀ cs now fresh received spiI remote,
      (((new start secret).calls P cs).verifyAt P now (some fresh) received spiI remote).2 = true →
      ∀ drawn,
      (lineage start secret (cs ++ [.verify now fresh received spiI remote])).drawn = drawn →
      drawn.Nodup → TellsApart P drawn →
      (∃ i s, i < 2 ∧ drawn[i]? = some s ∧ received = hmac P s spiI remote) ∧
      ∀ i s spiI' remote', drawn[i]? = some s → received = hmac P s spiI' remote' →
        i < 2 ∧ spiI' = spiI ∧ remote' = remote) := by
  constructor
  · rintro before t fresh spiI remote c cookie between t' fresh' hissue hbetween hle hin
    cases hissue
    exact verifyAt_of_keeps (keeps_calls (.inl rfl) hin hbetween) hle hin
  · rintro cs now fresh received spiI remote hok drawn rfl hnodup htells
    generalize hl : lineage start secret (cs ++ [.verify now fresh received spiI remote]) = l
      at hnodup htells ⊢
    obtain ⟨s, hs, hreceived⟩ := verifyAt_accepted hok
    have hholder : (((new start secret).calls P cs).call P
        (.verify now fresh received spiI remote)).holder = l.toHolder := by
      rw [← hl, ← holder_calls P, calls, calls, List.foldl_append]
      rfl
    rw [hholder] at hs
    obtain ⟨i, hi, hget⟩ := l.drawn_two hs
    refine ⟨⟨i, s, hi, hget, hreceived⟩, ?_⟩
    intro j s' spiI' remote' hj hcomputed
    obtain ⟨rfl, hinput⟩ := htells s (List.mem_of_getElem? hget) s' (List.mem_of_getElem? hj)
      spiI spiI' remote remote' (hreceived.symm.trans hcomputed)
    obtain ⟨rfl, rfl⟩ := cookieInput_injective hinput
    exact ⟨Rotation.Lineage.lt_two_of_nodup hnodup hs hj, rfl, rfl⟩

/-! A keyed function that tells cookies apart, and a run with it. -/

def framed : Primitives where
  hmac h key data := (data.length.toUInt8 :: (data ++ (key ++ List.replicate 64 0))).take h.size
  hmac_length h _ _ := h.length_take_size (Nat.le_succ_of_le (by simp [← Nat.add_assoc]))
  sha1 b := b
  cbcDecrypt _ _ c := c
  gcmOpen _ _ c _ := some c
  dhPublicKey _ priv := priv
  dhSharedKey _ priv peer := some (priv ++ peer)

theorem tellsApart_framed {secrets : List Bytes}
    (h : ∀ s ∈ secrets, ∀ s' ∈ secrets, s.headD 0 = s'.headD 0 → s = s') :
    TellsApart framed secrets := by
  intro s hs s' hs' spiI spiI' remote remote' heq
  generalize hd : cookieInput spiI remote = d at heq ⊢
  generalize hd' : cookieInput spiI' remote' = d' at heq ⊢
  have hlen := length_cookieInput spiI remote
  have hlen' := length_cookieInput spiI' remote'
  rw [hd] at hlen
  rw [hd'] at hlen'
  simp only [framed, Hash.size, List.take_succ_cons, List.cons.injEq] at heq
  obtain ⟨hbyte, hrest⟩ := heq
  have hsame : d.length = d'.length := by
    rcases hlen with h1 | h1 <;> rcases hlen' with h2 | h2 <;> rw [h1, h2] at hbyte ⊢ <;>
      simp_all
  have hdata : d = d' := by
    have htake := congrArg (List.take d.length) hrest
    grind
  subst hdata
  refine ⟨h s hs s' hs' ?_, rfl⟩
  have hkey := congrArg (fun b : Bytes => b[d.length]?) hrest
  have hlt : d.length < 31 := by omega
  simp only [List.getElem?_take_of_lt hlt, List.getElem?_append_right (Nat.le_refl _),
    Nat.sub_self] at hkey
  have hhead : ∀ b : Bytes, (b ++ List.replicate 64 0)[0]? = some (b.headD 0) := by
    intro b
    cases b <;> rfl
  simp_all

def secretOf (n : UInt8) : Bytes := List.replicate 32 n

def initiatorV6 : UDPAddr := ⟨.v6 0x20010db800000000 1, 500⟩

/-- Issued after 200 s, with a rotation after 301 s, and verified after 500 s. After 302 s the value
of the older secret verifies, and is that of this initiator. -/
theorem cookies_verify_rotated :
    (((new 0 (secretOf 1)).calls framed
        [.issue (301 * Config.second) (secretOf 2) 8 initiatorV6]).verifyAt framed
        (500 * Config.second) (some (secretOf 3)) (hmac framed (secretOf 1) 7 initiatorV6) 7
        initiatorV6).2 = true ∧
    ∀ i s spiI' remote', [secretOf 2, secretOf 1][i]? = some s →
      hmac framed (secretOf 1) 7 initiatorV6 = hmac framed s spiI' remote' →
        i < 2 ∧ spiI' = 7 ∧ remote' = initiatorV6 := by
  have h := cookies_verify framed 0 (secretOf 1)
  refine ⟨h.1 [] (200 * Config.second) (secretOf 2) 7 initiatorV6 (new 0 (secretOf 1)) _ _ _ _ rfl
    (by decide) (by decide) (by decide), ?_⟩
  refine (h.2 [.issue (301 * Config.second) (secretOf 2) 8 initiatorV6] (302 * Config.second)
    (secretOf 3) (hmac framed (secretOf 1) 7 initiatorV6) 7 initiatorV6 ?_
    [secretOf 2, secretOf 1] (by decide) ?_ ?_).2
  · decide
  · decide
  · exact tellsApart_framed (by decide)

end Epdg.CookieState
