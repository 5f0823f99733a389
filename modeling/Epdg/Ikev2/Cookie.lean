import Epdg.Ikev2.Init
import Epdg.Lib.Rotation

/-!
The calls of `cookieState` (`internal/ikev2/cookie.go`). Both look at the secrets first, and thereby
rotate them when they are due; only `verify` of an empty value looks at nothing.
-/
namespace Epdg.CookieState
open Ikev2 Bytes

def new (now : Time) (secret : Bytes) : CookieState := ⟨secret, secret, now⟩

def issue (P : Primitives) (c : CookieState) (now : Time) (fresh : Option Bytes) (spiI : UInt64)
    (remote : UDPAddr) : CookieState × Bytes :=
  let c := c.rotate now fresh
  (c, hmac P c.secret spiI remote)

def verifyAt (P : Primitives) (c : CookieState) (now : Time) (fresh : Option Bytes)
    (received : Bytes) (spiI : UInt64) (remote : UDPAddr) : CookieState × Bool :=
  if received = [] then (c, false)
  else
    let c := c.rotate now fresh
    (c, c.verify P received spiI remote)

inductive Call where
  | issue (now : Time) (fresh : Bytes) (spiI : UInt64) (remote : UDPAddr)
  | verify (now : Time) (fresh received : Bytes) (spiI : UInt64) (remote : UDPAddr)
  deriving DecidableEq, Repr

def Call.now : Call → Time
  | issue now _ _ _ => now
  | verify now _ _ _ _ => now

def call (P : Primitives) (c : CookieState) : Call → CookieState
  | .issue now fresh spiI remote => (c.issue P now (some fresh) spiI remote).1
  | .verify now fresh received spiI remote =>
    (c.verifyAt P now (some fresh) received spiI remote).1

def calls (P : Primitives) (c : CookieState) (cs : List Call) : CookieState := cs.foldl (call P) c

/-! The secrets as a rotating pair. -/

def holder (c : CookieState) : Rotation.Holder Bytes := ⟨c.secret, c.prevSecret, c.rotatedAt⟩

theorem holder_rotate (c : CookieState) (now : Time) (fresh : Bytes) :
    (c.rotate now (some fresh)).holder = c.holder.ask lifetime now fresh := by
  unfold rotate Rotation.Holder.ask holder
  split <;> rfl

def Call.ask (l : Rotation.Lineage Bytes) : Call → Rotation.Lineage Bytes
  | issue now fresh _ _ => l.ask lifetime now fresh
  | verify now fresh received _ _ => if received = [] then l else l.ask lifetime now fresh

def lineage (start : Time) (secret : Bytes) (cs : List Call) : Rotation.Lineage Bytes :=
  cs.foldl Call.ask (.start secret start)

theorem holder_call (P : Primitives) {c : CookieState} {l : Rotation.Lineage Bytes}
    (h : c.holder = l.toHolder) (a : Call) : (c.call P a).holder = (a.ask l).toHolder := by
  cases a with
  | issue now fresh spiI remote =>
    simp only [call, issue, Call.ask, holder_rotate, Rotation.Lineage.toHolder_ask, h]
  | verify now fresh received spiI remote =>
    simp only [call, verifyAt, Call.ask]
    split
    · exact h
    · simp only [holder_rotate, Rotation.Lineage.toHolder_ask, h]

theorem holder_calls (P : Primitives) (start : Time) (secret : Bytes) (cs : List Call) :
    ((new start secret).calls P cs).holder = (lineage start secret cs).toHolder := by
  have hrun : ∀ (c : CookieState) (l : Rotation.Lineage Bytes), c.holder = l.toHolder →
      (c.calls P cs).holder = (cs.foldl Call.ask l).toHolder := by
    induction cs with
    | nil => exact fun _ _ h => h
    | cons a cs ih => exact fun c l h => ih (c.call P a) (a.ask l) (holder_call P h a)
  exact hrun _ _ rfl

/-! What a cookie is computed from. -/

def cookieInput (spiI : UInt64) (remote : UDPAddr) : Bytes :=
  putUint64 spiI ++ remote.ip.bytes ++ putUint16 remote.port

theorem cookieInput_injective {spiI spiI' : UInt64} {remote remote' : UDPAddr}
    (h : cookieInput spiI remote = cookieInput spiI' remote') :
    spiI = spiI' ∧ remote = remote' := by
  rw [cookieInput, cookieInput, List.append_assoc, List.append_assoc] at h
  obtain ⟨hspi, hrest⟩ := List.append_inj h rfl
  obtain ⟨hip, hport⟩ := List.append_inj' hrest rfl
  have hremote : remote = remote' := by
    cases remote
    cases remote'
    rw [UDPAddr.mk.injEq]
    exact ⟨IP.bytes_injective hip, putUint16_injective hport⟩
  exact ⟨putUint64_injective hspi, hremote⟩

theorem length_cookieInput (spiI : UInt64) (remote : UDPAddr) :
    (cookieInput spiI remote).length = 14 ∨ (cookieInput spiI remote).length = 26 := by
  cases hip : remote.ip with
  | v4 a => exact .inl (by rw [cookieInput, hip]; rfl)
  | v6 hi lo => exact .inr (by rw [cookieInput, hip]; rfl)

end Epdg.CookieState
