import Epdg.Lib.Bytes

/-!
Addresses as the ePDG's code observes them.

Go's `net.IP` is a byte slice of length 4 or 16 in which an IPv4 address has two
spellings. `To4`, `To16` and `Equal` identify the two, so an address is kept here
in canonical form; a nil slice is `none` where the source can hold one.
-/
namespace Epdg

inductive IP where
  | v4 (addr : UInt32)
  | v6 (hi lo : UInt64)
  deriving DecidableEq, Repr

namespace IP
variable {ip : IP}

def to4 : IP → Option IP
  | v4 a => some (v4 a)
  | v6 _ _ => none

def isV4 (ip : IP) : Bool := ip.to4.isSome

theorem to4_of_isV4 (h : ip.isV4 = true) : ip.to4 = some ip := by
  cases ip with
  | v4 a => rfl
  | v6 hi lo => cases h

theorem isV4_iff : ip.isV4 = true ↔ ∃ a, ip = v4 a := by
  cases ip with
  | v4 a => exact iff_of_true rfl ⟨a, rfl⟩
  | v6 hi lo => exact iff_of_false (fun h => nomatch h) fun ⟨_, h⟩ => nomatch h

def ipv4zero : IP := v4 0

def bytes : IP → Bytes
  | v4 a => Bytes.putUint32 a
  | v6 hi lo => Bytes.putUint64 hi ++ Bytes.putUint64 lo

theorem bytes_injective {a b : IP} (h : a.bytes = b.bytes) : a = b := by
  cases a with
  | v4 a =>
    cases b with
    | v4 b => exact congrArg v4 (Bytes.putUint32_injective h)
    | v6 hi lo =>
      have hlen : 4 = 16 := congrArg List.length h
      simp_all
  | v6 hi lo =>
    cases b with
    | v4 b =>
      have hlen : 16 = 4 := congrArg List.length h
      simp_all
    | v6 hi' lo' =>
      obtain ⟨hhi, hlo⟩ := List.append_inj h rfl
      rw [Bytes.putUint64_injective hhi, Bytes.putUint64_injective hlo]

end IP

structure UDPAddr where
  ip : IP
  port : UInt16
  deriving DecidableEq, Repr

structure IPNet where
  ip : IP
  maskLen : Nat
  deriving DecidableEq, Repr

namespace IPNet

def all : IPNet := ⟨IP.ipv4zero, 0⟩

def host (paa : Option IP) : IPNet :=
  match paa.bind IP.to4 with
  | some paa4 => ⟨paa4, 32⟩
  | none => all

end IPNet
end Epdg
