import Epdg.Lib.Slots
import Epdg.Swm.Client

/-!
The channels of the requests of the SWm client as one-shot slots: `c.pending` registers them by
Hop-by-Hop id, the read loops and `failPendingLocked` take them out and send on them.
-/
namespace Epdg.Swm
open Diameter
variable {f : Conn → Conn}

def Fits (hop : UInt32) : Response → Prop
  | .msg m => m.hopByHop = hop ∧ m.isRequest = false
  | .err _ => True

def Call.slot (call : Call) : Option (UInt32 × List Response) :=
  call.chan.map fun chan => (call.req.hopByHop, chan.sent)

def Reader.held : Reader → Option (Nat × Response)
  | .sending m ch => some (ch, .msg m)
  | _ => none

def Failing.held (f : Failing) : Option (Nat × Response) := f.ch.map (·, .err f.err)

namespace Client

def slot (c : Client) (id : Nat) : Option (UInt32 × List Response) :=
  (c.calls.lookup id).bind Call.slot

def readerHeld (c : Client) (n : Nat) : Option (Nat × Response) :=
  (c.conns.lookup n).bind fun conn => conn.reader.held

def slots (c : Client) : Slots UInt32 Response (Option Nat) where
  key id := (c.slot id).map Prod.fst
  registered := c.pending.lookup
  held := fun party => party.elim (c.failing.bind Failing.held) c.readerHeld
  filled id := ((c.slot id).map Prod.snd).getD []

end Client

def Phase.result : Phase → Option CallResult
  | .leaving result | .returned result => some result
  | _ => none

structure CallInv (call : Call) : Prop where
  unregistered : ∀ n, call.phase = .created ∨ call.phase = .ready n → call.chan = none
  buffered : ∀ chan r, call.chan = some chan → chan.buffer = some r → r ∈ chan.sent
  accepted : ∀ m, call.phase.result = some (.ok m) →
    ∃ chan, call.chan = some chan ∧ .msg m ∈ chan.sent

structure ClientInv (c : Client) : Prop where
  slots : c.slots.Sound Fits
  named : ∀ id call, c.calls.lookup id = some call → id < c.nextCall
  calls : ∀ id call, c.calls.lookup id = some call → CallInv call
  numbered : ∀ n conn, c.conns.lookup n = some conn → n < c.nextConn
  answers : ∀ n conn m, c.conns.lookup n = some conn → conn.reader = .answered m →
    m.isRequest = false

/-! ### What a call does by itself -/

structure Moves (call call' : Call) : Prop where
  slot : call'.slot = call.slot
  inv : CallInv call → CallInv call'

section
variable {call : Call}

theorem Moves.refl (call : Call) : Moves call call := ⟨rfl, id⟩

theorem Moves.phase {p : Phase} (hreg : ∀ n, p ≠ .created ∧ p ≠ .ready n)
    (hres : ∀ m, p.result ≠ some (.ok m)) : Moves call { call with phase := p } := by
  refine ⟨rfl, fun h => ⟨?_, h.buffered, ?_⟩⟩
  · intro n hn
    simp_all
  · simp_all

theorem moves_choose (call : Call) (conn : Option Nat) : Moves call (call.choose conn) := by
  simp only [Call.choose]
  split
  · rename_i hphase
    cases conn with
    | none => exact Moves.phase (by simp) (by simp [Phase.result])
    | some n =>
      refine ⟨rfl, fun h => ⟨fun _ _ => h.unregistered n (.inl hphase), h.buffered, ?_⟩⟩
      intro m hm
      cases hm
  · exact Moves.refl call

theorem moves_write (call : Call) (ok : Bool) : Moves call (call.write ok) := by
  simp only [Call.write]
  split
  · cases ok <;> exact Moves.phase (by simp) (by simp [Phase.result])
  · exact Moves.refl call

theorem moves_expire (call : Call) : Moves call call.expire := by
  simp only [Call.expire]
  split
  · exact Moves.phase (by simp) (by simp [Phase.result])
  · exact Moves.refl call

theorem moves_receive (call : Call) : Moves call call.receive := by
  simp only [Call.receive]
  split
  · rename_i r sent _ hchan
    refine ⟨by simp [Call.slot, hchan], fun h => ⟨?_, ?_, ?_⟩⟩
    · simp_all
    · grind
    · intro m hm
      refine ⟨_, rfl, ?_⟩
      have hr := h.buffered _ r hchan rfl
      cases r with
      | msg m' =>
        cases hm
        exact hr
      | err e => cases hm
  · exact Moves.refl call

theorem moves_return {result : CallResult} (h : call.phase = .leaving result) :
    Moves call { call with phase := .returned result } := by
  refine ⟨rfl, fun hinv => ⟨?_, hinv.buffered, ?_⟩⟩
  · grind
  · intro m hm
    apply hinv.accepted m
    rw [h]
    exact hm

end

/-! ### Updates of one call and of one connection -/

section
variable {c : Client} {id n : Nat}

theorem slot_setCall (c : Client) (id : Nat) (f : Call → Call) (id' : Nat) :
    (c.setCall id f).slot id' =
      if id' = id then (c.calls.lookup id).bind fun call => (f call).slot else c.slot id' := by
  simp only [Client.slot, Client.setCall, Table.lookup_modify]
  split
  · cases c.calls.lookup id <;> rfl
  · rfl

theorem lookup_setCall {f : Call → Call} {id' : Nat} {call' : Call}
    (h : (c.setCall id f).calls.lookup id' = some call') :
    ∃ call, c.calls.lookup id' = some call ∧ (call' = call ∨ id' = id ∧ call' = f call) := by
  simp only [Client.setCall, Table.lookup_modify] at h
  split at h
  · rename_i e
    obtain ⟨call, hcall, rfl⟩ := Option.map_eq_some_iff.mp h
    grind
  · simp_all

theorem lookup_setConn {n' : Nat} {conn' : Conn}
    (h : (c.setConn n f).conns.lookup n' = some conn') :
    ∃ conn, c.conns.lookup n' = some conn ∧ (conn' = conn ∨ n' = n ∧ conn' = f conn) := by
  simp only [Client.setConn, Table.lookup_modify] at h
  split at h
  · rename_i e
    obtain ⟨conn, hconn, rfl⟩ := Option.map_eq_some_iff.mp h
    grind
  · simp_all

theorem readerHeld_setConn {conn : Conn} (hn : c.conns.lookup n = some conn) :
    (c.setConn n f).readerHeld = Function.update c.readerHeld n (f conn).reader.held := by
  funext n'
  simp only [Client.readerHeld, Client.setConn, Table.lookup_modify, Function.update_apply, hn]
  split <;> rfl

theorem ClientInv.setCall (h : ClientInv c) {f : Call → Call}
    (hf : ∀ call, c.calls.lookup id = some call → Moves call (f call)) :
    ClientInv (c.setCall id f) := by
  have hslot : (c.setCall id f).slot = c.slot := by
    funext id'
    rw [slot_setCall]
    split
    · rename_i e
      rw [e, Client.slot]
      cases hcall : c.calls.lookup id with
      | none => rfl
      | some call => exact (hf call hcall).slot
    · rfl
  have hkey : (c.setCall id f).slots.key = c.slots.key := by
    funext id'
    exact congrArg (Option.map Prod.fst) (congrFun hslot id')
  have hfilled : (c.setCall id f).slots.filled = c.slots.filled := by
    funext id'
    exact congrArg (fun s => (Option.map Prod.snd s).getD []) (congrFun hslot id')
  refine ⟨h.slots.congr hkey rfl rfl hfilled, ?_, ?_, h.numbered, h.answers⟩
  · intro id' call' hcall'
    obtain ⟨call, hcall, -⟩ := lookup_setCall hcall'
    exact h.named id' call hcall
  · intro id' call' hcall'
    obtain ⟨call, hcall, rfl | ⟨rfl, rfl⟩⟩ := lookup_setCall hcall'
    · exact h.calls id' call' hcall
    · exact (hf call hcall).inv (h.calls id' call hcall)

theorem ClientInv.setConn (h : ClientInv c) {f : Conn → Conn}
    (hheld : ∀ conn, c.conns.lookup n = some conn → (f conn).reader.held = conn.reader.held)
    (hans : ∀ conn m, c.conns.lookup n = some conn → (f conn).reader = .answered m →
      m.isRequest = false) : ClientInv (c.setConn n f) := by
  have hsame : (c.setConn n f).readerHeld = c.readerHeld := by
    funext n'
    simp only [Client.readerHeld, Client.setConn, Table.lookup_modify]
    split
    · rename_i e
      rw [e]
      cases hconn : c.conns.lookup n with
      | none => rfl
      | some conn => exact hheld conn hconn
    · rfl
  have hslots : (c.setConn n f).slots.held = c.slots.held := by
    funext party
    cases party with
    | none => rfl
    | some n' => exact congrFun hsame n'
  refine ⟨h.slots.congr rfl rfl hslots rfl, h.named, h.calls, ?_, ?_⟩
  · intro n' conn' hconn'
    obtain ⟨conn, hconn, -⟩ := lookup_setConn hconn'
    exact h.numbered n' conn hconn
  · intro n' conn' m hconn' hm
    obtain ⟨conn, hconn, rfl | ⟨rfl, rfl⟩⟩ := lookup_setConn hconn'
    · exact h.answers n' conn' m hconn hm
    · simp_all

end

end Epdg.Swm
