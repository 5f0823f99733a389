import Epdg.Swm.Channels

/-!
What the steps of the SWm client do to the channels of its requests.
-/
namespace Epdg.Swm
open Diameter
variable {f : Call → Call} {call : Call} {c' : Client}

section
variable {c : Client} {id n : Nat}

theorem key_setCall (h : c.calls.lookup id = some call) :
    (c.setCall id f).slots.key = Function.update c.slots.key id ((f call).slot.map Prod.fst) := by
  funext id'
  simp only [Client.slots, slot_setCall, h, Function.update_apply]
  split <;> rfl

theorem filled_setCall (h : c.calls.lookup id = some call) : (c.setCall id f).slots.filled =
      Function.update c.slots.filled id (((f call).slot.map Prod.snd).getD []) := by
  funext id'
  simp only [Client.slots, slot_setCall, h, Function.update_apply]
  split <;> rfl

theorem held_setConn {f : Conn → Conn} {conn : Conn} (h : c.conns.lookup n = some conn) :
    (c.setConn n f).slots.held = Function.update c.slots.held (some n) (f conn).reader.held := by
  funext party
  cases party with
  | none => rfl
  | some n' =>
    have hn := congrFun (readerHeld_setConn (f := f) h) n'
    simp only [Function.update_apply, Option.some.injEq] at hn ⊢
    exact hn

section
variable (h : ClientInv c)
include h

theorem calls_setCall (hid : c.calls.lookup id = some call) (hf : CallInv (f call)) :
    (∀ id' call', (c.setCall id f).calls.lookup id' = some call' → id' < c.nextCall) ∧
      ∀ id' call', (c.setCall id f).calls.lookup id' = some call' → CallInv call' := by
  constructor
  · intro id' call' hcall'
    obtain ⟨call, hcall, -⟩ := lookup_setCall hcall'
    exact h.named id' call hcall
  · intro id' call' hcall'
    obtain ⟨call₁, hcall, rfl | ⟨rfl, rfl⟩⟩ := lookup_setCall hcall'
    · exact h.calls id' call' hcall
    · simp_all

theorem inv_begin (command appID : UInt32) (proxiable : Bool) (avps : List AVP) {phase : Phase}
    (hp : phase.result = none) : ClientInv (c.begin command appID proxiable avps phase) := by
  have hfresh : c.calls.lookup c.nextCall = none := by
    by_contra hne
    obtain ⟨call, hcall⟩ := Option.ne_none_iff_exists'.mp hne
    exact Nat.lt_irrefl _ (h.named _ call hcall)
  have hslot : (c.begin command appID proxiable avps phase).slot = c.slot := by
    funext id'
    simp only [Client.slot, Client.begin, Client.newRequest, Table.lookup_insert_ite]
    split
    · rename_i e
      rw [e, hfresh]
      rfl
    · rfl
  refine ⟨h.slots.congr ?_ rfl rfl ?_, ?_, ?_, h.numbered, h.answers⟩
  · funext id'
    exact congrArg (Option.map Prod.fst) (congrFun hslot id')
  · funext id'
    exact congrArg (fun s => (Option.map Prod.snd s).getD []) (congrFun hslot id')
  · intro id' call' hcall'
    simp only [Client.begin, Client.newRequest, Table.lookup_insert_ite] at hcall' ⊢
    split at hcall'
    · omega
    · exact Nat.lt_succ_of_lt (h.named id' call' hcall')
  · intro id' call' hcall'
    simp only [Client.begin, Client.newRequest, Table.lookup_insert_ite] at hcall'
    split at hcall'
    · cases hcall'
      refine ⟨fun _ _ => rfl, ?_, ?_⟩
      · simp_all
      · simp_all
    · exact h.calls id' call' hcall'

theorem inv_register (id : Nat) : ClientInv (c.register id) := by
  simp only [Client.register]
  split
  · rename_i call hcall
    split
    · rename_i n hphase
      have hnone : call.chan = none := (h.calls id call hcall).unregistered n (.inr hphase)
      have hslot : c.slot id = none := by simp [Client.slot, hcall, Call.slot, hnone]
      have hkey : c.slots.key id = none := by simp [Client.slots, hslot]
      have hempty : c.slots.filled id = [] := h.slots.fresh id hkey
      have hinv : CallInv { call with phase := .writing n, chan := some {} } := by
        refine ⟨by simp, ?_, by simp [Phase.result]⟩
        grind
      obtain ⟨hnamed, hcalls⟩ := calls_setCall h hcall
        (f := fun call => { call with phase := .writing n, chan := some {} }) hinv
      refine ⟨h.slots.register hkey (key_setCall hcall) ?_ rfl ?_, hnamed, hcalls, h.numbered,
        h.answers⟩
      · funext hop
        simp only [Client.slots, Table.lookup_insert_ite, Function.update_apply]
      · refine (filled_setCall hcall).trans ?_
        exact Function.update_eq_self_iff.mpr hempty.symm
    · exact h
  · exact h

theorem inv_forget (hop : UInt32) : ClientInv { c with pending := c.pending.erase hop } := by
  refine ⟨h.slots.drop rfl rfl rfl ?_, h.named, h.calls, h.numbered, h.answers⟩
  intro hop' id hid
  simp only [Client.slots, Table.lookup_erase_ite] at hid
  split at hid
  · cases hid
  · exact hid

theorem inv_leave (id : Nat) : ClientInv (c.leave id) := by
  simp only [Client.leave]
  split
  · rename_i call hcall
    split
    · rename_i result hphase
      have hmoved : ClientInv (c.setCall id ({ · with phase := .returned result })) := by
        apply h.setCall
        intro call' hcall'
        cases hcall.symm.trans hcall'
        exact moves_return hphase
      exact inv_forget hmoved call.req.hopByHop
    · exact h
  · exact h

end

end

section
variable {c : Client} {id n ch : Nat} {r : Response}

theorem inv_read (h : ClientInv c) (n : Nat) (m : Message) : ClientInv (c.read n m) := by
  apply h.setConn
  · intro conn hconn
    split
    · rename_i hreader
      cases hm : m.isRequest with
      | true => rfl
      | false => rw [hreader]; rfl
    · rfl
  · intro conn m' hconn hans
    split at hans
    · grind
    · exact h.answers n conn m' hconn hans

theorem inv_readFail (h : ClientInv c) (n : Nat) (e : PeerError) :
    ClientInv (c.readFail n e) := by
  apply h.setConn
  · intro conn hconn
    split
    · rename_i hreader
      rw [hreader]
      rfl
    · rfl
  · intro conn m hconn hans
    split at hans
    · cases hans
    · exact h.answers n conn m hconn hans

theorem inv_take (h : ClientInv c) (n : Nat) : ClientInv (c.take n) := by
  simp only [Client.take]
  split
  · rename_i m hm
    obtain ⟨conn, hconn, hreader⟩ := Option.map_eq_some_iff.mp hm
    have hanswer : m.isRequest = false := h.answers n conn m hconn hreader
    cases hch : c.pending.lookup m.hopByHop with
    | none =>
      have hmoved : ClientInv (c.setConn n ({ · with reader := .reading })) := by
        apply h.setConn
        · intro conn' hconn'
          cases hconn.symm.trans hconn'
          rw [hreader]
          rfl
        · simp_all
      exact inv_forget hmoved m.hopByHop
    | some ch =>
      refine ⟨h.slots.take (h := some n) (v := .msg m) hch ⟨rfl, hanswer⟩ rfl ?_
        (held_setConn hconn) rfl, h.named, h.calls, ?_, ?_⟩
      · funext hop
        simp only [Client.slots, Table.lookup_erase_ite, Function.update_apply]
      · intro n' conn' hconn'
        obtain ⟨conn₁, hconn₁, -⟩ := lookup_setConn hconn'
        exact h.numbered n' conn₁ hconn₁
      · intro n' conn' m' hconn' hans
        obtain ⟨conn₁, hconn₁, rfl | ⟨rfl, rfl⟩⟩ := lookup_setConn hconn'
        · exact h.answers n' conn' m' hconn₁ hans
        · cases hans
  · exact h

theorem send_eq_some (h : c.send ch r = some c') :
    ∃ call chan, c.calls.lookup ch = some call ∧ call.chan = some chan ∧
      c' = c.setCall ch ({ · with chan := some ⟨some r, r :: chan.sent⟩ }) := by
  simp only [Client.send] at h
  split at h
  · rename_i call hcall
    obtain ⟨chan', hchan', rfl⟩ := Option.map_eq_some_iff.mp h
    obtain ⟨chan, hchan, hsend⟩ := Option.bind_eq_some_iff.mp hchan'
    simp only [Chan.send] at hsend
    grind
  · cases h

theorem send_isSome (h : ClientInv c) (party : Option Nat)
    (hheld : c.slots.held party = some (ch, r)) : (c.send ch r).isSome := by
  obtain ⟨⟨hop, hkey, -⟩, hempty, -⟩ := h.slots.held party ch r hheld
  obtain ⟨slot, hslot, -⟩ := Option.map_eq_some_iff.mp hkey
  obtain ⟨call, hcall, hcallslot⟩ := Option.bind_eq_some_iff.mp hslot
  obtain ⟨chan, hchan, rfl⟩ := Option.map_eq_some_iff.mp hcallslot
  have hfilled : c.slots.filled ch = chan.sent := by
    simp only [Client.slots, hslot, Option.map_some, Option.getD_some]
  have hsent : chan.sent = [] := hfilled.symm.trans hempty
  cases hbuffer : chan.buffer with
  | none => simp [Client.send, hcall, hchan, Chan.send, hbuffer]
  | some r' =>
    have hr' := (h.calls ch call hcall).buffered chan r' hchan hbuffer
    simp_all

theorem inv_sent {c' c'' : Client} {party : Option Nat} (h : ClientInv c)
    (hheld : c.slots.held party = some (ch, r)) (hsend : c.send ch r = some c')
    (hcalls : c''.calls = c'.calls) (hnext : c''.nextCall = c.nextCall)
    (hpending : c''.pending = c.pending)
    (hfree : c''.slots.held = Function.update c.slots.held party none)
    (hnumbered : ∀ n conn, c''.conns.lookup n = some conn → n < c''.nextConn)
    (hanswers : ∀ n conn m, c''.conns.lookup n = some conn → conn.reader = .answered m →
      m.isRequest = false) : ClientInv c'' := by
  obtain ⟨call, chan, hcall, hchan, rfl⟩ := send_eq_some hsend
  have hslot : c''.slot =
      (c.setCall ch ({ · with chan := some ⟨some r, r :: chan.sent⟩ })).slot := by
    funext id'
    simp only [Client.slot, hcalls]
  have hold : c.slot ch = some (call.req.hopByHop, chan.sent) := by
    simp [Client.slot, hcall, Call.slot, hchan]
  have hkey : c''.slots.key = c.slots.key := by
    funext id'
    refine (congrArg (Option.map Prod.fst) (congrFun hslot id')).trans ?_
    refine (congrFun (key_setCall hcall) id').trans ?_
    have hsame : c.slots.key ch = some call.req.hopByHop := by
      simp only [Client.slots, hold, Option.map_some]
    exact congrFun (Function.update_eq_self_iff.mpr hsame.symm) id'
  have hfilled : c''.slots.filled = Function.update c.slots.filled ch (r :: c.slots.filled ch) := by
    funext id'
    refine (congrArg (fun s => (Option.map Prod.snd s).getD []) (congrFun hslot id')).trans ?_
    refine (congrFun (filled_setCall hcall) id').trans ?_
    have hsame : c.slots.filled ch = chan.sent := by
      simp only [Client.slots, hold, Option.map_some, Option.getD_some]
    rw [hsame]
    rfl
  have hinv : CallInv { call with chan := some ⟨some r, r :: chan.sent⟩ } := by
    have hold := h.calls ch call hcall
    refine ⟨?_, ?_, ?_⟩
    · intro n hn
      rw [hold.unregistered n hn] at hchan
      cases hchan
    · grind
    · intro m hm
      obtain ⟨chan', hchan', hmem⟩ := hold.accepted m hm
      simp_all
  obtain ⟨hnamed, hcallInv⟩ := calls_setCall h hcall
    (f := fun call => { call with chan := some ⟨some r, r :: chan.sent⟩ }) hinv
  refine ⟨h.slots.put hheld hkey ?_ hfree hfilled, ?_, ?_, hnumbered, hanswers⟩
  · funext hop
    simp only [Client.slots, hpending]
  · simp_all
  · grind

theorem inv_put (h : ClientInv c) (n : Nat) : ClientInv (c.put n) := by
  simp only [Client.put]
  split
  · rename_i m ch hm
    obtain ⟨conn, hconn, hreader⟩ := Option.map_eq_some_iff.mp hm
    have hheld : c.slots.held (some n) = some (ch, .msg m) := by
      simp [Client.slots, Client.readerHeld, hconn, hreader, Reader.held]
    split
    · rename_i c' hsend
      obtain ⟨call, chan, hcall, hchan, hc'⟩ := send_eq_some hsend
      have hconns : c'.conns = c.conns := by rw [hc']; rfl
      refine inv_sent h hheld hsend rfl (by rw [hc']; rfl) (by rw [hc']; rfl) ?_ ?_ ?_
      · have hsame : c'.slots.held = c.slots.held := by rw [hc']; rfl
        rw [held_setConn (hconns ▸ hconn), hsame]
        rfl
      · intro n' conn' hconn'
        obtain ⟨conn₁, hconn₁, -⟩ := lookup_setConn hconn'
        rw [hconns] at hconn₁
        have hnext : c'.nextConn = c.nextConn := by rw [hc']; rfl
        exact hnext ▸ h.numbered n' conn₁ hconn₁
      · intro n' conn' m' hconn' hans
        obtain ⟨conn₁, hconn₁, rfl | ⟨rfl, rfl⟩⟩ := lookup_setConn hconn'
        · rw [hconns] at hconn₁
          exact h.answers n' conn' m' hconn₁ hans
        · cases hans
    · exact h
  · exact h

end

/-! `failPendingLocked` and the connection loop. -/

section
variable {c : Client} {n : Nat}

section
variable (h : ClientInv c)
include h

theorem inv_locked {f : Client → Client} (hf : c.failing = none → ClientInv (f c)) :
    ClientInv (c.locked f) := by
  simp only [Client.locked]
  split
  · exact h
  · simp_all

theorem inv_failing {x : Option Failing} (hx : x.bind Failing.held = c.failing.bind Failing.held) :
    ClientInv { c with failing := x } := by
  refine ⟨h.slots.congr rfl rfl ?_ rfl, h.named, h.calls, h.numbered, h.answers⟩
  funext party
  cases party with
  | none => exact hx
  | some n => rfl

theorem inv_stop (hfree : c.failing = none) : ClientInv c.stop := by
  have hf : ClientInv { c with failing := some { err := .stopped } } := by
    apply inv_failing h
    rw [hfree]
    rfl
  exact ⟨hf.slots, hf.named, hf.calls, hf.numbered, hf.answers⟩

theorem inv_disconnected (hfree : c.failing = none) : ClientInv c.disconnected := by
  simp only [Client.disconnected]
  split
  · rename_i n _
    split
    · rename_i e hreader
      have hended : ClientInv (c.setConn n ({ · with reader := .ended })) := by
        apply h.setConn
        · intro conn hconn
          rw [hconn, Option.map_some, Option.some.injEq] at hreader
          rw [hreader]
          rfl
        · simp_all
      have hf : ClientInv { c.setConn n ({ · with reader := .ended }) with
          failing := some { err := e } } := by
        apply inv_failing hended
        simp only [Client.setConn, hfree]
        rfl
      exact ⟨hf.slots, hf.named, hf.calls, hf.numbered, hf.answers⟩
    · exact h
  · exact h

theorem inv_opened : ClientInv c.opened := by
  simp only [Client.opened]
  split
  · have hfresh : c.conns.lookup c.nextConn = none := by
      by_contra hne
      obtain ⟨conn, hconn⟩ := Option.ne_none_iff_exists'.mp hne
      exact Nat.lt_irrefl _ (h.numbered _ conn hconn)
    refine ⟨h.slots.congr rfl rfl ?_ rfl, h.named, h.calls, ?_, ?_⟩
    · funext party
      cases party with
      | none => rfl
      | some n =>
        simp only [Client.slots, Client.readerHeld, Option.elim_some, Table.lookup_insert_ite]
        split
        · rename_i e
          rw [e, hfresh]
          rfl
        · rfl
    · intro n conn hconn
      simp only [Table.lookup_insert_ite] at hconn ⊢
      split at hconn
      · omega
      · exact Nat.lt_succ_of_lt (h.numbered n conn hconn)
    · intro n conn m hconn hans
      simp only [Table.lookup_insert_ite] at hconn
      split at hconn
      · grind
      · exact h.answers n conn m hconn hans
  · exact h

theorem inv_failTake (hop : UInt32) : ClientInv (c.failTake hop) := by
  simp only [Client.failTake]
  split
  · rename_i err hfailing
    split
    · rename_i ch hch
      refine ⟨h.slots.take (h := none) (v := .err err) hch trivial rfl ?_ ?_ rfl, h.named,
        h.calls, h.numbered, h.answers⟩
      · funext hop'
        simp only [Client.slots, Table.lookup_erase_ite, Function.update_apply]
      · funext party
        cases party with
        | none => rfl
        | some n => rfl
    · exact h
  · exact h

theorem inv_failPut : ClientInv c.failPut := by
  simp only [Client.failPut]
  split
  · rename_i err ch hfailing
    split
    · rename_i c' hsend
      have hheld : c.slots.held none = some (ch, .err err) := by
        simp [Client.slots, hfailing, Failing.held]
      obtain ⟨call, chan, hcall, hchan, rfl⟩ := send_eq_some hsend
      refine inv_sent h hheld hsend rfl rfl rfl ?_ h.numbered h.answers
      funext party
      cases party with
      | none => rfl
      | some n => rfl
    · exact h
  · exact h

theorem inv_failEnd : ClientInv c.failEnd := by
  simp only [Client.failEnd]
  split
  · rename_i err hfailing
    split
    · apply inv_failing h
      rw [hfailing]
      rfl
    · exact h
  · exact h

theorem inv_watchdog (n : Nat) (w : Watchdog) :
    ClientInv (c.setConn n ({ · with watchdog := w })) :=
  h.setConn (fun _ _ => rfl) fun conn m hconn hans => h.answers n conn m hconn hans

theorem inv_tick (cfg : ClientConfig) (n : Nat) : ClientInv (c.tick cfg n) := by
  simp only [Client.tick]
  split
  · exact inv_begin (inv_watchdog h n _) _ _ _ _ rfl
  · exact h

theorem inv_ticked (n : Nat) : ClientInv (c.ticked n) := by
  simp only [Client.ticked]
  split
  · split
    · exact inv_watchdog h n _
    · exact inv_watchdog h n _
    · exact h
  · split
    · exact inv_watchdog h n _
    · exact h
  · exact h

theorem inv_unrelated (hcalls : c'.calls = c.calls) (hnext : c'.nextCall = c.nextCall)
    (hpending : c'.pending = c.pending) (hconns : c'.conns = c.conns)
    (hnextConn : c'.nextConn = c.nextConn) (hfailing : c'.failing = c.failing) : ClientInv c' := by
  obtain ⟨nextHop, nextEnd, pending, calls, nextCall, conns, nextConn, conn, loop, cancelled,
    failing⟩ := c'
  subst hcalls hnext hpending hconns hnextConn hfailing
  exact ⟨h.slots, h.named, h.calls, h.numbered, h.answers⟩

end

end

end Epdg.Swm
