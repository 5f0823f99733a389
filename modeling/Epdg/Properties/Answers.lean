import Epdg.Swm.Deliveries

/-!
Where the answers of the AAA server go.

Nothing here rests on the Hop-by-Hop ids being different: a request that takes over the id of
another only makes that one wait for nothing.
-/
namespace Epdg.Swm
open Diameter

theorem inv_init (hop endId : UInt32) : ClientInv { nextHop := hop, nextEnd := endId } := by
  refine ⟨⟨fun _ _ => rfl, ?_, ?_, fun _ => Nat.zero_le 1, ?_⟩, ?_, ?_, ?_, ?_⟩
  · intro hop id hid
    cases hid
  · intro party id r hheld
    cases party <;> cases hheld
  · intro id hop r hkey
    cases hkey
  · simp_all
  · simp_all
  · simp_all
  · simp_all

theorem inv_step (cfg : ClientConfig) (c : Client) (a : ClientAct) (h : ClientInv c) :
    ClientInv (c.step cfg a) := by
  cases a with
  | start =>
    refine inv_locked h fun _ => ?_
    simp only [Client.start]
    split
    · exact inv_unrelated h rfl rfl rfl rfl rfl rfl
    · exact h
  | stop => exact inv_locked h (inv_stop h)
  | cancel => exact inv_unrelated h rfl rfl rfl rfl rfl rfl
  | handshake ok =>
    simp only [Client.step, Client.handshake]
    split
    · exact inv_unrelated h rfl rfl rfl rfl rfl rfl
    · exact h
  | opened => exact inv_locked h fun _ => inv_opened h
  | disconnected => exact inv_locked h (inv_disconnected h)
  | quit =>
    simp only [Client.step, Client.quit]
    split
    · exact inv_unrelated h rfl rfl rfl rfl rfl rfl
    · exact inv_unrelated h rfl rfl rfl rfl rfl rfl
    · exact h
  | request command appID proxiable avps => exact inv_begin h command appID proxiable avps rfl
  | choose id =>
    refine inv_locked h (f := fun c => c.setCall id (Call.choose · c.conn)) fun _ => ?_
    exact h.setCall fun call _ => moves_choose call c.conn
  | register id =>
    exact inv_locked h (f := (Client.register · id)) fun _ => inv_register h id
  | write id ok => exact h.setCall fun call _ => moves_write call ok
  | receive id => exact h.setCall fun call _ => moves_receive call
  | expire id => exact h.setCall fun call _ => moves_expire call
  | leave id =>
    exact inv_locked h (f := (Client.leave · id)) fun _ => inv_leave h id
  | read n m => exact inv_read h n m
  | readFail n e => exact inv_readFail h n e
  | take n =>
    exact inv_locked h (f := (Client.take · n)) fun _ => inv_take h n
  | put n => exact inv_put h n
  | tick n => exact inv_tick h cfg n
  | ticked n => exact inv_ticked h n
  | failTake hop => exact inv_failTake h hop
  | failPut => exact inv_failPut h
  | failEnd => exact inv_failEnd h

structure DeliversOnce (c : Client) : Prop where
  once : ∀ id call chan, c.calls.lookup id = some call → call.chan = some chan →
    chan.sent.length ≤ 1
  matching : ∀ id call chan m, c.calls.lookup id = some call → call.chan = some chan →
    .msg m ∈ chan.sent → m.hopByHop = call.req.hopByHop ∧ m.isRequest = false
  pending : ∀ hop id, c.pending.lookup hop = some id →
    ∃ call chan, c.calls.lookup id = some call ∧ call.chan = some chan ∧
      call.req.hopByHop = hop ∧ chan.buffer = none
  readLoop : ∀ n conn m ch, c.conns.lookup n = some conn → conn.reader = .sending m ch →
    (c.send ch (.msg m)).isSome
  failPendingLocked : ∀ err ch, c.failing = some ⟨err, some ch⟩ → (c.send ch (.err err)).isSome
  returned : ∀ id call m, c.calls.lookup id = some call → call.phase = .returned (.ok m) →
    m.hopByHop = call.req.hopByHop

theorem deliversOnce_of_inv {c : Client} (h : ClientInv c) : DeliversOnce c := by
  have hslot {id : Nat} {call : Call} {chan : Chan} (hcall : c.calls.lookup id = some call)
      (hchan : call.chan = some chan) :
      c.slots.key id = some call.req.hopByHop ∧ c.slots.filled id = chan.sent := by
    simp [Client.slots, Client.slot, Call.slot, hcall, hchan]
  have hmatching {id : Nat} {call : Call} {chan : Chan} {m : Message}
      (hcall : c.calls.lookup id = some call) (hchan : call.chan = some chan)
      (hm : .msg m ∈ chan.sent) : m.hopByHop = call.req.hopByHop ∧ m.isRequest = false := by
    obtain ⟨hkey, hfilled⟩ := hslot hcall hchan
    exact h.slots.fitting id _ (.msg m) hkey (hfilled ▸ hm)
  constructor
  · intro id call chan hcall hchan
    obtain ⟨-, hfilled⟩ := hslot hcall hchan
    exact hfilled ▸ h.slots.once id
  · grind
  · intro hop id hid
    obtain ⟨hkey, hempty, -⟩ := h.slots.registered hop id hid
    obtain ⟨slot, hs, hhop⟩ := Option.map_eq_some_iff.mp hkey
    obtain ⟨call, hcall, hcs⟩ := Option.bind_eq_some_iff.mp hs
    obtain ⟨chan, hchan, rfl⟩ := Option.map_eq_some_iff.mp hcs
    refine ⟨call, chan, hcall, hchan, hhop, ?_⟩
    cases hbuffer : chan.buffer with
    | none => rfl
    | some r =>
      have hr := (h.calls id call hcall).buffered chan r hchan hbuffer
      simp_all
  · intro n conn m ch hconn hreader
    apply send_isSome h (some n)
    simp [Client.slots, Client.readerHeld, hconn, hreader, Reader.held]
  · intro err ch hfailing
    apply send_isSome h none
    simp [Client.slots, hfailing, Failing.held]
  · intro id call m hcall hphase
    obtain ⟨chan, hchan, hm⟩ := (h.calls id call hcall).accepted m (by rw [hphase]; rfl)
    grind

/-- Whatever the order of requests, answers, failures, timeouts and `Stop`, a channel is sent on
once at most, with an answer to its own request, and no send has to wait. -/
theorem responses_delivered_once (cfg : ClientConfig) (hop endId : UInt32)
    (acts : List ClientAct) :
    DeliversOnce (Machine.run (Client.step cfg) { nextHop := hop, nextEnd := endId } acts) := by
  apply deliversOnce_of_inv
  exact Machine.run_invariant ClientInv (inv_step cfg) (inv_init hop endId) acts

/-- An answer reaches its request although `Stop` comes between. -/
example :
    let dwa : Message := ⟨0, commandDWR, 0, 2, 2, []⟩
    let c := Machine.run (Client.step ⟨[], []⟩) { nextHop := 0, nextEnd := 0 }
      [.start, .handshake true, .opened, .tick 0, .register 0, .write 0 true, .read 0 dwa,
        .take 0, .stop, .put 0, .failEnd, .receive 0, .ticked 0]
    (c.calls.lookup 0).map Call.phase = some (.returned (.ok dwa)) ∧ c.failing = none ∧
      (c.conns.lookup 0).map Conn.watchdog = some .ticking := by
  decide +kernel

end Epdg.Swm
