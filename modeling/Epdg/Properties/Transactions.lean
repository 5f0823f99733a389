import Epdg.S2b.Transactions

/-!
What `transactionTo` returns, and that the read loop never waits for it.

A channel is put into at most once because the loop takes the transaction out of the table
before it sends. When sequence numbers are used again, the entry it takes out may be that of a
later call; the response still goes to the call it was matched with.
-/
namespace Epdg.S2b
variable {f : Call → Call} {ch : Nat}

structure Answers (call : Call) (r : Received) : Prop where
  sequence : r.msg.sequence = call.req.sequence
  source : r.src.ip = call.peer.ip

def Phase.result : Phase → Option TxnResult
  | .leaving result | .returned result => some result
  | _ => none

structure CallInv (call : Call) : Prop where
  once : call.delivered.length ≤ 1
  answers : ∀ r ∈ call.delivered, Answers call r
  buffered : ∀ r, call.chan = some r → r ∈ call.delivered
  accepted : ∀ r, call.phase.result = some (.ok r) →
    r ∈ call.delivered ∧ r.msg.type = call.expected

structure Unserved (c : Client) (ch : Nat) (sequence : UInt32) (peer : UDPAddr) : Prop where
  call : ∃ call, c.calls.lookup ch = some call ∧ call.req.sequence = sequence ∧
    call.peer = peer ∧ call.delivered = []

structure ClientInv (c : Client) : Prop where
  named : ∀ id call, c.calls.lookup id = some call → id < c.next
  calls : ∀ id call, c.calls.lookup id = some call → CallInv call
  pending : ∀ s txn, c.pending.lookup s = some txn → Unserved c txn.ch s txn.peer
  matched : ∀ r txn, c.reader = .matched r txn →
    Unserved c txn.ch r.msg.sequence txn.peer ∧ r.src.ip = txn.peer.ip
  claimed : ∀ r ch, c.reader = .claimed r ch →
    (∃ peer, Unserved c ch r.msg.sequence peer ∧ r.src.ip = peer.ip) ∧
      ∀ s txn, c.pending.lookup s = some txn → txn.ch ≠ ch

inductive Move (call : Call) : Call → Prop
  | stay : Move call call
  | go (p : Phase) (hp : ∀ r, p.result ≠ some (.ok r)) : Move call { call with phase := p }
  | take (r : Received) (p : Phase) (hchan : call.chan = some r)
      (hp : ∀ r', p.result = some (.ok r') → r' = r ∧ r.msg.type = call.expected) :
      Move call { call with chan := none, phase := p }
  | finish (result : TxnResult) (hleave : call.phase = .leaving result) :
      Move call { call with phase := .returned result }

section
variable {call call' : Call}

theorem Move.keeps (h : Move call call') :
    call'.req = call.req ∧ call'.peer = call.peer ∧ call'.delivered = call.delivered := by
  cases h <;> exact ⟨rfl, rfl, rfl⟩

theorem Move.callInv (hm : Move call call') (h : CallInv call) : CallInv call' := by
  have hanswers : ∀ r ∈ call.delivered, Answers call r := h.answers
  cases hm with
  | stay => exact h
  | go p hp =>
    exact ⟨h.once, fun r hr => ⟨(hanswers r hr).sequence, (hanswers r hr).source⟩,
      h.buffered, fun r hr => (hp r hr).elim⟩
  | take r p hchan hp =>
    refine ⟨h.once, fun r hr => ⟨(hanswers r hr).sequence, (hanswers r hr).source⟩, ?_, ?_⟩
    · simp_all
    · intro r' hr'
      obtain ⟨rfl, ht⟩ := hp r' hr'
      exact ⟨h.buffered r' hchan, ht⟩
  | finish result hleave =>
    refine ⟨h.once, fun r hr => ⟨(hanswers r hr).sequence, (hanswers r hr).source⟩,
      h.buffered, ?_⟩
    intro r hr
    apply h.accepted r
    rw [hleave]
    exact hr

theorem move_write (call : Call) (ok : Bool) : Move call (call.write ok) := by
  simp only [Call.write]
  split
  · refine .go _ ?_
    intro r
    split <;> simp [Phase.result]
  · exact .stay

theorem move_receive (call : Call) : Move call call.receive := by
  simp only [Call.receive]
  split
  · rename_i r _ hchan
    refine .take r _ hchan ?_
    intro r' hr'
    split at hr'
    · rename_i ht
      cases hr'
      exact ⟨rfl, ht⟩
    · cases hr'
  · exact .stay

theorem move_timeout (call : Call) (cancelled : Bool) : Move call (call.timeout cancelled) := by
  simp only [Call.timeout]
  split
  · refine .go _ ?_
    intro r
    split
    · simp [Phase.result]
    · split <;> simp [Phase.result]
  · exact .stay

theorem move_cancel (call : Call) : Move call call.cancel := by
  simp only [Call.cancel]
  split
  · exact .go _ fun r => by simp [Phase.result]
  · exact .stay

end

section
variable {cfg : Config} {c : Client} {id : Nat}

theorem Unserved.setCall {sequence : UInt32} {peer : UDPAddr} (h : Unserved c ch sequence peer)
    (hf : ∀ call, c.calls.lookup id = some call → Move call (f call)) :
    Unserved (c.setCall id f) ch sequence peer := by
  obtain ⟨call, hl, hs, hp, hd⟩ := h.call
  simp only [Client.setCall]
  by_cases e : ch = id
  · subst e
    obtain ⟨hreq, hpeer, hdel⟩ := (hf call hl).keeps
    exact ⟨f call, by simp [Table.lookup_modify, hl], by rw [hreq, hs], by rw [hpeer, hp],
      by rw [hdel, hd]⟩
  · exact ⟨call, by simp [Table.lookup_modify, e, hl], hs, hp, hd⟩

theorem ClientInv.setCall (h : ClientInv c)
    (hf : ∀ call, c.calls.lookup id = some call → Move call (f call)) :
    ClientInv (c.setCall id f) where
  named id' call hl := by
    simp only [Client.setCall, Table.lookup_modify] at hl
    split at hl
    · rename_i e
      obtain ⟨old, hold, -⟩ := Option.map_eq_some_iff.mp hl
      rw [e]
      exact h.named id old hold
    · exact h.named id' call hl
  calls id' call hl := by
    simp only [Client.setCall, Table.lookup_modify] at hl
    split at hl
    · obtain ⟨old, hold, rfl⟩ := Option.map_eq_some_iff.mp hl
      exact (hf old hold).callInv (h.calls id old hold)
    · exact h.calls id' call hl
  pending s txn hl := (h.pending s txn hl).setCall hf
  matched r txn hr := by
    obtain ⟨hu, hsrc⟩ := h.matched r txn hr
    exact ⟨hu.setCall hf, hsrc⟩
  claimed r ch hr := by
    obtain ⟨⟨peer, hu, hsrc⟩, hout⟩ := h.claimed r ch hr
    exact ⟨⟨peer, hu.setCall hf, hsrc⟩, hout⟩

theorem ClientInv.erase (h : ClientInv c) (s : UInt32) :
    ClientInv { c with pending := c.pending.erase s } where
  named := h.named
  calls := h.calls
  pending s' txn hl := by
    rw [Table.lookup_erase_ite] at hl
    split at hl
    · cases hl
    · exact ⟨(h.pending s' txn hl).call⟩
  matched r txn hr := by
    obtain ⟨hu, hsrc⟩ := h.matched r txn hr
    exact ⟨⟨hu.call⟩, hsrc⟩
  claimed r ch hr := by
    obtain ⟨⟨peer, hu, hsrc⟩, hout⟩ := h.claimed r ch hr
    refine ⟨⟨peer, ⟨hu.call⟩, hsrc⟩, ?_⟩
    intro s' txn hl
    rw [Table.lookup_erase_ite] at hl
    grind

theorem Unserved.insert {call : Call} {ch : Nat} {sequence : UInt32} {peer : UDPAddr}
    {c' : Client} (h : Unserved c ch sequence peer) (hi : ClientInv c)
    (hc : c'.calls = c.calls.insert c.next call) : Unserved c' ch sequence peer := by
  obtain ⟨old, hl, hs, hp, hd⟩ := h.call
  have hne : ch ≠ c.next := Nat.ne_of_lt (hi.named ch old hl)
  exact ⟨old, by rw [hc, Table.lookup_insert_ite, if_neg hne]; exact hl, hs, hp, hd⟩

theorem start_inv (h : ClientInv c) (req : Message) (expected : UInt8) (peer : UDPAddr) :
    ClientInv (c.start req expected peer) := by
  have hnamed {call : Call} : ∀ id call', (c.calls.insert c.next call).lookup id = some call' →
      id < c.next + 1 := by
    intro id call' hl
    rw [Table.lookup_insert_ite] at hl
    split at hl
    · omega
    · exact Nat.lt_succ_of_lt (h.named id call' hl)
  have hcalls {call : Call} (hnew : CallInv call) : ∀ id call',
      (c.calls.insert c.next call).lookup id = some call' → CallInv call' := by
    intro id call' hl
    rw [Table.lookup_insert_ite] at hl
    split at hl
    · grind
    · exact h.calls id call' hl
  have hfresh (phase : Phase) (hp : ∀ r, phase.result ≠ some (.ok r)) :
      CallInv { req, expected, peer, phase } := by
    refine ⟨Nat.zero_le 1, ?_, ?_, fun r hr => (hp r hr).elim⟩
    · grind
    · grind
  simp only [Client.start]
  split
  · refine ⟨hnamed, hcalls (hfresh _ fun r => by simp [Phase.result]), ?_, ?_, ?_⟩
    · intro s txn hl
      exact (h.pending s txn hl).insert h rfl
    · intro r txn hr
      obtain ⟨hu, hsrc⟩ := h.matched r txn hr
      exact ⟨hu.insert h rfl, hsrc⟩
    · intro r ch hr
      obtain ⟨⟨p, hu, hsrc⟩, hout⟩ := h.claimed r ch hr
      exact ⟨⟨p, hu.insert h rfl, hsrc⟩, hout⟩
  · refine ⟨hnamed, hcalls (hfresh _ fun r => by simp [Phase.result]), ?_, ?_, ?_⟩
    · intro s txn hl
      rw [Table.lookup_insert_ite] at hl
      split at hl
      · rename_i e
        cases hl
        exact ⟨{ req, expected, peer, phase := .sending 1 }, by simp, e.symm, rfl, rfl⟩
      · exact (h.pending s txn hl).insert h rfl
    · intro r txn hr
      obtain ⟨hu, hsrc⟩ := h.matched r txn hr
      exact ⟨hu.insert h rfl, hsrc⟩
    · intro r ch hr
      obtain ⟨⟨p, hu, hsrc⟩, hout⟩ := h.claimed r ch hr
      refine ⟨⟨p, hu.insert h rfl, hsrc⟩, ?_⟩
      intro s txn hl
      rw [Table.lookup_insert_ite] at hl
      split at hl
      · cases hl
        obtain ⟨call, hcall, -⟩ := hu.call
        exact (Nat.ne_of_lt (h.named ch call hcall)).symm
      · exact hout s txn hl

theorem leave_inv (h : ClientInv c) (id : Nat) : ClientInv (c.leave id) := by
  simp only [Client.leave]
  split
  · rename_i call hl
    split
    · rename_i result hphase
      have hmove : ∀ call', c.calls.lookup id = some call' →
          Move call' { call' with phase := .returned result } := by
        intro call' hl'
        rw [hl] at hl'
        cases hl'
        exact .finish result hphase
      exact (h.setCall hmove).erase call.req.sequence
    · exact h
  · exact h

theorem read_inv (hstrict : cfg.strictPeerCheck = true) (h : ClientInv c) (src : UDPAddr)
    (pkt : Bytes) : ClientInv (c.read cfg src pkt) := by
  simp only [Client.read]
  split
  · rename_i msg hidle _
    split
    · exact h
    split
    · rename_i txn hm
      obtain ⟨hl, hsrc⟩ := Option.filter_eq_some_iff.mp hm
      refine ⟨h.named, h.calls, fun s t hs => ⟨(h.pending s t hs).call⟩, ?_, ?_⟩
      · intro r txn' hr
        cases hr
        exact ⟨⟨(h.pending _ _ hl).call⟩, by simpa [hstrict] using hsrc⟩
      · simp_all
    · exact h
  · exact h

theorem claim_inv (h : ClientInv c) : ClientInv c.claim := by
  simp only [Client.claim]
  split
  · rename_i r txn hr
    obtain ⟨hu, hsrc⟩ := h.matched r txn hr
    split
    · have he := h.erase r.msg.sequence
      refine ⟨he.named, he.calls, fun s t hs => ⟨(he.pending s t hs).call⟩, ?_, ?_⟩
      · simp_all
      · intro r' ch hr'
        cases hr'
        refine ⟨⟨txn.peer, ⟨hu.call⟩, hsrc⟩, ?_⟩
        intro s t hs e
        -- an entry of the same channel stands under the sequence number just removed
        obtain ⟨call, hl, hseq, -⟩ := hu.call
        obtain ⟨call', hl', hseq', -⟩ := (he.pending s t hs).call
        have hl' : c.calls.lookup t.ch = some call' := hl'
        rw [e, hl] at hl'
        cases hl'
        rw [← hseq', hseq, Table.lookup_erase_ite, if_pos rfl] at hs
        cases hs
    · refine ⟨h.named, h.calls, fun s t hs => ⟨(h.pending s t hs).call⟩, ?_, ?_⟩
      · simp_all
      · simp_all
  · exact h

theorem ClientInv.room (h : ClientInv c) {r : Received} (hr : c.reader = .claimed r ch) :
    ∃ call, c.calls.lookup ch = some call ∧ call.chan = none ∧ call.delivered = [] ∧
      Answers call r := by
  obtain ⟨⟨peer, hu, hsrc⟩, -⟩ := h.claimed r ch hr
  obtain ⟨call, hl, hseq, hpeer, hd⟩ := hu.call
  refine ⟨call, hl, ?_, hd, hseq.symm, by rw [hpeer]; exact hsrc⟩
  cases hchan : call.chan with
  | none => rfl
  | some r' =>
    have := (h.calls ch call hl).buffered r' hchan
    simp_all

theorem deliver_inv (h : ClientInv c) : ClientInv c.deliver := by
  simp only [Client.deliver]
  split
  · rename_i r ch hr
    obtain ⟨call, hl, hchan, hd, ha⟩ := h.room hr
    obtain ⟨-, hout⟩ := h.claimed r ch hr
    have hoffer : call.offer r = { call with chan := some r, delivered := [r] } := by
      simp only [Call.offer, hchan, hd]
    have hcall := h.calls ch call hl
    refine ⟨?_, ?_, ?_, ?_, ?_⟩
    · intro id call' hl'
      simp only [Client.setCall, Table.lookup_modify] at hl'
      split at hl'
      · rename_i e
        rw [e]
        exact h.named ch call hl
      · exact h.named id call' hl'
    · intro id call' hl'
      simp only [Client.setCall, Table.lookup_modify, hl] at hl'
      split at hl'
      · cases hl'
        change CallInv (call.offer r)
        rw [hoffer]
        refine ⟨Nat.le_refl 1, ?_, ?_, ?_⟩
        · intro r' hr'
          rw [List.mem_singleton.mp hr']
          exact ⟨ha.sequence, ha.source⟩
        · simp_all
        · intro r' hr'
          have := (hcall.accepted r' hr').1
          simp_all
      · exact h.calls id call' hl'
    · intro s txn hs
      obtain ⟨call', hl', hrest⟩ := (h.pending s txn hs).call
      refine ⟨call', ?_, hrest⟩
      simp only [Client.setCall, Table.lookup_modify, if_neg (hout s txn hs)]
      exact hl'
    · simp_all
    · simp_all
  · exact h

theorem step_clientInv (hstrict : cfg.strictPeerCheck = true) (h : ClientInv c)
    (a : ClientAct) : ClientInv (c.step cfg a) := by
  cases a with
  | start req expected peer => exact start_inv h req expected peer
  | write id ok => exact h.setCall fun call _ => move_write call ok
  | receive id => exact h.setCall fun call _ => move_receive call
  | timeout id cancelled => exact h.setCall fun call _ => move_timeout call cancelled
  | cancel id => exact h.setCall fun call _ => move_cancel call
  | leave id => exact leave_inv h id
  | read src pkt => exact read_inv hstrict h src pkt
  | claim => exact claim_inv h
  | deliver => exact deliver_inv h

end

theorem ClientInv.initial : ClientInv {} where
  named id call hl := by cases hl
  calls id call hl := by cases hl
  pending s txn hl := by cases hl
  matched r txn hr := by cases hr
  claimed r ch hr := by cases hr

structure Served (cfg : Config) (c : Client) : Prop where
  /-- A message that is returned without error answers the request. -/
  returned : ∀ id call r, c.calls.lookup id = some call → call.phase = .returned (.ok r) →
    r.msg.type = call.expected ∧ r.msg.sequence = call.req.sequence ∧ r.src.ip = call.peer.ip
  /-- A channel is put into at most once. -/
  once : ∀ id call, c.calls.lookup id = some call → call.delivered.length ≤ 1
  /-- The loop finds room in the channel and goes on to the next datagram. -/
  ready : ∀ r ch, c.reader = .claimed r ch →
    (∃ call, c.calls.lookup ch = some call ∧ call.chan = none) ∧
      (c.step cfg .deliver).reader = .idle

/-- With the peer check on, in every interleaving of calls, timeouts and datagrams. -/
theorem transactions_served (cfg : Config) (hstrict : cfg.strictPeerCheck = true)
    (acts : List ClientAct) : Served cfg (Machine.run (Client.step cfg) {} acts) := by
  have h : ClientInv (Machine.run (Client.step cfg) {} acts) :=
    Machine.run_invariant ClientInv (fun c a hi => step_clientInv hstrict hi a)
      ClientInv.initial acts
  refine ⟨?_, fun id call hl => (h.calls id call hl).once, ?_⟩
  · intro id call r hl hp
    have hcall := h.calls id call hl
    obtain ⟨hm, ht⟩ := hcall.accepted r (by rw [hp]; rfl)
    exact ⟨ht, (hcall.answers r hm).sequence, (hcall.answers r hm).source⟩
  · intro r ch hr
    obtain ⟨call, hl, hchan, -⟩ := h.room hr
    refine ⟨⟨call, hl, hchan⟩, ?_⟩
    simp only [Client.step, Client.deliver, hr]

section Runs

def pgwAddr : UDPAddr := ⟨.v4 0xc0000202, 2123⟩

def strictConfig : Config := { pgwGTPC := pgwAddr.ip }

def responseFrom (src : UDPAddr) : ClientAct :=
  .read src (([72, 33, 0, 8] ++ [0, 0, 0, 1] ++ [0, 0, 5, 0]))

def forgedAndRepeated : List ClientAct :=
  [.start { type := msgCreateSessionReq, hasTEID := true, sequence := 5 } msgCreateSessionResp
      pgwAddr,
    .write 0 true, responseFrom ⟨.v4 0xcb007163, 2123⟩, .claim, .deliver,
    responseFrom pgwAddr, .claim, .deliver, responseFrom pgwAddr, .claim, .deliver,
    .receive 0, .leave 0]

/-- The caller gets the response of the PGW. -/
theorem forged_not_returned :
    ∃ call r, (Machine.run (Client.step strictConfig) {} forgedAndRepeated).calls.lookup 0 =
        some call ∧ call.phase = .returned (.ok r) ∧ r.msg.type = msgCreateSessionResp ∧
      r.msg.sequence = 5 ∧ r.src.ip = pgwAddr.ip ∧ call.delivered.length ≤ 1 := by
  have hrun : ((Machine.run (Client.step strictConfig) {} forgedAndRepeated).calls.lookup 0).any
      (fun call => call.expected = msgCreateSessionResp && call.req.sequence = 5 &&
        call.peer = pgwAddr && match call.phase with
        | .returned (.ok _) => true
        | _ => false) = true := by
    decide +kernel
  obtain ⟨call, hl, h⟩ := (Option.any_eq_true _ _).mp hrun
  simp only [Bool.and_eq_true, decide_eq_true_eq] at h
  obtain ⟨⟨⟨hexp, hseq⟩, hpeer⟩, hphase⟩ := h
  have hserved := transactions_served strictConfig rfl forgedAndRepeated
  split at hphase
  · rename_i r hret
    obtain ⟨ht, hs, hsrc⟩ := hserved.returned 0 call r hl hret
    exact ⟨call, r, hl, hret, ht.trans hexp, hs.trans hseq, by rw [hsrc, hpeer],
      hserved.once 0 call hl⟩
  · cases hphase

end Runs
end Epdg.S2b
