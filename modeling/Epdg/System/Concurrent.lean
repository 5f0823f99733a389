import Epdg.System.Invariants
import Mathlib.Data.Finset.Card

/-!
Packets and the reaper of half-open SAs as concurrent threads.

`readLoop` hands every packet to a worker of a bounded pool. The worker of an IKE_SA_INIT
request looks at the load and stores the new SA as two steps, and `halfOpenReaperLoop`
decides under the lock of an SA and deletes it by its SPI after the lock was released;
anything may happen between the two. The other handlers hold the lock of their SA from
beginning to end and are one step. The clock is read by every step and never goes back.
-/
namespace Epdg
open Ikev2

namespace Ikev2

structure InitWorker where
  remote : UDPAddr
  pkt : Bytes
  hdr : IKEHeader
  natt : Bool
  req : InitRequest
  sa : SecurityAssociation
  ke : KeyExchange
  nonceI : Bytes
  deriving DecidableEq, Repr

def InitWorker.finish (S : Server) (k : InitWorker) (w : World) (env : Env) : World :=
  initExchange S w env k.remote k.pkt k.hdr k.natt k.req k.sa k.ke k.nonceI

def checkRequest (S : Server) (w : World) (env : Env) (remote : UDPAddr) (pkt : Bytes)
    (hdr : IKEHeader) (natt : Bool) : World × Option InitWorker :=
  match S.codec.decodePayload hdr (pkt.drop ikeHeaderLen) with
  | none => (w, none)
  | some payloads =>
    let req := collectInit payloads
    match req.sa, req.ke, req.nonce with
    | some sa, some ke, some nonceI =>
      let w := touchCookies S w env
      if ¬ cookieGate S w remote hdr req.notifies then
        (sendInitNotify w remote hdr cookieNotify
          (CookieState.hmac S.prims w.cookies.secret hdr.initiatorSPI remote) natt, none)
      else if w.saCount ≥ S.cfg.maxHalfOpen then
        (sendInitNotify w remote hdr temporaryFailure [] natt, none)
      else (w, some ⟨remote, pkt, hdr, natt, req, sa, ke, nonceI⟩)
    | _, _, _ => (sendInitNotify w remote hdr invalidSyntax [] natt, none)

def checkInit (S : Server) (w : World) (env : Env) (remote : UDPAddr) (pkt : Bytes)
    (hdr : IKEHeader) (natt : Bool) : World × Option InitWorker :=
  if hdr.initiatorBit = false ∨ hdr.responseBit = true then (w, none)
  else
    match w.lookupSA hdr.initiatorSPI with
    | some existing =>
      if existing.mu then (w, none)
      else if isRetransmit existing remote then
        (w.emit (.sent remote natt (.initResponse existing.initRespRaw)), none)
      else checkRequest S w env remote pkt hdr natt
    | none => checkRequest S w env remote pkt hdr natt

def resume (S : Server) (env : Env) (out : World × Option InitWorker) : World :=
  match out.2 with
  | none => out.1
  | some k => k.finish S out.1 env

def shouldExpire (S : Server) (w : World) (now : Time) (spiI : UInt64) : Bool :=
  (w.lookupSA spiI).any fun sa =>
    !sa.mu && sa.state = .auth && now - sa.createdAt > S.cfg.halfOpenTimeout

section
variable {S : Server} {w : World} {env : Env} {remote : UDPAddr} {pkt : Bytes}
  {hdr : IKEHeader} {natt : Bool}

section
variable (S : Server) (w : World) (env : Env)

theorem handleIKESAInit_eq (remote : UDPAddr) (pkt : Bytes) (hdr : IKEHeader) (natt : Bool) :
    handleIKESAInit S w env remote pkt hdr natt =
      resume S env (checkInit S w env remote pkt hdr natt) := by
  have hreq : initRequest S w env remote pkt hdr natt =
      resume S env (checkRequest S w env remote pkt hdr natt) := by
    simp only [initRequest, checkRequest]
    cases S.codec.decodePayload hdr (pkt.drop ikeHeaderLen) with
    | none => rfl
    | some payloads =>
      dsimp only
      cases (collectInit payloads).sa with
      | none => rfl
      | some sa =>
        cases (collectInit payloads).ke with
        | none => rfl
        | some ke =>
          cases (collectInit payloads).nonce with
          | none => rfl
          | some nonceI =>
            dsimp only
            split
            · rfl
            · split <;> rfl
  simp only [handleIKESAInit, checkInit]
  split
  · rfl
  cases w.lookupSA hdr.initiatorSPI with
  | none => exact hreq
  | some existing =>
    dsimp only
    split
    · rfl
    split
    · rfl
    · exact hreq

theorem halfOpenCheck_eq (spiI : UInt64) :
    halfOpenCheck S w env spiI = if shouldExpire S w env.now spiI then w.deleteSA spiI else w := by
  cases hl : w.lookupSA spiI with
  | none => simp [halfOpenCheck, shouldExpire, hl]
  | some sa => simp [halfOpenCheck, shouldExpire, hl, and_assoc]

theorem checkInit_sas (remote : UDPAddr) (pkt : Bytes) (hdr : IKEHeader) (natt : Bool) :
    (checkInit S w env remote pkt hdr natt).1.sas = w.sas ∧
    (checkInit S w env remote pkt hdr natt).1.nextRef = w.nextRef := by
  have hreq : (checkRequest S w env remote pkt hdr natt).1.sas = w.sas ∧
      (checkRequest S w env remote pkt hdr natt).1.nextRef = w.nextRef := by
    have ht : (touchCookies S w env).sas = w.sas ∧
        (touchCookies S w env).nextRef = w.nextRef := by
      simp only [touchCookies]
      grind
    simp only [checkRequest]
    split
    · exact ⟨rfl, rfl⟩
    split
    · split
      · exact ht
      · split <;> exact ht
    · exact ⟨rfl, rfl⟩
  simp only [checkInit]
  split
  · exact ⟨rfl, rfl⟩
  split
  · split
    · exact ⟨rfl, rfl⟩
    split
    · exact ⟨rfl, rfl⟩
    · exact hreq
  · exact hreq

end

theorem checkInit_load {k : InitWorker}
    (h : (checkInit S w env remote pkt hdr natt).2 = some k) :
    w.saCount < S.cfg.maxHalfOpen ∧ k.hdr = hdr := by
  have hreq (h : (checkRequest S w env remote pkt hdr natt).2 = some k) :
      w.saCount < S.cfg.maxHalfOpen ∧ k.hdr = hdr := by
    simp only [checkRequest] at h
    split at h
    · cases h
    split at h
    · split at h
      · cases h
      split at h
      · cases h
      rename_i hload
      cases h
      simp_all
    · cases h
  simp only [checkInit] at h
  grind

theorem InitWorker.finish_base (k : InitWorker) {w : World} (hb : Base w) (env : Env) :
    Base (k.finish S w env) := by
  have hw : ∀ out, Base (w.emit (.sent k.remote k.natt out)) :=
    fun _ => hb.congr (fun _ => rfl) (Nat.le_refl _)
  simp only [InitWorker.finish, initExchange]
  split
  · exact hw _
  split
  · exact hw _
  split
  · split
    · exact hw _
    split
    · exact hb
    · exact (hb.alloc rfl).congr (fun _ => rfl) (Nat.le_refl _)
  · exact hb

theorem InitWorker.finish_lookup (k : InitWorker) (w : World) (env : Env) :
    (∀ key, (k.finish S w env).lookupSA key = w.lookupSA key) ∨
      ∃ sa, sa.state = .auth ∧ sa.createdAt = env.now ∧ sa.spiI = k.hdr.initiatorSPI ∧
        ∀ key, (k.finish S w env).lookupSA key =
          if key = k.hdr.initiatorSPI then some sa else w.lookupSA key := by
  simp only [InitWorker.finish, initExchange]
  split
  · exact .inl fun _ => rfl
  rename_i prop propNum _
  split
  · exact .inl fun _ => rfl
  split
  · rename_i spiR nonceR priv _ _ _
    split
    · exact .inl fun _ => rfl
    rename_i shared _
    split
    · grind
    rename_i resp _
    refine .inr ⟨initSA S w env k.remote k.pkt k.hdr k.natt k.req prop k.nonceI nonceR
      shared spiR resp, rfl, rfl, rfl, fun key => ?_⟩
    rw [World.lookupSA_emit, World.lookupSA_allocRef, World.lookupSA_storeSA]
    rfl
  · grind

end
end Ikev2

def Aged (w : World) (k : UInt64) (sa' : IkeSA) : Prop :=
  ∃ sa, w.lookupSA k = some sa ∧ sa'.state = sa.state ∧ sa'.createdAt = sa.createdAt

inductive Advances (S : Server) (w : World) (i : Input) (k : UInt64) : Prop
  | auth (m : Incoming) (pl : AuthPayloads) (hm : incoming S w i = some m)
      (hspi : m.hdr.initiatorSPI = k) (hask : AsksAuth S m.msg m.hdr m.sa pl)
  | rekey (m : Incoming) (hm : incoming S w i = some m)
      (hask : AsksRekey S i.env m.msg m.hdr m.sa k)

section
variable {S : Server} {i : Input} {env : Env} {allowed : Triggers} {w w' : World} {k : UInt64}
  {sa' : IkeSA}

theorem Evolve.createdAt {trace : List Event} {sa : IkeSA} (h : Evolve S trace sa sa') :
    sa'.createdAt = sa.createdAt := by
  cases h with
  | touch _ hc => exact IkeSA.eq_of_core hc IkeSA.createdAt fun _ => rfl
  | auth _ _ hc => exact IkeSA.eq_of_authCore hc IkeSA.createdAt fun _ => rfl
  | openSession _ _ hc =>
    exact (IkeSA.eq_of_authCore hc IkeSA.createdAt fun _ => rfl).trans rfl
  | success | promote | clear => rfl

theorem Quiets.aged (h : Quiets S env allowed w w') (hl : w'.lookupSA k = some sa') :
    Aged w k sa' := by
  induction h generalizing sa' with
  | refl => exact ⟨sa', hl, rfl, rfl⟩
  | tail _ hq ih =>
    obtain ⟨sa1, hl1, he⟩ := hq.evolve hl
    obtain ⟨sa, hsa, hst, hage⟩ := ih hl1
    exact ⟨sa, hsa, he.sameIdentity.state.trans hst, he.createdAt.trans hage⟩

theorem Major.aged {remote : UDPAddr} {msg : Bytes} {hdr : IKEHeader} {w0 : World}
    (h : Major S i.env remote msg hdr w0 w w') (hk : Keyed w0)
    (hin : ∀ sa, w0.lookupSA hdr.initiatorSPI = some sa →
      incoming S w0 i = some ⟨remote, msg, hdr, sa⟩)
    (hno : hdr.exchangeType ≠ exchIKESAInit) (hl : w'.lookupSA k = some sa') :
    Aged w k sa' ∨ sa'.state = .established ∧ Advances S w0 i k := by
  have hsame (hl : w.lookupSA k = some sa') :
      Aged w k sa' ∨ sa'.state = .established ∧ Advances S w0 i k :=
    .inl ⟨sa', hl, rfl, rfl⟩
  cases h.written hl with
  | kept _ _ h => exact hsame h
  | created natt req prop nonceI nonceR shared spiR resp hex => exact (hno hex).elim
  | swmStarted sa h | pending sa _ _ _ _ _ _ h | replaced sa h | challenged sa _ h
  | migrated sa h => exact .inl ⟨sa, h, rfl, rfl⟩
  | established sa spi h ht sa0 pl h0 hsa hask =>
    have hkey : sa.spiI = hdr.initiatorSPI := by
      rw [hsa, ← hk _ _ h0]
      exact IkeSA.noteMobike_keeps IkeSA.spiI (fun _ _ => rfl) _ pl
    exact .inr ⟨rfl, .auth _ pl (hin sa0 h0) hkey.symm hask⟩
  | rekeyed sa prop shared nonceI nonceR spiI spiR h hs ht sa0 h0 hask =>
    exact .inr ⟨rfl, .rekey _ (hin sa0 h0) hask⟩

theorem step_aged (hk : Keyed w)
    (hno : ∀ remote pkt natt msg hdr, i.act = .packet remote pkt natt →
      parsePacket S natt pkt = some (msg, hdr) → hdr.exchangeType ≠ exchIKESAInit)
    (hl : (step S w i).lookupSA k = some sa') :
    Aged w k sa' ∨ sa'.state = .established ∧ Advances S w i k := by
  cases step_shape (S := S) hk i with
  | quiet h => exact .inl (Quiets.aged h hl)
  | major remote pkt natt msg hdr w1 w2 hact hparse h1 hm h2 =>
    obtain ⟨sa2, hl2, hst2, hage2⟩ := Quiets.aged h2 hl
    have hin : ∀ sa, w.lookupSA hdr.initiatorSPI = some sa →
        incoming S w i = some ⟨remote, msg, hdr, sa⟩ := by
      intro sa hsa
      simp [incoming, hact, hparse, hsa]
    rcases hm.aged hk hin (hno _ _ _ _ _ hact hparse) hl2 with hold | ⟨hest, hadv⟩
    · obtain ⟨sa1, hl1, hst1, hage1⟩ := hold
      obtain ⟨sa, hsa, hst, hage⟩ := Quiets.aged h1 hl1
      exact .inl ⟨sa, hsa, hst2.trans (hst1.trans hst), hage2.trans (hage1.trans hage)⟩
    · simp_all

end

structure Threads where
  world : World
  /-- Workers between the load check and the storing of their SA. -/
  workers : List InitWorker := []
  /-- The SPI that the reaper has found expired and is about to delete. -/
  expiring : Option UInt64 := none
  clock : Time

namespace Threads

def initial (secret : Bytes) (now : Time) : Threads :=
  { world := World.initial secret now, clock := now }

inductive Action where
  /-- A datagram, a check of a timer or a request of the PGW. -/
  | input (i : Input)
  /-- The worker at this place goes on after its load check. -/
  | store (n : Nat) (env : Env)
  /-- The reaper goes on after its check. -/
  | delete
  /-- Time passes. -/
  | tick (d : Nat)

def now (c : Threads) (env : Env) : Env := { env with now := c.clock }

def packet (S : Server) (c : Threads) (i : Input) (remote : UDPAddr) (pkt : Bytes)
    (natt : Bool) : Threads :=
  match parsePacket S natt pkt with
  | none => c
  | some (msg, hdr) =>
    if hdr.exchangeType = exchIKESAInit then
      let out := checkInit S c.world (c.now i.env) remote msg hdr natt
      { c with world := out.1, workers := out.2.toList ++ c.workers }
    else { c with world := step S c.world ⟨i.act, c.now i.env⟩ }

def step (S : Server) (c : Threads) : Action → Threads
  | .input i =>
    match i.act with
    | .packet remote pkt natt =>
      -- the read loop drops the datagram when the pool is saturated
      if c.workers.length ≥ S.cfg.workerLimit then c else c.packet S i remote pkt natt
    | .halfOpen spiI =>
      if c.expiring.isSome then c
      else if shouldExpire S c.world c.clock spiI then { c with expiring := some spiI }
      else c
    | .dpd _ | .pgw _ => { c with world := Epdg.step S c.world ⟨i.act, c.now i.env⟩ }
  | .store n env =>
    match c.workers[n]? with
    | none => c
    | some k =>
      { c with world := k.finish S c.world (c.now env), workers := c.workers.eraseIdx n }
  | .delete =>
    match c.expiring with
    | none => c
    | some spiI => { c with world := c.world.deleteSA spiI, expiring := none }
  | .tick d => { c with clock := c.clock + d }

def run (S : Server) (secret : Bytes) (now : Time) (acts : List Action) : Threads :=
  Machine.run (step S) (initial secret now) acts

inductive StepCase (S : Server) (c : Threads) : Action → Threads → Prop
  | idle (a : Action) : StepCase S c a c
  | handled (i : Input)
      (hno : ∀ remote pkt natt msg hdr, i.act = .packet remote pkt natt →
        parsePacket S natt pkt = some (msg, hdr) → hdr.exchangeType ≠ exchIKESAInit) :
      StepCase S c (.input i) { c with world := Epdg.step S c.world ⟨i.act, c.now i.env⟩ }
  | checked (i : Input) (remote : UDPAddr) (pkt : Bytes) (natt : Bool) (msg : Bytes)
      (hdr : IKEHeader) (hact : i.act = .packet remote pkt natt)
      (hparse : parsePacket S natt pkt = some (msg, hdr))
      (hex : hdr.exchangeType = exchIKESAInit) :
      StepCase S c (.input i)
        { c with
          world := (checkInit S c.world (c.now i.env) remote msg hdr natt).1
          workers :=
            (checkInit S c.world (c.now i.env) remote msg hdr natt).2.toList ++ c.workers }
  | decided (i : Input) (spiI : UInt64) (hact : i.act = .halfOpen spiI)
      (hnone : c.expiring = none) (h : shouldExpire S c.world c.clock spiI = true) :
      StepCase S c (.input i) { c with expiring := some spiI }
  | stored (n : Nat) (env : Env) (k : InitWorker) (hk : c.workers[n]? = some k) :
      StepCase S c (.store n env)
        { c with world := k.finish S c.world (c.now env), workers := c.workers.eraseIdx n }
  | deleted (spiI : UInt64) (h : c.expiring = some spiI) :
      StepCase S c .delete { c with world := c.world.deleteSA spiI, expiring := none }
  | ticked (d : Nat) : StepCase S c (.tick d) { c with clock := c.clock + d }

theorem step_cases (S : Server) (c : Threads) (a : Action) : StepCase S c a (step S c a) := by
  cases a with
  | input i =>
    simp only [step]
    split
    · rename_i remote pkt natt hact
      split
      · exact .idle _
      simp only [packet]
      split
      · exact .idle _
      rename_i msg hdr hparse
      split
      · rename_i hex
        exact .checked i remote pkt natt msg hdr hact hparse hex
      rename_i hex
      refine .handled i ?_
      grind
    · rename_i spiI hact
      split
      · exact .idle _
      rename_i hnone
      split
      · rename_i hexp
        exact .decided i spiI hact (by simpa using hnone) hexp
      · exact .idle _
    · rename_i hact
      refine .handled i ?_
      simp_all
    · rename_i hact
      refine .handled i ?_
      simp_all
  | store n env =>
    simp only [step]
    split
    · exact .idle _
    · rename_i k hk
      exact .stored n env k hk
  | delete =>
    simp only [step]
    split
    · exact .idle _
    · rename_i spiI h
      exact .deleted spiI h
  | tick d => exact .ticked d

theorem step_base {S : Server} {c : Threads} (hb : Base c.world) (a : Action) :
    Base (step S c a).world := by
  have hcase := step_cases S c a
  generalize step S c a = c' at hcase
  cases hcase with
  | idle | decided | ticked => exact hb
  | handled => exact Epdg.step_base hb _
  | checked i remote pkt natt msg hdr =>
    obtain ⟨hsas, href⟩ := checkInit_sas S c.world (c.now i.env) remote msg hdr natt
    refine hb.congr (fun k => ?_) (Nat.le_of_eq href.symm)
    simp only [World.lookupSA, hsas]
  | stored n env k => exact k.finish_base hb _
  | deleted spiI =>
    have hl : ∀ k sa, (c.world.deleteSA spiI).lookupSA k = some sa →
        c.world.lookupSA k = some sa := by
      intro k sa h
      simp_all
    exact ⟨fun k sa h => hb.keyed k sa (hl k sa h), fun k sa h => hb.refs k sa (hl k sa h),
      fun k k' sa sa' h h' => hb.unique k k' sa sa' (hl k sa h) (hl k' sa' h')⟩

theorem step_input (S : Server) (w : World) (i : Input) :
    step S { world := w, clock := i.env.now } (.input i) =
        { world := Epdg.step S w i, clock := i.env.now } ∨
      (∃ w' k, step S { world := w, clock := i.env.now } (.input i) =
          { world := w', workers := [k], clock := i.env.now } ∧
        k.finish S w' i.env = Epdg.step S w i) ∨
      ∃ spiI, step S { world := w, clock := i.env.now } (.input i) =
          { world := w, expiring := some spiI, clock := i.env.now } ∧
        w.deleteSA spiI = Epdg.step S w i := by
  have hlimit : ¬ S.cfg.workerLimit ≤ 0 := by
    simp only [Config.workerLimit, Config.orDefault]
    split <;> omega
  obtain ⟨act, env⟩ := i
  cases act with
  | packet remote pkt natt =>
    simp only [step, List.length_nil, ge_iff_le, hlimit, if_false, packet, now, Epdg.step,
      handlePacket]
    cases parsePacket S natt pkt with
    | none => exact .inl rfl
    | some m =>
      obtain ⟨msg, hdr⟩ := m
      dsimp only
      by_cases hex : hdr.exchangeType = exchIKESAInit
      · rw [if_pos hex]
        simp only [handleMessage, if_pos hex, handleIKESAInit_eq, resume]
        cases (checkInit S w env remote msg hdr natt).2 with
        | none => exact .inl rfl
        | some k => exact .inr (.inl ⟨_, k, rfl, rfl⟩)
      · simp_all
  | halfOpen spiI =>
    simp only [step, Option.isSome_none, Bool.false_eq_true, if_false, Epdg.step,
      halfOpenCheck_eq]
    grind
  | dpd spiI => exact .inl rfl
  | pgw ev => exact .inl rfl

theorem run_input (S : Server) (w : World) (i : Input) {t : Time} (ht : t ≤ i.env.now) :
    Machine.run (step S) { world := w, clock := t }
        [.tick (i.env.now - t), .input i, .store 0 i.env, .delete] =
      { world := Epdg.step S w i, clock := i.env.now } := by
  have htick : step S { world := w, clock := t } (.tick (i.env.now - t)) =
      { world := w, clock := i.env.now } := by
    simp only [step]
    rw [Nat.add_sub_of_le ht]
  simp only [Machine.run_cons, Machine.run_nil, htick]
  rcases step_input S w i with h | ⟨w', k, h, hk⟩ | ⟨spiI, h, hd⟩
  · rw [h]
    rfl
  · rw [h, ← hk]
    rfl
  · rw [h, ← hd]
    rfl

theorem run_sequential (S : Server) (w : World) (t : Time) (inputs : List Input)
    (hclock : List.IsChain (· ≤ ·) (t :: inputs.map fun i => i.env.now)) :
    ∃ acts t', Machine.run (step S) { world := w, clock := t } acts =
      { world := Machine.run (Epdg.step S) w inputs, clock := t' } := by
  induction inputs generalizing w t with
  | nil => exact ⟨[], t, rfl⟩
  | cons i inputs ih =>
    rw [List.map_cons, List.isChain_cons_cons] at hclock
    obtain ⟨acts, t', h⟩ := ih (Epdg.step S w i) i.env.now hclock.2
    refine ⟨[.tick (i.env.now - t), .input i, .store 0 i.env, .delete] ++ acts, t', ?_⟩
    rw [Machine.run_append, run_input S w i hclock.1, h, Machine.run_cons]

end Threads
end Epdg
