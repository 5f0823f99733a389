import Epdg.System.History
import Epdg.System.Scenario

/-!
Address updates of a UE with MOBIKE.

An UPDATE_SA_ADDRESSES request is answered by a COOKIE2 challenge, and one that echoes the
outstanding challenge moves the SA to its own source address. The SA keeps the cookie and not
the address it was sent to.
-/
namespace Epdg
open Ikev2
variable {remote x : UDPAddr} {S : Server} {msgID : UInt32} {c2 : Bytes} {trace : List Event}
  {w : World} {i : Input} {k : UInt64}

def updateRequest (S : Server) (w : World) (i : Input) : Option (Incoming × InfoPayloads) :=
  (incoming S w i).bind fun m =>
    if m.hdr.exchangeType = exchInformational ∧ m.sa.mu = false ∧ m.hdr.responseBit = false ∧
        m.sa.state ≠ .deleting then
      (openInfo S m.sa.saKey m.msg).bind fun pl =>
        if pl.hasUpdateSA && m.sa.mobikeEnabled then some (m, pl) else none
    else none

def drawing (S : Server) (w : World) (i : Input) : Option Incoming :=
  (updateRequest S w i).bind fun (m, pl) =>
    if m.sa.espProp.isSome && m.sa.localIP.isSome &&
        (pl.cookie2 = [] || m.sa.cookie2 = none) && i.env.cookie2.isSome then some m
    else none

def challengeMessage (spiI spiR : UInt64) (msgID : UInt32) (c2 : Bytes) : Outgoing :=
  .response spiI spiR exchInformational msgID [.notify cookie2Notify c2]

structure Watched where
  world : World
  announced : UInt64 → Option UDPAddr := fun _ => none

namespace Watched

def initial (secret : Bytes) (now : Time) : Watched := { world := World.initial secret now }

def step (S : Server) (c : Watched) (i : Input) : Watched where
  world := Epdg.step S c.world i
  announced :=
    match drawing S c.world i with
    | some m => Function.update c.announced m.hdr.initiatorSPI (some m.remote)
    | none => c.announced

theorem run_world (S : Server) (c : Watched) (inputs : List Input) :
    (Machine.run (step S) c inputs).world = Machine.run (Epdg.step S) c.world inputs := by
  induction inputs generalizing c with
  | nil => rfl
  | cons i inputs ih => exact ih (step S c i)

end Watched

structure EchoSteady (S : Server) (c : Watched) (i : Input) : Prop where
  sent : ∀ m, drawing S c.world i = some m → i.env.sendFails = false
  source : ∀ m pl, updateRequest S c.world i = some (m, pl) →
    m.sa.cookie2 = some pl.cookie2 → c.announced m.hdr.initiatorSPI = some m.remote

inductive Relocates (S : Server) (w : World) (i : Input) (k : UInt64) (x : UDPAddr) : Prop
  | peer (sa sa' : IkeSA) (hl : w.lookupSA k = some sa) (hst : sa.state = .established)
      (hl' : (step S w i).lookupSA k = some sa') (href : sa'.ref = sa.ref)
      (hold : sa.remoteAddr ≠ x) (hnew : sa'.remoteAddr = x)
  | kernel (m : Incoming) (pl : InfoPayloads) (hup : updateRequest S w i = some (m, pl))
      (hk : m.hdr.initiatorSPI = k) (hx : m.remote = x) (hst : m.sa.state = .established)
      (hdiff : ¬ w.xfrm.SameEntries (step S w i).xfrm)

def EchoesFrom (S : Server) (w : World) (i : Input) (k : UInt64) (x : UDPAddr) : Prop :=
  ∃ m pl natt msgID, updateRequest S w i = some (m, pl) ∧ m.hdr.initiatorSPI = k ∧
    m.remote = x ∧ .sent x natt (challengeMessage m.sa.spiI m.sa.spiR msgID pl.cookie2) ∈ w.trace

section
variable {S : Server} {i : Input} {env : Env} {allowed : Triggers} {w w' : World} {k : UInt64}
  {sa sa' : IkeSA} {m : Incoming} {pl : InfoPayloads}

theorem updateRequest_eq_some :
    updateRequest S w i = some (m, pl) ↔
      incoming S w i = some m ∧ AsksUpdate S m.msg m.hdr m.sa pl := by
  constructor
  · intro h
    obtain ⟨m', hin, h⟩ := Option.bind_eq_some_iff.mp h
    split at h
    · rename_i hreq
      obtain ⟨pl', hopen, h⟩ := Option.bind_eq_some_iff.mp h
      split at h
      · rename_i hup
        cases h
        exact ⟨hin, hreq.1, hreq.2, hopen, by simpa using hup⟩
      · cases h
    · cases h
  · rintro ⟨hin, hex, hreq, hopen, hup⟩
    simp [updateRequest, hin, hex, hreq.1, hreq.2.1, hreq.2.2, hopen, hup.1, hup.2]

theorem incoming_lookup (h : incoming S w i = some m) :
    w.lookupSA m.hdr.initiatorSPI = some m.sa := by
  simp only [incoming] at h
  split at h
  · obtain ⟨p, hp, h⟩ := Option.bind_eq_some_iff.mp h
    obtain ⟨sa, hl, rfl⟩ := Option.map_eq_some_iff.mp h
    exact hl
  · cases h

theorem step_update (h : updateRequest S w i = some (m, pl)) :
    step S w i = handleUpdateSA S (w.storeSA (m.sa.seen i.env.now)) i.env m.remote
      (m.sa.seen i.env.now) m.hdr.messageID pl.cookie2 := by
  obtain ⟨hin, hask⟩ := updateRequest_eq_some.mp h
  have hkey : (m.sa.seen i.env.now).saKey = m.sa.saKey :=
    IkeSA.eq_of_core (seen_core m.sa i.env.now) IkeSA.saKey fun _ => rfl
  simp only [incoming] at hin
  split at hin
  · rename_i remote pkt natt hact
    obtain ⟨p, hp, hm⟩ := Option.bind_eq_some_iff.mp hin
    obtain ⟨sa, hsa, rfl⟩ := Option.map_eq_some_iff.mp hm
    obtain ⟨msg, hdr⟩ := p
    have hex : hdr.exchangeType = exchInformational := hask.exchange
    have hmu : sa.mu = false := hask.request.1
    have hmob : sa.mobikeEnabled = true := hask.update.2
    simp only [step, hact, handlePacket, hp, handleMessage, hex]
    rw [if_neg (by decide), if_neg (by decide), if_neg (by decide), if_pos trivial]
    simp [handleInformational, handleInformationalOn, hmu, hask.request.2.1,
      hask.request.2.2, hsa, hkey, hask.opened, informRequest, hask.update.1,
      seen_mobikeEnabled, hmob]
  · cases hin

theorem step_drawing (h : drawing S w i = some m) :
    ∃ c2, i.env.cookie2 = some c2 ∧ step S w i = mobikeChallenge
      (w.storeSA (m.sa.seen i.env.now)) i.env m.remote (m.sa.seen i.env.now) m.hdr.messageID := by
  obtain ⟨⟨m', pl⟩, hup, h⟩ := Option.bind_eq_some_iff.mp h
  dsimp only at h
  split at h
  · rename_i hdraw
    cases h
    simp only [Bool.and_eq_true, Bool.or_eq_true, decide_eq_true_eq] at hdraw
    obtain ⟨⟨⟨hesp, hip⟩, hcookie⟩, hc2⟩ := hdraw
    obtain ⟨prop, hprop⟩ := Option.isSome_iff_exists.mp hesp
    obtain ⟨localIP, hip⟩ := Option.isSome_iff_exists.mp hip
    obtain ⟨c2, hc2⟩ := Option.isSome_iff_exists.mp hc2
    have hprop' : (m.sa.seen i.env.now).espProp = some prop :=
      (IkeSA.eq_of_core (seen_core m.sa i.env.now) IkeSA.espProp fun _ => rfl).trans hprop
    have hip' : (m.sa.seen i.env.now).localIP = some localIP :=
      (IkeSA.eq_of_core (seen_core m.sa i.env.now) IkeSA.localIP fun _ => rfl).trans hip
    refine ⟨c2, hc2, ?_⟩
    rw [step_update hup]
    simp only [handleUpdateSA, hprop', hip', seen_cookie2]
    grind
  · cases h

theorem lookupSA_mobikeChallenge (hc2 : env.cookie2 = some c2) (key : UInt64) :
    (mobikeChallenge w env remote sa msgID).lookupSA key =
      if key = sa.spiI then some (sa.challenged c2) else w.lookupSA key := by
  simp only [mobikeChallenge, hc2]
  rw [lookupSA_respond, World.lookupSA_storeSA]
  rfl

theorem sent_mobikeChallenge (hc2 : env.cookie2 = some c2) (hsend : env.sendFails = false) :
    .sent remote sa.natT (challengeMessage sa.spiI sa.spiR msgID c2) ∈
      (mobikeChallenge w env remote sa msgID).trace := by
  simp only [mobikeChallenge, hc2, respond, hsend]
  exact List.mem_cons_self

theorem Evolve.cookie2 (h : Evolve S trace sa sa') : sa'.cookie2 = sa.cookie2 := by
  cases h with
  | touch _ hc => exact IkeSA.eq_of_core hc IkeSA.cookie2 fun _ => rfl
  | auth _ _ hc => exact IkeSA.eq_of_authCore hc IkeSA.cookie2 fun _ => rfl
  | openSession _ _ hc =>
    exact (IkeSA.eq_of_authCore hc IkeSA.cookie2 fun _ => rfl).trans rfl
  | success | promote | clear => rfl

theorem Evolve.remoteAddr (h : Evolve S trace sa sa') (hst : sa.state ≠ .auth)
    : sa'.remoteAddr = sa.remoteAddr := by
  cases h with
  | touch _ hc => exact IkeSA.eq_of_core hc IkeSA.remoteAddr fun _ => rfl
  | auth _ hs | openSession _ hs | success _ _ _ hs => exact (hst hs).elim
  | promote | clear => rfl

def SameCookie (w : World) (k : UInt64) (sa' : IkeSA) : Prop :=
  ∃ sa, w.lookupSA k = some sa ∧ sa'.cookie2 = sa.cookie2 ∧ sa'.spiI = sa.spiI ∧
    sa'.spiR = sa.spiR

theorem Quiets.sameCookie (h : Quiets S env allowed w w') (hl : w'.lookupSA k = some sa') :
    SameCookie w k sa' := by
  induction h generalizing sa' with
  | refl => exact ⟨sa', hl, rfl, rfl, rfl⟩
  | tail _ hq ih =>
    obtain ⟨sa1, hl1, he⟩ := hq.evolve hl
    obtain ⟨sa, hsa, hc, hspi, hspr⟩ := ih hl1
    exact ⟨sa, hsa, he.cookie2.trans hc, he.sameIdentity.spiI.trans hspi,
      he.sameIdentity.spiR.trans hspr⟩

theorem SameCookie.quiets (h : SameCookie w' k sa') (hq : Quiets S env allowed w w') :
    SameCookie w k sa' := by
  obtain ⟨sa1, hl1, hc1, hspi1, hspr1⟩ := h
  obtain ⟨sa, hsa, hc, hspi, hspr⟩ := Quiets.sameCookie hq hl1
  exact ⟨sa, hsa, hc1.trans hc, hspi1.trans hspi, hspr1.trans hspr⟩

theorem step_cookie2 (hb : Base w) (hno : drawing S w i = none)
    (hl : (step S w i).lookupSA k = some sa') : sa'.cookie2 = none ∨ SameCookie w k sa' := by
  cases step_shape (S := S) hb.keyed i with
  | quiet h => exact .inr (Quiets.sameCookie h hl)
  | major remote pkt natt msg hdr w1 w2 hact hparse h1 hm h2 =>
    obtain ⟨sa2, hl2, hc2, hspi2, hspr2⟩ := Quiets.sameCookie h2 hl
    rw [hc2]
    have hsame {sa : IkeSA} (h : w1.lookupSA k = some sa) (hc : sa2.cookie2 = sa.cookie2)
        (hspi : sa2.spiI = sa.spiI) (hspr : sa2.spiR = sa.spiR) :
        sa2.cookie2 = none ∨ SameCookie w k sa' :=
      .inr (SameCookie.quiets ⟨sa, h, hc2.trans hc, hspi2.trans hspi, hspr2.trans hspr⟩ h1)
    cases hm.written hl2 with
    | kept _ _ h => exact hsame h rfl rfl rfl
    | created | rekeyed | migrated => exact .inl rfl
    | swmStarted sa h | established sa _ h | pending sa _ _ _ _ _ _ h | replaced sa h =>
      exact hsame h rfl rfl rfl
    | challenged sa c2 h sa0 pl h0 hsa hask hcookie hchild hdraw =>
      have hin : incoming S w i = some ⟨remote, msg, hdr, sa0⟩ := by
        simp [incoming, hact, hparse, h0]
      have hup := updateRequest_eq_some.mpr ⟨hin, hask⟩
      have hcore : sa.core = sa0.core := by rw [hsa]; exact seen_core sa0 i.env.now
      have hdr' : drawing S w i = some ⟨remote, msg, hdr, sa0⟩ := by
        have hc0 : sa.cookie2 = sa0.cookie2 := by rw [hsa]; exact seen_cookie2 sa0 i.env.now
        rw [IkeSA.eq_of_core hcore IkeSA.espProp fun _ => rfl,
          IkeSA.eq_of_core hcore IkeSA.localIP fun _ => rfl] at hchild
        simp only [drawing, hup, Option.bind_some]
        grind
      simp_all

theorem mem_trace_step (hk : Keyed w) {e : Event} (he : e ∈ w.trace) :
    e ∈ (step S w i).trace :=
  (step_shape hk i).invariant (fun w => e ∈ w.trace) (fun h => h.trace_suffix)
    (fun h => h.trace_suffix) he

structure ChallengeInv (c : Watched) : Prop where
  base : Base c.world
  sent : ∀ k sa c2, c.world.lookupSA k = some sa → sa.cookie2 = some c2 →
    ∃ x natt msgID, c.announced k = some x ∧
      .sent x natt (challengeMessage sa.spiI sa.spiR msgID c2) ∈ c.world.trace

theorem step_challengeInv {c : Watched} (hsteady : EchoSteady S c i) (hi : ChallengeInv c) :
    ChallengeInv (Watched.step S c i) := by
  have hb := hi.base
  refine ⟨step_base hb i, ?_⟩
  intro k sa' c2 hl hc2
  simp only [Watched.step] at hl ⊢
  cases hd : drawing S c.world i with
  | none =>
    rcases step_cookie2 hb hd hl with hnone | ⟨sa, hsa, hsame, hspi, hspr⟩
    · simp_all
    obtain ⟨x, natt, msgID, hx, ht⟩ := hi.sent k sa c2 hsa (hsame.symm.trans hc2)
    refine ⟨x, natt, msgID, hx, ?_⟩
    rw [hspi, hspr]
    exact mem_trace_step hb.keyed ht
  | some m =>
    obtain ⟨c2', hdraw, hstep⟩ := step_drawing hd
    obtain ⟨⟨m', pl⟩, hup, hm⟩ := Option.bind_eq_some_iff.mp hd
    have hkey : (m.sa.seen i.env.now).spiI = m.hdr.initiatorSPI := by
      have hm' : m' = m := by simp_all
      rw [hm'] at hup
      have hin := (updateRequest_eq_some.mp hup).1
      rw [(SameIdentity.of_core (seen_core m.sa i.env.now)).spiI]
      exact hb.keyed _ _ (incoming_lookup hin)
    have hstored : ∀ key, key ≠ m.hdr.initiatorSPI →
        (c.world.storeSA (m.sa.seen i.env.now)).lookupSA key = c.world.lookupSA key := by
      simp_all
    rw [hstep, lookupSA_mobikeChallenge hdraw, hkey] at hl
    split at hl
    · cases hl
      cases hc2
      refine ⟨m.remote, (m.sa.seen i.env.now).natT, m.hdr.messageID, ?_, ?_⟩
      · simp_all
      · rw [hstep]
        exact sent_mobikeChallenge hdraw (hsteady.sent m hd)
    · rename_i hne
      rw [hstored k hne] at hl
      obtain ⟨x, natt, msgID, hx, ht⟩ := hi.sent k sa' c2 hl hc2
      refine ⟨x, natt, msgID, ?_, mem_trace_step hb.keyed ht⟩
      simp_all

theorem step_remoteAddr (hb : Base w) (hl : w.lookupSA k = some sa) (hst : sa.state = .established)
    (hl' : (step S w i).lookupSA k = some sa') (href : sa'.ref = sa.ref) :
    sa'.remoteAddr = sa.remoteAddr ∨
      ∃ m pl, updateRequest S w i = some (m, pl) ∧ m.hdr.initiatorSPI = k ∧
        m.sa.cookie2 = some pl.cookie2 ∧ sa'.remoteAddr = m.remote := by
  -- What a quiet effect leaves of the SA, read backwards through the step.
  have hback {env : Env} {allowed : Triggers} {w w' : World} (h : Quiets S env allowed w w')
      {sa' : IkeSA} (hl : w'.lookupSA k = some sa') :
      ∃ sa, w.lookupSA k = some sa ∧ sa'.ref = sa.ref ∧ sa'.state = sa.state ∧
        (sa.state ≠ .auth → sa'.remoteAddr = sa.remoteAddr) := by
    induction h generalizing sa' with
    | refl => exact ⟨sa', hl, rfl, rfl, fun _ => rfl⟩
    | tail _ hq ih =>
      obtain ⟨sa1, hl1, he⟩ := hq.evolve hl
      obtain ⟨sa, hsa, hr, hs, ha⟩ := ih hl1
      refine ⟨sa, hsa, he.sameIdentity.ref.trans hr, he.sameIdentity.state.trans hs, ?_⟩
      intro hne
      exact (he.remoteAddr (by rw [hs]; exact hne)).trans (ha hne)
  cases step_shape (S := S) hb.keyed i with
  | quiet h => grind
  | major remote pkt natt msg hdr w1 w2 hact hparse h1 hm h2 =>
    obtain ⟨sa2, hl2, hr2, hs2, ha2⟩ := hback h2 hl'
    -- the SA as the major effect found it
    have hfound {sa1 : IkeSA} (h : w1.lookupSA k = some sa1) :
        sa1.state = .established ∧ sa1.remoteAddr = sa.remoteAddr := by
      grind
    have hkeep {sa1 : IkeSA} (h : w1.lookupSA k = some sa1) (hs : sa2.state = .established)
        (ha : sa2.remoteAddr = sa1.remoteAddr) : sa'.remoteAddr = sa.remoteAddr :=
      (ha2 (by simp [hs])).trans (ha.trans (hfound h).2)
    -- an SA stored for the first time has an identity of its own
    have hnew (h : sa2.ref = w1.nextRef) : False := by
      have hlt := hb.refs k sa hl
      rw [h1.nextRef, ← hr2, href] at h
      omega
    cases hm.written hl2 with
    | kept _ _ h => exact .inl (hkeep h (hfound h).1 rfl)
    | created | rekeyed => exact (hnew rfl).elim
    | swmStarted sa1 h hs => simp_all
    | established sa1 _ h | pending sa1 _ _ _ _ _ _ h | replaced sa1 h | challenged sa1 _ h =>
      first
        | exact .inl (hkeep h rfl rfl)
        | exact .inl (hkeep h (hfound h).1 rfl)
    | migrated sa1 h hs sa0 pl h0 hsa hask hcookie =>
      have hin : incoming S w i = some ⟨remote, msg, hdr, sa0⟩ := by
        simp [incoming, hact, hparse, h0]
      refine .inr ⟨_, pl, updateRequest_eq_some.mpr ⟨hin, hask⟩, ?_, ?_, ?_⟩
      · rw [hsa, (SameIdentity.of_core (seen_core sa0 i.env.now)).spiI]
        exact (hb.keyed _ _ h0).symm
      · rw [← seen_cookie2 sa0 i.env.now, ← hsa]
        exact hcookie
      · exact ha2 (by simp [IkeSA.migrated, (hfound h).1])

theorem respond_xfrm (w : World) (env : Env) (remote : UDPAddr) (sa : IkeSA) (exch : UInt8)
    (msgID : UInt32) (inner : List OutPayload) (natt : Bool) :
    (respond w env remote sa exch msgID inner natt).xfrm = w.xfrm := by
  simp only [respond]
  split <;> rfl

theorem mobikeChallenge_xfrm (w : World) (env : Env) (remote : UDPAddr) (sa : IkeSA)
    (msgID : UInt32) : (mobikeChallenge w env remote sa msgID).xfrm = w.xfrm := by
  simp only [mobikeChallenge]
  split
  · exact respond_xfrm w env remote sa _ _ _ _
  · rw [respond_xfrm]
    rfl

theorem step_update_xfrm (h : updateRequest S w i = some (m, pl))
    (hcookie : m.sa.cookie2 ≠ some pl.cookie2) : (step S w i).xfrm = w.xfrm := by
  rw [step_update h]
  simp only [handleUpdateSA, seen_cookie2, respondEmpty]
  split
  · split
    · rename_i expected hexp
      split
      · rw [mobikeChallenge_xfrm]
        rfl
      split
      · rw [respond_xfrm]
        rfl
      rename_i heq
      have : pl.cookie2 = expected :=
        (Bytes.constEqual_iff _ _).mp (by simpa using heq)
      simp_all
    · rw [mobikeChallenge_xfrm]
      rfl
  · rw [respond_xfrm]
    rfl

theorem Relocates.echo (h : Relocates S w i k x) (hb : Base w) :
    ∃ m pl, updateRequest S w i = some (m, pl) ∧ m.hdr.initiatorSPI = k ∧ m.remote = x ∧
      m.sa.cookie2 = some pl.cookie2 := by
  cases h with
  | peer sa sa' hl hst hl' href hold hnew =>
    rcases step_remoteAddr hb hl hst hl' href with hsame | ⟨m, pl, hup, hk, hc, hx⟩
    · simp_all
    · simp_all
  | kernel m pl hup hk hx hst hdiff =>
    refine ⟨m, pl, hup, hk, hx, ?_⟩
    by_contra hc
    rw [step_update_xfrm hup hc] at hdiff
    exact hdiff (Xfrm.Kernel.SameEntries.refl _)

/-- An established SA moves only to an address that was challenged and echoes the challenge, in
every run whose echoes come from where their challenges were drawn. -/
theorem mobike_moves_to_challenged {secret : Bytes} {now : Time} {before rest : List Input}
    {x : UDPAddr}
    (hsteady : Machine.Guarded (Watched.step S) (EchoSteady S) (Watched.initial secret now)
      (before ++ i :: rest))
    (hmove : Relocates S (runFrom S secret now before) i k x) :
    EchoesFrom S (runFrom S secret now before) i k x := by
  rw [Machine.guarded_append] at hsteady
  have hinit : ChallengeInv (Watched.initial secret now) := by
    refine ⟨Base.initial secret now, ?_⟩
    intro k sa c2 hl
    cases hl
  have hinv := hsteady.1.invariant ChallengeInv
    (fun _ _ hi hok => step_challengeInv hok hi) hinit
  have hw := Watched.run_world S (Watched.initial secret now) before
  generalize Machine.run (Watched.step S) (Watched.initial secret now) before = c at *
  change c.world = runFrom S secret now before at hw
  rw [← hw] at hmove ⊢
  obtain ⟨m, pl, hup, hk, hx, hc⟩ := hmove.echo hinv.base
  have hin := (updateRequest_eq_some.mp hup).1
  obtain ⟨y, natt, msgID, hy, hsent⟩ := hinv.sent _ _ _ (incoming_lookup hin) hc
  have hfrom := hsteady.2.1.source m pl hup hc
  rw [hfrom] at hy
  cases hy
  exact ⟨m, pl, natt, msgID, hup, hk, hx, by rw [← hx]; exact hsent⟩

end

section Runs
open Scenario

def announcedMove : List Input :=
  attached ++ [⟨.packet ueMoved (informMessage 0x11 0x21 7 (updateAddresses [])) false,
    { now := 10, cookie2 := some (nonceOf 12) }⟩]

def echoFrom (remote : UDPAddr) : Input :=
  ⟨.packet remote (informMessage 0x11 0x21 8 (updateAddresses (nonceOf 12))) false, { now := 11 }⟩

def elsewhere : UDPAddr := ⟨.v4 0xcb007163, 500⟩

def sentTo (x : UDPAddr) : Event → Bool
  | .sent remote _ _ => remote = x
  | _ => false

theorem EchoesFrom.sentTo (h : EchoesFrom S w i k x) : w.trace.any (sentTo x) = true := by
  obtain ⟨_, _, natt, msgID, -, -, -, ht⟩ := h
  exact List.any_eq_true.mpr ⟨_, ht, decide_eq_true rfl⟩

def moves (w w' : World) (k : UInt64) : Option (UDPAddr × UDPAddr) :=
  match w.lookupSA k, w'.lookupSA k with
  | some sa, some sa' =>
    if sa.state = .established ∧ sa'.ref = sa.ref then some (sa.remoteAddr, sa'.remoteAddr)
    else none
  | _, _ => none

theorem Relocates.of_moves {y : UDPAddr} (h : moves w (step S w i) k = some (y, x)) (hne : y ≠ x)
    : Relocates S w i k x := by
  simp only [moves] at h
  split at h
  · rename_i sa sa' hl hl'
    split at h
    · rename_i hc
      cases h
      exact .peer sa sa' hl hc.1 hl' hc.2 hne rfl
    · cases h
  · cases h

def echoSteadyCheck (S : Server) (c : Watched) (i : Input) : Bool :=
  ((drawing S c.world i).isNone || !i.env.sendFails) &&
    (updateRequest S c.world i).all fun (m, pl) =>
      m.sa.cookie2 ≠ some pl.cookie2 || c.announced m.hdr.initiatorSPI = some m.remote

theorem echoSteady_of_check (c : Watched) (i : Input) (h : echoSteadyCheck S c i = true)
    : EchoSteady S c i := by
  simp only [echoSteadyCheck, Bool.and_eq_true] at h
  constructor
  · grind
  · grind

/-- The challenge comes back from where it was sent. -/
theorem announced_move_echoes :
    Relocates server (after announcedMove) (echoFrom ueMoved) 0x11 ueMoved ∧
      EchoesFrom server (after announcedMove) (echoFrom ueMoved) 0x11 ueMoved := by
  have hrun : Machine.checks (Watched.step server) (echoSteadyCheck server)
        (Watched.initial [1] 0) (announcedMove ++ [echoFrom ueMoved]) = true ∧
      moves (after announcedMove)
        (step server (after announcedMove) (echoFrom ueMoved)) 0x11 = some (ue, ueMoved) := by
    decide +kernel
  have hmove : Relocates server (after announcedMove) (echoFrom ueMoved) 0x11 ueMoved :=
    .of_moves hrun.2 (by decide)
  exact ⟨hmove, mobike_moves_to_challenged
    (Machine.Guarded.of_checks echoSteady_of_check hrun.1) hmove⟩

/-- The challenge went to one address and the echo comes from another: the SA moves to the
second, which was never sent anything. -/
theorem mobike_moves_unchallenged :
    Relocates server (after announcedMove) (echoFrom elsewhere) 0x11 elsewhere ∧
      ¬ EchoesFrom server (after announcedMove) (echoFrom elsewhere) 0x11 elsewhere := by
  have hrun : moves (after announcedMove)
        (step server (after announcedMove) (echoFrom elsewhere)) 0x11 = some (ue, elsewhere) ∧
      (after announcedMove).trace.any (sentTo elsewhere) = false := by
    decide +kernel
  refine ⟨.of_moves hrun.1 (by decide), ?_⟩
  intro h
  rw [h.sentTo] at hrun
  cases hrun.2

end Runs
end Epdg
