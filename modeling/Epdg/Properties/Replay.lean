import Epdg.System.Invariants
import Epdg.System.Scenario

/-!
Copies of authenticated requests.

No handler looks at the message id of a request except to answer the first IKE_AUTH
request again. Whether a copy has a second effect depends on the state it meets: a request
is `Spent` on an SA whose state makes the handler answer it, or drop it, and do nothing
else.
-/
namespace Epdg
open Ikev2

structure ChildState where
  espProp : Option ChildProposal
  espPropNum : UInt8
  peerESPSPI : UInt32
  localESPSPI : UInt32
  nonceI : Bytes
  nonceR : Bytes
  pendingESPProp : Option ChildProposal
  pendingESPPropNum : UInt8
  pendingPeerESPSPI : UInt32
  pendingLocalESPSPI : UInt32
  pendingNonceI : Bytes
  pendingNonceR : Bytes
  deriving DecidableEq

def Ikev2.IkeSA.childState (sa : IkeSA) : ChildState :=
  ⟨sa.espProp, sa.espPropNum, sa.peerESPSPI, sa.localESPSPI, sa.nonceI, sa.nonceR,
    sa.pendingESPProp, sa.pendingESPPropNum, sa.pendingPeerESPSPI, sa.pendingLocalESPSPI,
    sa.pendingNonceI, sa.pendingNonceR⟩

structure NoSecondEffect (w w' : World) : Prop where
  events : ∃ new, w'.trace = new ++ w.trace ∧ ∀ e ∈ new, ∃ dst natt msg, e = .sent dst natt msg
  child : ∀ k, (w'.lookupSA k).map IkeSA.childState = (w.lookupSA k).map IkeSA.childState
  xfrm : w.xfrm.SameEntries w'.xfrm
  pgw : w'.pgw = w.pgw

def Ikev2.IkeSA.Records (sa : IkeSA) (spi : UInt32) : Prop :=
  sa.espProp.isSome = true ∧ (spi = sa.localESPSPI ∨ spi = sa.peerESPSPI) ∨
    sa.pendingESPProp.isSome = true ∧
      (spi = sa.pendingLocalESPSPI ∨ spi = sa.pendingPeerESPSPI)

structure Spent (S : Server) (w : World) (env : Env) (remote : UDPAddr) (msg : Bytes)
    (hdr : IKEHeader) (sa : IkeSA) : Prop where
  /-- An IKE_AUTH request is past its round: not the first one, without EAP, and without
  the AUTH value that completes the exchange. -/
  auth : hdr.exchangeType = exchIKEAuth → sa.state = .auth → ∀ pl,
    openAuth S sa.saKey msg = some (some pl) →
      sa.eapRound ≠ 0 ∧ (pl.auth = none → pl.eapRaw = []) ∧
      ∀ auth, pl.auth = some auth → ¬ (sa.msk.length = 64 ∧ expectedAuth S.prims sa = auth)
  /-- A CHILD SA rekey is refused, or its outbound state is in the kernel already. -/
  childSA : hdr.exchangeType = exchCreateChildSA → sa.state = .established →
    ∀ offer nonceI ke, openChild S sa.saKey msg = some (.childSA offer nonceI ke) →
      ∀ prop num spi localIP, selectAndExtractESP offer = some (prop, num, spi) →
        sa.localIP = some localIP →
          (∃ type data, childDH S env prop ke = .reject type data) ∨
            (w.xfrm.states.lookup ⟨localIP, remote.ip, spi⟩).isSome = true
  ikeSA : hdr.exchangeType = exchCreateChildSA → sa.state = .established →
    ∀ offer nonceI ke, openChild S sa.saKey msg = some (.ikeSA offer nonceI ke) →
      ∀ newSPII, ¬ IkeRekeyAccepted S env offer ke newSPII
  /-- An address update does not echo the outstanding COOKIE2. -/
  mobike : hdr.exchangeType = exchInformational → hdr.responseBit = false →
    sa.state ≠ .deleting → ∀ pl, openInfo S sa.saKey msg = some pl →
      pl.hasUpdateSA = true → sa.mobikeEnabled = true → sa.cookie2 ≠ some pl.cookie2
  /-- A DELETE names neither the IKE SA nor a CHILD SA it records. -/
  delete : hdr.exchangeType = exchInformational → hdr.responseBit = false →
    sa.state ≠ .deleting → ∀ pl, openInfo S sa.saKey msg = some pl →
      ¬ (pl.hasUpdateSA = true ∧ sa.mobikeEnabled = true) →
        pl.deleteIKE = false ∧ ∀ spi ∈ pl.deleteESPSPIs, ¬ sa.Records spi

namespace NoSecondEffect
variable {S : Server} {env : Env} {remote : UDPAddr} {w w1 w2 : World} {sa : IkeSA}

theorem refl (w : World) : NoSecondEffect w w :=
  ⟨⟨[], rfl, by simp⟩, fun _ => rfl, .refl _, rfl⟩

theorem trans (h1 : NoSecondEffect w w1) (h2 : NoSecondEffect w1 w2) :
    NoSecondEffect w w2 := by
  obtain ⟨n1, e1, a1⟩ := h1.events
  obtain ⟨n2, e2, a2⟩ := h2.events
  refine ⟨⟨n2 ++ n1, by simp [e1, e2], fun e he => ?_⟩, fun k => (h2.child k).trans (h1.child k),
    h1.xfrm.trans h2.xfrm, h2.pgw.trans h1.pgw⟩
  grind

theorem countP_eq (h : NoSecondEffect w w1) (p : Event → Bool)
    (hp : ∀ dst natt msg, p (.sent dst natt msg) = false) :
    w1.trace.countP p = w.trace.countP p := by
  obtain ⟨new, htrace, hsent⟩ := h.events
  have hnew : new.countP p = 0 := by grind
  simp_all

theorem respond (w : World) (sa : IkeSA) (exch : UInt8) (msgID : UInt32)
    (inner : List OutPayload) (natt : Bool) :
    NoSecondEffect w (Ikev2.respond w env remote sa exch msgID inner natt) := by
  unfold Ikev2.respond
  split
  · exact refl w
  · refine ⟨⟨[_], rfl, fun e he => ?_⟩, fun _ => rfl, .refl _, rfl⟩
    simp_all

theorem sendEAPResponse (w : World) (sa : IkeSA) (msgID : UInt32) (eap : Bytes)
    (includeID natt : Bool) :
    NoSecondEffect w (Ikev2.sendEAPResponse S w env remote sa msgID eap includeID natt) := by
  unfold Ikev2.sendEAPResponse sendAuthNotify
  split
  · dsimp only
    split <;> exact respond _ _ _ _ _ _
  · exact respond _ _ _ _ _ _

theorem kernel (w : World) {k : Xfrm.Kernel} (h : w.xfrm.SameEntries k) :
    NoSecondEffect w (w.setKernel k) :=
  ⟨⟨[], rfl, by simp⟩, fun _ => rfl, h, rfl⟩

theorem storeSA {sa' : IkeSA} (hl : w.lookupSA sa.spiI = some sa) (hs : sa'.spiI = sa.spiI)
    (hc : sa'.childState = sa.childState) : NoSecondEffect w (w.storeSA sa') := by
  refine ⟨⟨[], rfl, by simp⟩, fun k => ?_, .refl _, rfl⟩
  rw [World.lookupSA_storeSA, hs]
  grind

end NoSecondEffect

section
variable {S : Server} {env : Env} {remote : UDPAddr} {w : World} {msg : Bytes}
  {hdr : IKEHeader} {natt : Bool} {sa : IkeSA}

theorem handleIKEAuthOn_spent (hex : hdr.exchangeType = exchIKEAuth)
    (hl : w.lookupSA sa.spiI = some sa) (hsp : Spent S w env remote msg hdr sa) :
    NoSecondEffect w (handleIKEAuthOn S w env remote msg hdr natt sa) := by
  unfold handleIKEAuthOn
  split
  · exact .refl w
  rename_i hst
  have hs : sa.state = .auth := by simp_all
  have hheard : NoSecondEffect w (w.storeSA (sa.heard remote env.now)) := .storeSA hl rfl rfl
  refine hheard.trans ?_
  dsimp only
  split
  · exact .refl _
  · exact .respond _ _ _ _ _ _
  rename_i pl hopen
  obtain ⟨hround, heap, hauth⟩ := hsp.auth hex hs pl hopen
  have hkeep {α : Type} (f : IkeSA → α)
      (hf : ∀ (s : IkeSA) (b : Bool), f { s with mobikeEnabled := b } = f s) :
      f ((sa.heard remote env.now).noteMobike pl) = f (sa.heard remote env.now) :=
    IkeSA.noteMobike_keeps f hf _ pl
  have hspi := hkeep IkeSA.spiI fun _ _ => rfl
  have hchild := hkeep IkeSA.childState fun _ _ => rfl
  have hr := hkeep IkeSA.eapRound fun _ _ => rfl
  have hmsk : ((sa.heard remote env.now).noteMobike pl).msk = sa.msk :=
    hkeep IkeSA.msk fun _ _ => rfl
  have hexp : expectedAuth S.prims ((sa.heard remote env.now).noteMobike pl) =
      expectedAuth S.prims sa := hkeep (expectedAuth S.prims) fun _ _ => rfl
  generalize (sa.heard remote env.now).noteMobike pl = sa1 at hspi hchild hr hmsk hexp ⊢
  refine NoSecondEffect.trans (.storeSA (lookupSA_stored w (sa.heard remote env.now)) hspi
    hchild) ?_
  unfold authDispatch
  split
  · rename_i h0
    exact (hround (hr.symm.trans h0)).elim
  split
  · unfold handleAuthFinal
    split
    · exact .respond _ _ _ _ _ _
    rename_i hlen
    split
    · simp_all
    rename_i auth hpl
    split
    · exact .respond _ _ _ _ _ _
    rename_i hmac
    refine (hauth auth hpl ⟨?_, ?_⟩).elim
    · grind
    · rw [hexp] at hmac
      exact (Bytes.constEqual_iff _ _).mp (by simpa using hmac)
  · rename_i hno
    have hnone : pl.auth = none := by simpa using hno
    unfold handleAuthEAP
    rw [if_pos (heap hnone)]
    split
    · exact .sendEAPResponse _ _ _ _ _ _
    · exact .refl _

theorem handleCreateChildSAOn_spent (hex : hdr.exchangeType = exchCreateChildSA)
    (hl : w.lookupSA sa.spiI = some sa) (hsp : Spent S w env remote msg hdr sa) :
    NoSecondEffect w (handleCreateChildSAOn S w env remote msg hdr sa) := by
  unfold handleCreateChildSAOn
  split
  · exact .refl w
  rename_i hst
  have hs : sa.state = .established := by simp_all
  have hseen : NoSecondEffect w (w.storeSA (sa.refreshed env.now)) := .storeSA hl rfl rfl
  refine hseen.trans ?_
  dsimp only
  split
  · exact .refl _
  · exact .respond _ _ _ _ _ _
  · rename_i offer nonceI ke hopen
    unfold handleChildSARekey
    split
    · exact .respond _ _ _ _ _ _
    rename_i prop num peerSPI hsel
    split
    · exact .respond _ _ _ _ _ _
    rename_i hnr
    split
    · unfold childRekeyInstall
      dsimp only
      split
      · exact .respond _ _ _ _ _ _
      · rename_i p k hadd
        obtain ⟨-, -, -, hfail⟩ := addPendingStates_some hadd
        exact NoSecondEffect.trans (.kernel _ (Xfrm.addChildSAStates_fail hfail))
          (.respond _ _ _ _ _ _)
      rename_i p k hadd
      obtain ⟨localIP, hip, rfl, hok⟩ := addPendingStates_some hadd
      have hfree := (Xfrm.addChildSAStates_ok hok).1.outFree
      rcases hsp.childSA hex hs offer nonceI ke hopen prop num peerSPI localIP hsel hip
        with ⟨type, data, hdh⟩ | htaken
      · simp_all
      · have hnone : w.xfrm.states.lookup ⟨localIP, remote.ip, peerSPI⟩ = none := hfree
        simp [hnone] at htaken
    · exact .refl _
  · rename_i offer nonceI ke hopen
    have hno := hsp.ikeSA hex hs offer nonceI ke hopen
    have hcase := handleIKESARekey_cases S (w.storeSA (sa.refreshed env.now)) env remote
      (sa.refreshed env.now) hdr offer nonceI ke
    generalize handleIKESARekey S (w.storeSA (sa.refreshed env.now)) env remote
      (sa.refreshed env.now) hdr offer nonceI ke = out at hcase
    cases hcase with
    | dropped => exact .refl _
    | refused => exact .respond _ _ _ _ _ _
    | accepted prop num nonceR priv shared newSPII newSPIR out hp =>
      exact (hno newSPII ⟨prop, num, nonceR, priv, shared, newSPIR, hp⟩).elim

theorem deleteESPs_spent (spis : List UInt32) (h : ∀ spi ∈ spis, ¬ sa.Records spi) :
    deleteESPs S.prims w sa spis = w := by
  induction spis with
  | nil => rfl
  | cons spi rest ih =>
    have hno := h spi (by simp)
    simp only [IkeSA.Records, not_or] at hno
    have hone : deleteESP S.prims w sa spi = (w, sa) := by
      unfold deleteESP
      grind
    unfold deleteESPs
    simp_all

theorem mobikeChallenge_noEffect (hl : w.lookupSA sa.spiI = some sa) (msgID : UInt32) :
    NoSecondEffect w (mobikeChallenge w env remote sa msgID) := by
  unfold mobikeChallenge
  split
  · exact .respond _ _ _ _ _ _
  rename_i c2 _
  have hstore : NoSecondEffect w (w.storeSA (sa.challenged c2)) := .storeSA hl rfl rfl
  exact hstore.trans (.respond _ _ _ _ _ _)

theorem handleUpdateSA_spent {msgID : UInt32} {incoming : Bytes}
    (hl : w.lookupSA sa.spiI = some sa) (hne : sa.cookie2 ≠ some incoming) :
    NoSecondEffect w (handleUpdateSA S w env remote sa msgID incoming) := by
  unfold handleUpdateSA
  split
  · split
    · rename_i expected hexp
      split
      · exact mobikeChallenge_noEffect hl msgID
      split
      · exact .respond _ _ _ _ _ _
      rename_i heq
      have hc : incoming = expected := by
        rw [← Bytes.constEqual_iff]
        simpa using heq
      simp_all
    · exact mobikeChallenge_noEffect hl msgID
  · exact .respond _ _ _ _ _ _

theorem handleInformationalOn_spent (hex : hdr.exchangeType = exchInformational)
    (hl : w.lookupSA sa.spiI = some sa) (hsp : Spent S w env remote msg hdr sa) :
    NoSecondEffect w (handleInformationalOn S w env remote msg hdr sa) := by
  have hid := SameIdentity.of_core (seen_core sa env.now)
  have hseen : NoSecondEffect w (w.storeSA (sa.seen env.now)) :=
    .storeSA hl hid.spiI (IkeSA.eq_of_core (seen_core sa env.now) IkeSA.childState fun _ => rfl)
  unfold handleInformationalOn
  split
  · exact .refl w
  split
  · split
    · exact hseen
    · exact .refl w
  rename_i hresp
  have hr : hdr.responseBit = false := by simpa using hresp
  split
  · exact .refl w
  rename_i hdel
  refine hseen.trans ?_
  dsimp only
  rw [hid.saKey]
  split
  · exact .refl _
  rename_i pl hopen
  have hmob := seen_mobikeEnabled sa env.now
  unfold informRequest
  split
  · rename_i hup
    simp only [Bool.and_eq_true, hmob] at hup
    exact handleUpdateSA_spent (lookupSA_stored _ _) (by
      rw [seen_cookie2]
      exact hsp.mobike hex hr hdel pl hopen hup.1 hup.2)
  rename_i hup
  have hnot : ¬ (pl.hasUpdateSA = true ∧ sa.mobikeEnabled = true) := by simp_all
  obtain ⟨hike, hesp⟩ := hsp.delete hex hr hdel pl hopen hnot
  have hrec : ∀ spi ∈ pl.deleteESPSPIs, ¬ (sa.seen env.now).Records spi := by
    intro spi hmem
    rw [IkeSA.eq_of_core (seen_core sa env.now) (IkeSA.Records · spi) fun _ => rfl]
    exact hesp spi hmem
  dsimp only
  rw [if_neg (by simp [hike]), deleteESPs_spent _ hrec]
  exact .respond _ _ _ _ _ _

def SpentDatagram (S : Server) (w : World) (i : Input) : Prop :=
  ∀ remote pkt natt msg hdr sa, i.act = .packet remote pkt natt →
    parsePacket S natt pkt = some (msg, hdr) → w.lookupSA hdr.initiatorSPI = some sa →
      sa.mu = false → Spent S w i.env remote msg hdr sa

def AuthenticRequest (S : Server) (w : World) (pkt : Bytes) (natt : Bool) : Prop :=
  ∃ msg hdr sa, parsePacket S natt pkt = some (msg, hdr) ∧
    hdr.exchangeType ≠ exchIKESAInit ∧ w.lookupSA hdr.initiatorSPI = some sa ∧
    (decryptSK S.prims sa.saKey msg).isSome = true

def IsCopy (S : Server) (secret : Bytes) (now : Time) (before : List Input) (i : Input) :
    Prop :=
  ∃ pre first post remote remote' pkt natt, before = pre ++ first :: post ∧
    first.act = .packet remote pkt natt ∧ i.act = .packet remote' pkt natt ∧
    AuthenticRequest S (runFrom S secret now pre) pkt natt

theorem step_spent {i : Input} {pkt : Bytes} (hb : Base w) (hact : i.act = .packet remote pkt natt)
    (hparse : parsePacket S natt pkt = some (msg, hdr))
    (hex : hdr.exchangeType ≠ exchIKESAInit) (hsp : SpentDatagram S w i) :
    NoSecondEffect w (step S w i) := by
  have hstored {sa : IkeSA} (hl : w.lookupSA hdr.initiatorSPI = some sa) :
      w.lookupSA sa.spiI = some sa := by
    rw [hb.keyed _ _ hl]
    exact hl
  have hspent {sa : IkeSA} (hl : w.lookupSA hdr.initiatorSPI = some sa) (hmu : sa.mu = false) :
      Spent S w i.env remote msg hdr sa := hsp _ _ _ _ _ sa hact hparse hl hmu
  unfold step
  rw [hact]
  dsimp only
  unfold handlePacket
  rw [hparse]
  dsimp only
  unfold handleMessage
  rw [if_neg hex]
  split
  · rename_i hx
    unfold handleIKEAuth
    split
    · exact .refl w
    split
    · exact .refl w
    rename_i sa hl
    by_cases hmu : sa.mu = true
    · simp [handleIKEAuthOn, hmu, NoSecondEffect.refl]
    · exact handleIKEAuthOn_spent hx (hstored hl) (hspent hl (by simpa using hmu))
  · split
    · rename_i hx
      unfold handleCreateChildSA
      split
      · exact .refl w
      rename_i sa hl
      by_cases hmu : sa.mu = true
      · simp [handleCreateChildSAOn, hmu, NoSecondEffect.refl]
      · exact handleCreateChildSAOn_spent hx (hstored hl) (hspent hl (by simpa using hmu))
    · split
      · rename_i hx
        unfold handleInformational
        split
        · exact .refl w
        split
        · exact .refl w
        rename_i sa hl
        by_cases hmu : sa.mu = true
        · simp [handleInformationalOn, hmu, NoSecondEffect.refl]
        · exact handleInformationalOn_spent hx (hstored hl)
            (hspent hl (by simpa using hmu))
      · exact .refl w

end

/-- In every run in which the copies of authenticated requests meet SAs on which they are
spent, no copy has an effect of its own. -/
theorem copies_have_no_second_effect (S : Server) (secret : Bytes) (now : Time)
    (inputs : List Input)
    (hspent : ∀ before i rest, inputs = before ++ i :: rest → IsCopy S secret now before i →
      SpentDatagram S (runFrom S secret now before) i) :
    ∀ before i rest, inputs = before ++ i :: rest → IsCopy S secret now before i →
      NoSecondEffect (runFrom S secret now before) (runFrom S secret now (before ++ [i])) := by
  intro before i rest hsplit hcopy
  have hsp := hspent before i rest hsplit hcopy
  obtain ⟨pre, first, post, remote, remote', pkt, natt, -, -, hact, hauth⟩ := hcopy
  obtain ⟨msg, hdr, sa, hparse, hex, -, -⟩ := hauth
  have hbase : Base (runFrom S secret now before) := Reachable.base ⟨secret, now, before, rfl⟩
  have hstep : runFrom S secret now (before ++ [i]) = step S (runFrom S secret now before) i := by
    simp [runFrom, Machine.run_append]
  rw [hstep]
  exact step_spent hbase hact hparse hex hsp

section Runs
open Scenario

def round1Repeated : List Input :=
  [Attach.init {} 1 (some gateway), Attach.round1 {} 2 challengeAnswer,
    Attach.round1 {} 3 challengeAnswer]

def round1Packet : Bytes :=
  sealed 0x11 0x21 exchIKEAuth 1
    (round1Chain (Bytes.ascii "0001010000000001@wlan") (some (offerESP 0x51 false)))

private theorem parse_round1 : parsePacket server false round1Packet =
    some (round1Packet, sealedHeader 0x11 0x21 exchIKEAuth 1) := by
  decide +kernel

private theorem round1_copy_spent :
    SpentDatagram server (after (round1Repeated.take 2)) (Attach.round1 {} 3 challengeAnswer) := by
  intro remote pkt natt msg hdr sa hact hparse hl _
  obtain ⟨rfl, rfl, rfl⟩ : ue = remote ∧ round1Packet = pkt ∧ false = natt := by
    simpa [Attach.round1, round1Packet] using hact
  rw [parse_round1] at hparse
  cases hparse
  have hchecked : ((after (round1Repeated.take 2)).lookupSA 0x11).all (fun sa =>
      sa.eapRound ≠ 0 && (openAuth server sa.saKey round1Packet).all fun o =>
        o.all fun pl => pl.auth = none && pl.eapRaw = []) = true := by decide +kernel
  rw [show (after (round1Repeated.take 2)).lookupSA 0x11 = some sa from hl] at hchecked
  simp only [Option.all_some, Bool.and_eq_true, decide_eq_true_eq] at hchecked
  refine ⟨fun _ _ pl hopen => ?_, fun hex => ?_, fun hex => ?_, fun hex => ?_, fun hex => ?_⟩
  · simp_all
  all_goals exact absurd hex (by decide +kernel)

/-- The copy of the first IKE_AUTH request is answered with the challenge and has no other
effect. -/
theorem round1_copy_has_no_second_effect :
    IsCopy server [1] 0 (round1Repeated.take 2) (Attach.round1 {} 3 challengeAnswer) ∧
    NoSecondEffect (runFrom server [1] 0 (round1Repeated.take 2))
      (runFrom server [1] 0
        (round1Repeated.take 2 ++ [Attach.round1 {} 3 challengeAnswer])) := by
  have hcopy : IsCopy server [1] 0 (round1Repeated.take 2)
      (Attach.round1 {} 3 challengeAnswer) :=
    ⟨[Attach.init {} 1 (some gateway)], Attach.round1 {} 2 challengeAnswer, [], ue, ue,
      round1Packet, false, rfl, rfl, rfl, round1Packet, sealedHeader 0x11 0x21 exchIKEAuth 1,
      ((after [Attach.init {} 1 (some gateway)]).lookupSA 0x11).get (by decide +kernel),
      parse_round1, by decide, (Option.some_get _).symm, by decide +kernel⟩
  refine ⟨hcopy, copies_have_no_second_effect server [1] 0 round1Repeated ?_
    (round1Repeated.take 2) _ [] rfl hcopy⟩
  intro before i rest hsplit hc
  -- The run has three inputs, and only the last one can be a copy.
  rcases before with _ | ⟨a, _ | ⟨b, _ | ⟨c, t⟩⟩⟩
  · obtain ⟨pre, first, post, -, -, -, -, hnil, -⟩ := hc
    simp at hnil
  · obtain ⟨pre, first, post, remote, remote', pkt, natt, hone, hfirst, hi, -⟩ := hc
    obtain ⟨rfl, rfl⟩ : Attach.init {} 1 (some gateway) = a ∧
        Attach.round1 {} 2 challengeAnswer = i := by
      simp only [round1Repeated, List.cons_append, List.nil_append, List.cons.injEq] at hsplit
      exact ⟨hsplit.1, hsplit.2.1⟩
    have hsame : first = Attach.init {} 1 (some gateway) := by
      rcases pre with _ | ⟨p, pre⟩ <;> simp_all
    rw [hsame] at hfirst
    have hpkt : round1Packet = initMessage 0x11 := by
      simp only [Attach.init, Attach.round1, Action.packet.injEq] at hfirst hi
      exact hi.2.1.trans hfirst.2.1.symm
    exact absurd hpkt (by decide +kernel)
  · obtain ⟨rfl, rfl, rfl⟩ : Attach.init {} 1 (some gateway) = a ∧
        Attach.round1 {} 2 challengeAnswer = b ∧ Attach.round1 {} 3 challengeAnswer = i := by
      simp only [round1Repeated, List.cons_append, List.nil_append, List.cons.injEq] at hsplit
      exact ⟨hsplit.1, hsplit.2.1, hsplit.2.2.1⟩
    exact round1_copy_spent
  · simp [round1Repeated] at hsplit

def Event.isDER : Event → Bool
  | .derSent .. => true
  | _ => false

def childRekeyed : List Input :=
  attached ++ [fromUE (childRekeyMessage 5 0x61 false) (childDraws 5 0x2001)]

def childRekeyCopy : Input :=
  ⟨.packet ueMoved (childRekeyMessage 5 0x61 false) false, childDraws 6 0x2002⟩

/-- A copy of an EAP response is relayed to the AAA server again, and a copy of a CHILD SA
rekey replaces the pending CHILD SA. -/
theorem copies_have_second_effects :
    (IsCopy server [1] 0 (Attach.authenticated {}) (Attach.eap {} 4 successAnswer) ∧
      (runFrom server [1] 0 (Attach.authenticated {} ++ [Attach.eap {} 4 successAnswer])).trace.countP
        Event.isDER = 3 ∧
      ¬ NoSecondEffect (runFrom server [1] 0 (Attach.authenticated {}))
        (runFrom server [1] 0
          (Attach.authenticated {} ++ [Attach.eap {} 4 successAnswer]))) ∧
    (IsCopy server [1] 0 childRekeyed childRekeyCopy ∧
      ¬ NoSecondEffect (runFrom server [1] 0 childRekeyed)
        (runFrom server [1] 0 (childRekeyed ++ [childRekeyCopy]))) := by
  refine ⟨⟨?_, by decide +kernel, fun h => ?_⟩, ?_, fun h => ?_⟩
  · exact ⟨(Attach.authenticated {}).take 2, Attach.eap {} 3 successAnswer, [], ue, ue,
      sealed 0x11 0x21 exchIKEAuth 2 [(typeEAP, [2, 1, 0, 5, 1])], false, rfl, rfl, rfl,
      sealed 0x11 0x21 exchIKEAuth 2 [(typeEAP, [2, 1, 0, 5, 1])],
      sealedHeader 0x11 0x21 exchIKEAuth 2,
      ((after ((Attach.authenticated {}).take 2)).lookupSA 0x11).get (by decide +kernel),
      by decide +kernel, by decide, (Option.some_get _).symm, by decide +kernel⟩
  · exact absurd (h.countP_eq Event.isDER fun _ _ _ => rfl) (by decide +kernel)
  · exact ⟨attached, fromUE (childRekeyMessage 5 0x61 false) (childDraws 5 0x2001), [], ue,
      ueMoved, childRekeyMessage 5 0x61 false, false, rfl, rfl, rfl,
      childRekeyMessage 5 0x61 false, sealedHeader 0x11 0x21 exchCreateChildSA 5, attachedSA,
      by decide +kernel, by decide, lookupSA_attached, by decide +kernel⟩
  · exact absurd (h.child 0x11) (by decide +kernel)

end Runs
end Epdg
