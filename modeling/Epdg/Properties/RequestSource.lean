import Epdg.Properties.PeerAddress
import Epdg.System.GatewayHistory

/-!
Which requests of the network change a session.

With the peer check on, the read loop compares the source of a request with the address that
`CreateSession` recorded for the TEID. It compares nothing while no address is recorded: from
the draw of the TEID until the response was parsed, and from the first Delete Session Request or
`DeleteSession` until the session is gone. A request that slips through in that time still finds
the session by its TEID.
-/
namespace Epdg
open S2b Ikev2

namespace Gateway
variable {teid : UInt32} {id : Session.ID} {src : UDPAddr}

def CreatedWith (g : Gateway) (id : Session.ID) (peer : IP) : Prop :=
  ∃ teid, g.drawn.lookup teid = some (id, peer)

def Changes (g g' : Gateway) (id : Session.ID) : Prop :=
  g'.world.sessions.get id ≠ g.world.sessions.get id ∨
    g'.world.gtpu.sessionsByID.lookup id ≠ g.world.gtpu.sessionsByID.lookup id

def inUse (g : Gateway) (teid : UInt32) : Bool :=
  g.world.sessions.sessions.values.any (Session.Manager.hasLocalControlTEID teid) ||
    g.workers.values.any fun worker => worker.call.map CreateCall.localControl = some teid

def requested (g : Gateway) (teid : UInt32) : Bool :=
  g.reader.asks.map Prod.snd = some teid ||
    g.workers.values.any fun worker => worker.asks.map Prod.snd = some teid

def peerKnown (g : Gateway) : GatewayAct → Bool
  | .read _ req => (g.peers.lookup req.teid).isSome || !g.inUse req.teid
  | .createSession _ _ => g.freshDraw && !g.requested (nextTEID g.localControl)
  | _ => true

variable {cfg : GatewayConfig} {g : Gateway} {a : GatewayAct}

theorem inUse_iff (teid : UInt32) : g.inUse teid = true ↔
    (∃ id, g.control id = some teid) ∨ ∃ c, g.Calls c ∧ c.localControl = teid := by
  simp only [inUse, Bool.or_eq_true, Table.any_values]
  constructor
  · rintro (⟨id, s, hl, ht⟩ | ⟨n, worker, hl, hc⟩)
    · refine .inl ⟨id, ?_⟩
      have hget : g.world.sessions.get id = some s := hl
      simp only [control, World.s2bOf, hget, Option.bind_some]
      cases hs : s.s2b with
      | none => simp [Session.Manager.hasLocalControlTEID, hs] at ht
      | some c => simpa [Session.Manager.hasLocalControlTEID, hs] using ht
    · obtain ⟨c, hc, ht⟩ := Option.map_eq_some_iff.mp (of_decide_eq_true hc)
      exact .inr ⟨c, ⟨n, worker, hl, hc⟩, ht⟩
  · rintro (⟨id, hc⟩ | ⟨c, ⟨n, worker, hl, hc⟩, ht⟩)
    · obtain ⟨ctx, hctx, ht⟩ := Option.map_eq_some_iff.mp hc
      obtain ⟨s, hget, hs⟩ := Option.bind_eq_some_iff.mp hctx
      exact .inl ⟨id, s, hget, by simpa [Session.Manager.hasLocalControlTEID, hs] using ht⟩
    · exact .inr ⟨n, worker, hl, by simp [hc, ht]⟩

theorem requested_of (h : g.Requests src teid) : g.requested teid = true := by
  simp only [requested, Bool.or_eq_true, Table.any_values]
  rcases h with h | ⟨n, worker, hl, h⟩
  · grind
  · exact .inr ⟨n, worker, hl, by simp [h]⟩

theorem inUse_of_step (hg : History cfg g) (h : (g.step cfg a).inUse teid = true) :
    g.inUse teid = true ∨ ∃ id ip, a = .createSession id ip ∧ teid = nextTEID g.localControl := by
  rcases (inUse_iff teid).mp h with ⟨id, hc⟩ | ⟨c, hc, rfl⟩
  · rcases control_of_step hg.keyed hc with hc | ⟨n, -, c, r, hl, -, rfl⟩
    · exact .inl ((inUse_iff teid).mpr (.inl ⟨id, hc⟩))
    · rw [hg.recorded n c r hl]
      exact .inl ((inUse_iff _).mpr (.inr ⟨c, ⟨n, _, hl, rfl⟩, rfl⟩))
  · rcases hc.of_step with hc | ⟨id, ip, ha, rfl⟩
    · exact .inl ((inUse_iff _).mpr (.inr ⟨c, hc, rfl⟩))
    · simp_all

structure SourceInv (cfg : GatewayConfig) (g : Gateway) : Prop extends History cfg g where
  requests : ∀ src teid, g.Requests src teid →
    (∃ id, g.drawn.lookup teid = some (id, src.ip)) ∨ g.inUse teid = false
  found : ∀ src id, g.Found src id → g.CreatedWith id src.ip

theorem SourceInv.initial {w : World} (hw : w.sessions = {}) :
    SourceInv cfg (Gateway.initial w) where
  toHistory := .initial hw
  requests src teid h := by
    rcases h with h | ⟨n, worker, hl, -⟩
    · cases h
    · cases hl
  found src id h := by
    rcases h with h | ⟨n, worker, hl, -⟩
    · cases h
    · cases hl

theorem SourceInv.asked (h : SourceInv cfg g) (hr : g.Requests src teid)
    (hc : g.control id = some teid) : g.CreatedWith id src.ip := by
  rcases h.requests src teid hr with ⟨id', hd⟩ | hu
  · obtain ⟨peer, hp⟩ := h.control id teid hc
    rw [hd] at hp
    cases hp
    exact ⟨teid, hd⟩
  · rw [(inUse_iff teid).mpr (.inl ⟨id, hc⟩)] at hu
    cases hu

theorem SourceInv.step (hstrict : cfg.s2b.strictPeerCheck = true) (h : SourceInv cfg g)
    (hok : g.peerKnown a = true) : SourceInv cfg (g.step cfg a) := by
  have hd : ∀ id ip, a = .createSession id ip → g.freshDraw = true := by
    rintro id ip rfl
    exact (Bool.and_eq_true_iff.mp hok).1
  have hunused : ∀ {src teid}, g.Requests src teid ∨ (∃ req, a = .read src req) →
      g.inUse teid = false → (g.step cfg a).inUse teid = false := by
    intro src teid hwho hu
    by_contra hne
    rcases inUse_of_step h.toHistory (Bool.of_not_eq_false hne) with hold | ⟨id, ip, ha, ht⟩
    · simp_all
    subst ha
    rcases hwho with hr | ⟨req, ha⟩
    · have hreq := requested_of hr
      have hnot := (Bool.and_eq_true_iff.mp hok).2
      simp_all
    · cases ha
  refine ⟨h.toHistory.step hd, ?_, ?_⟩
  · intro src teid hr
    rcases hr.of_step with hr | ⟨req, rfl, rfl, hadm⟩
    · rcases h.requests src teid hr with ⟨id, hdr⟩ | hu
      · exact .inl ⟨id, drawn_kept hd hdr⟩
      · grind
    rcases Bool.or_eq_true_iff.mp hok with hp | hu
    · -- The peer is recorded, so the check compared it with the source.
      obtain ⟨peer, hp⟩ := Option.isSome_iff_exists.mp hp
      obtain ⟨id, hdr⟩ := h.peers _ _ hp
      simp only [admits, hp, hstrict, Bool.not_true, Bool.false_or,
        decide_eq_true_eq] at hadm
      exact .inl ⟨id, drawn_kept hd (hadm ▸ hdr)⟩
    · exact .inr (hunused (.inr ⟨req, rfl⟩) (by simpa using hu))
  · intro src id hf
    have hkept (hc : g.CreatedWith id src.ip) : (g.step cfg a).CreatedWith id src.ip := by
      obtain ⟨teid, hc⟩ := hc
      exact ⟨teid, drawn_kept hd hc⟩
    rcases hf.of_step h.keyed with hf | ⟨teid, hr, hc⟩
    · exact hkept (h.found src id hf)
    · exact hkept (h.asked hr hc)

theorem Changes.at_touched {id' : Session.ID} (hc : g.Changes (g.step cfg a) id)
    (ht : TouchesOnly id' g.world (g.step cfg a).world) : id = id' := by
  by_contra hne
  rcases hc with hc | hc
  · exact hc (ht.sessions id hne)
  · exact hc (ht.gtpu id hne)

/-- With the peer check on, in every run in which requests are read only while the peer of
their TEID is recorded or the TEID is not used, a request changes only sessions that were created
with its source. -/
theorem request_source (hstrict : cfg.s2b.strictPeerCheck = true) {w : World}
    (hw : w.sessions = {}) {acts : List GatewayAct}
    (hg : Machine.Guarded (step cfg) (fun g a => g.peerKnown a = true) (initial w) acts)
    {a : GatewayAct} {src : UDPAddr}
    (hs : (runFrom cfg (initial w) acts).source a = some src) {id : Session.ID}
    (hc : (runFrom cfg (initial w) acts).Changes
      ((runFrom cfg (initial w) acts).step cfg a) id) :
    (runFrom cfg (initial w) acts).CreatedWith id src.ip := by
  have hinv : SourceInv cfg (runFrom cfg (initial w) acts) :=
    hg.invariant (SourceInv cfg) (fun g a hi hok => hi.step hstrict hok) (.initial hw)
  generalize runFrom cfg (initial w) acts = g at hs hc hinv
  have hstep := world_step cfg hinv.keyed a
  generalize hworld : (g.step cfg a).world = w' at hstep
  cases hstep with
  | same =>
    rcases hc with hc | hc
    · exact absurd (by rw [hworld]) hc
    · exact absurd (by rw [hworld]) hc
  | store ha hl =>
    subst ha
    cases hs
  | own ht hs' =>
    rw [hs'] at hs
    cases hs
  | asked ht hs' hr hctl =>
    rw [hs'] at hs
    cases hs
    obtain rfl := hc.at_touched (hworld ▸ ht)
    exact hinv.asked hr hctl
  | found ht hs' hf =>
    rw [hs'] at hs
    cases hs
    obtain rfl := hc.at_touched (hworld ▸ ht)
    exact hinv.found _ _ hf

section Runs

def strictGateway : GatewayConfig :=
  { s2b := { pgwGTPC := configuredPGW, strictPeerCheck := true }
    localGTPU := some (.v4 0xc0000201) }

def gatewayStart : Gateway := initial (World.initial [] 0)

def attachedID : Session.ID := ⟨0x11, 0x22⟩

def trustedPGW : UDPAddr := ⟨configuredPGW, 2123⟩

def otherHost : UDPAddr := ⟨.v4 0xcb007107, 2123⟩

def bearerRequest : PgwRequest :=
  .createBearer
    { localControlTEID := 1
      bearers := [{ ebi := 6, pgwUserTEID := 0x301, pgwUserIP := none, qci := 1, tftRaw := [] }] }

def bearerDraws : Nat → Gtpu.TeidDraw := fun _ => { teid := some ⟨0x401, by decide⟩ }

def creating : List GatewayAct :=
  [.openSession attachedID, .createSession attachedID none,
    .respond 0 (acceptedResponse (some configuredPGW))]

def completing : List GatewayAct := [.accept 0, .store 0, .install attachedID false]

private theorem changes_of_bearer {g g' : Gateway} {ebi : UInt8}
    (h : g.world.gtpu.hasBearer id ebi ≠ g'.world.gtpu.hasBearer id ebi) : g.Changes g' id := by
  refine .inr fun he => h ?_
  simp only [Gtpu.Manager.hasBearer, he]

def requestAfterAttach : List GatewayAct :=
  creating ++ completing ++
    [.read trustedPGW bearerRequest, .handle true fun _ => false, .poll]

theorem trusted_bearer_installed :
    (runFrom strictGateway gatewayStart requestAfterAttach).CreatedWith attachedID
      trustedPGW.ip := by
  have hrun : Machine.checks (step strictGateway) peerKnown gatewayStart
        requestAfterAttach = true ∧
      (runFrom strictGateway gatewayStart requestAfterAttach).source (.add bearerDraws) =
        some trustedPGW ∧
      (runFrom strictGateway gatewayStart requestAfterAttach).world.gtpu.hasBearer attachedID 6 ≠
        ((runFrom strictGateway gatewayStart requestAfterAttach).step strictGateway
          (.add bearerDraws)).world.gtpu.hasBearer attachedID 6 := by
    decide +kernel
  exact request_source rfl rfl (.of_checks (fun _ _ h => h) hrun.1) hrun.2.1
    (changes_of_bearer hrun.2.2)

def requestDuringAttach : List GatewayAct :=
  creating ++ [.read otherHost bearerRequest, .handle true fun _ => false] ++ completing ++
    [.poll]

theorem forged_bearer_installed :
    (runFrom strictGateway gatewayStart requestDuringAttach).source (.add bearerDraws) =
        some otherHost ∧
      (runFrom strictGateway gatewayStart requestDuringAttach).Changes
        ((runFrom strictGateway gatewayStart requestDuringAttach).step strictGateway
          (.add bearerDraws)) attachedID ∧
      ¬(runFrom strictGateway gatewayStart requestDuringAttach).CreatedWith attachedID
        otherHost.ip := by
  have hrun : (runFrom strictGateway gatewayStart requestDuringAttach).source
        (.add bearerDraws) = some otherHost ∧
      (runFrom strictGateway gatewayStart requestDuringAttach).world.gtpu.hasBearer attachedID 6 ≠
        ((runFrom strictGateway gatewayStart requestDuringAttach).step strictGateway
          (.add bearerDraws)).world.gtpu.hasBearer attachedID 6 ∧
      (attachedID, otherHost.ip) ∉
        (runFrom strictGateway gatewayStart requestDuringAttach).drawn.values := by
    decide +kernel
  refine ⟨hrun.1, changes_of_bearer hrun.2.1, fun hc => hrun.2.2 ?_⟩
  exact (Table.mem_values _ _).mpr hc

end Runs
end Gateway
end Epdg
