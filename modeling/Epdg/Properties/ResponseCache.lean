import Epdg.Lib.Run
import Epdg.Properties.Addressing

/-!
Retransmitted Create Bearer Requests.

A response stays in the cache for its lifetime whatever else the read loop handles meanwhile, and
the key of an entry tells requests apart. So a copy of a request finds the response to the first
one, if it gets as far as the cache: the check of its source comes before.
-/
namespace Epdg.S2b

theorem handlePGWCreateBearer_reports (w : World) (localGTPU : Option IP)
    (draws : Nat → Nat → Gtpu.TeidDraw) (event : CreateBearerEvent) :
    (handlePGWCreateBearer w localGTPU draws event).2.bearers.length ≤ event.contexts.length := by
  simp only [handlePGWCreateBearer]
  split
  · exact Nat.zero_le _
  · rw [(createBearers_spec _ _ _ _ _ _ _).2, List.length_nil, Nat.zero_add]

structure Arrival where
  elapsed : Nat
  source : UDPAddr
  data : Bytes
  peers : Table UInt32 IP := ∅
  handler : CreateBearerEvent → CreateBearerResult
  reports : ∀ event, (handler event).bearers.length ≤ event.contexts.length
  took : Nat := 0

structure ReadConfig where
  format : AddrFormat
  localGTPU : Option IP
  strictPeerCheck : Bool

structure ReadState where
  cache : ResponseCache := ∅
  clock : Nat := 0

structure ReadOutcome where
  state : ReadState
  ran : Option CreateBearerEvent := none
  answer : Option Bytes := none

namespace Arrival

def message (d : Arrival) : Option Message := decodeMessage (d.data.take readBuffer)

def admitted (cfg : ReadConfig) (d : Arrival) (teid : UInt32) : Bool :=
  match d.peers.lookup teid with
  | some peer => !cfg.strictPeerCheck || d.source.ip = peer
  | none => true

end Arrival

namespace ReadState

def receive (cfg : ReadConfig) (s : ReadState) (d : Arrival) : ReadOutcome :=
  let now := s.clock + d.elapsed
  let later := now + d.took
  match d.message with
  | none => { state := { s with clock := later } }
  | some req =>
    if req.type = msgCreateBearerReq ∧ d.admitted cfg req.teid then
      let out := handleCreateBearerRequest cfg.format cfg.localGTPU s.cache now later d.source
        req d.handler
      { state := ⟨out.cache, later⟩, ran := out.ran, answer := out.answer }
    else { state := { s with clock := later } }

def step (cfg : ReadConfig) (s : ReadState) (d : Arrival) : ReadState := (s.receive cfg d).state

end ReadState

def Arrival.Copies (d : Arrival) (source : UDPAddr) (req : Message) : Prop :=
  d.source = source ∧ ∃ req', d.message = some req' ∧ req'.type = req.type ∧
    req'.teid = req.teid ∧ req'.sequence = req.sequence

section Cache
variable {cache : ResponseCache} {key : List Char} {entry : CacheEntry} {now later : Nat}

theorem ResponseCache.lookup_purge_of_live (h : cache.lookup key = some entry)
    (hlive : now ≤ entry.expires) : (cache.purge now).lookup key = some entry := by
  rw [ResponseCache.purge, Table.lookup_filterValues, h, Option.filter_some,
    if_pos (decide_eq_true hlive)]

theorem ResponseCache.lookup_purge_eq_none
    (h : ∀ entry, cache.lookup key = some entry → entry.expires < now) :
    (cache.purge now).lookup key = none := by
  rw [ResponseCache.purge, Table.lookup_filterValues, Option.filter_eq_none_iff]
  simp_all

theorem handleCreateBearerRequest_keeps (F : AddrFormat) (localGTPU : Option IP)
    (peer : UDPAddr) (req : Message) (handler : CreateBearerEvent → CreateBearerResult)
    (h : cache.lookup key = some entry) (hnow : now ≤ entry.expires)
    (hlater : later ≤ entry.expires) :
    (handleCreateBearerRequest F localGTPU cache now later peer req handler).cache.lookup key =
      some entry := by
  have hpurged := ResponseCache.lookup_purge_of_live h hnow
  simp only [handleCreateBearerRequest]
  split
  · exact hpurged
  rename_i hmiss
  split
  · exact hpurged
  split
  · exact hpurged
  have hne : key ≠ createBearerCacheKey F peer req := by grind
  simp only [ResponseCache.store]
  rw [AList.lookup_insert_ne hne]
  exact ResponseCache.lookup_purge_of_live hpurged hlater

end Cache

namespace ReadState
variable {cfg : ReadConfig} {s : ReadState} {key : List Char} {entry : CacheEntry}

@[simp] theorem step_clock (d : Arrival) :
    (s.step cfg d).clock = s.clock + d.elapsed + d.took := by
  simp only [step, receive]
  grind

theorem clock_le_run (ds : List Arrival) : s.clock ≤ (Machine.run (step cfg) s ds).clock := by
  induction ds generalizing s with
  | nil => exact Nat.le_refl _
  | cons d ds ih =>
    have h := ih (s := s.step cfg d)
    rw [step_clock] at h
    rw [Machine.run_cons]
    omega

theorem step_keeps (d : Arrival) (h : s.cache.lookup key = some entry)
    (hlive : (s.step cfg d).clock ≤ entry.expires) :
    (s.step cfg d).cache.lookup key = some entry := by
  rw [step_clock] at hlive
  simp only [step, receive]
  split
  · exact h
  split
  · exact handleCreateBearerRequest_keeps _ _ _ _ _ h (by omega) hlive
  · exact h

theorem run_keeps (ds : List Arrival) (h : s.cache.lookup key = some entry)
    (hlive : (Machine.run (step cfg) s ds).clock ≤ entry.expires) :
    (Machine.run (step cfg) s ds).cache.lookup key = some entry := by
  induction ds generalizing s with
  | nil => exact h
  | cons d ds ih =>
    rw [Machine.run_cons] at hlive ⊢
    have hle : (s.step cfg d).clock ≤ (Machine.run (step cfg) (s.step cfg d) ds).clock :=
      clock_le_run ds
    exact ih (step_keeps d h (by omega)) hlive

theorem receive_first {d : Arrival} {req : Message} (hmsg : d.message = some req)
    (htype : req.type = msgCreateBearerReq) (hadm : d.admitted cfg req.teid = true)
    (hparse : (parseCreateBearerRequest req).isSome)
    (hnew : ∀ entry, s.cache.lookup (createBearerCacheKey cfg.format d.source req) = some entry →
      entry.expires < s.clock + d.elapsed) :
    (s.receive cfg d).ran.isSome ∧ ∃ b, (s.receive cfg d).answer = some b ∧
      (s.step cfg d).cache.lookup (createBearerCacheKey cfg.format d.source req) =
        some { encoded := b, expires := (s.step cfg d).clock + cacheLifetime } := by
  obtain ⟨event, hevent⟩ := Option.isSome_iff_exists.mp hparse
  have hin : Inbound req := ⟨d.data, hmsg⟩
  have hcontexts := hin.createContexts_length hevent
  obtain ⟨b, hb⟩ := hin.createBearerResponse_encode cfg.localGTPU event
    (Nat.le_trans (d.reports event) hcontexts)
  have hmiss := ResponseCache.lookup_purge_eq_none hnew
  rw [step_clock]
  simp only [step, receive, hmsg, htype, hadm, and_self, if_true, handleCreateBearerRequest,
    hmiss, hevent, hb, Option.isSome_some, Option.some.injEq, exists_eq_left', true_and,
    ResponseCache.store]
  simp_all

theorem receive_copy {d : Arrival} {source : UDPAddr} {req : Message}
    (hcopy : d.Copies source req) (htype : req.type = msgCreateBearerReq)
    (hadm : d.admitted cfg req.teid = true)
    (h : s.cache.lookup (createBearerCacheKey cfg.format source req) = some entry)
    (hlive : s.clock + d.elapsed ≤ entry.expires) :
    (s.receive cfg d).ran = none ∧ (s.receive cfg d).answer = some entry.encoded := by
  obtain ⟨rfl, req', hmsg, htype', hteid, hseq⟩ := hcopy
  have hkey : createBearerCacheKey cfg.format d.source req' =
      createBearerCacheKey cfg.format d.source req :=
    (createBearerCacheKey_inj _).mpr ⟨rfl, hteid, hseq, htype'⟩
  have hhit := ResponseCache.lookup_purge_of_live h hlive
  rw [← hkey] at hhit
  simp only [receive, hmsg, htype', htype, hteid, hadm, and_self, if_true,
    handleCreateBearerRequest, hhit]

/-- The first of a series of copies runs the handler. Each later one that passes the check of its
source in the lifetime of the response gets the bytes that the first one got, and the handler
does not run for it. -/
theorem create_bearer_answered_once (cfg : ReadConfig) (s : ReadState) {first copy : Arrival}
    (between : List Arrival) {req : Message} (hmsg : first.message = some req)
    (htype : req.type = msgCreateBearerReq) (hparse : (parseCreateBearerRequest req).isSome)
    (hadm : first.admitted cfg req.teid = true)
    (hnew : ∀ entry,
      s.cache.lookup (createBearerCacheKey cfg.format first.source req) = some entry →
        entry.expires < s.clock + first.elapsed)
    (hcopy : copy.Copies first.source req) (hadmCopy : copy.admitted cfg req.teid = true)
    (hwithin : (Machine.run (step cfg) (s.step cfg first) between).clock + copy.elapsed ≤
      (s.step cfg first).clock + cacheLifetime) :
    (s.receive cfg first).ran.isSome ∧ ∃ b, (s.receive cfg first).answer = some b ∧
      ((Machine.run (step cfg) (s.step cfg first) between).receive cfg copy).ran = none ∧
      ((Machine.run (step cfg) (s.step cfg first) between).receive cfg copy).answer =
        some b := by
  obtain ⟨hran, b, hb, hcached⟩ := receive_first hmsg htype hadm hparse hnew
  have hlive : (Machine.run (step cfg) (s.step cfg first) between).clock ≤
      (s.step cfg first).clock + cacheLifetime := by
    omega
  have hkept := run_keeps between hcached hlive
  exact ⟨hran, b, hb, receive_copy hcopy htype hadmCopy hkept hwithin⟩

section Runs

def createRequest : Message :=
  servedRequest msgCreateBearerReq
    [ebiValueIE 5,
      bearerContextIE
        [ebiValueIE 0, fteidIE 5 ifaceS2BPGWGTPU 0x6002 (some (.v4 0xc0000202)),
          { type := ieTFT, payload := [0x21, 0x11, 0x0a, 0x02, 0x30, 0x11] },
          { type := ieBearerQoS, payload := [0, 1] }]]

def createArrival (elapsed : Nat) (peers : Table UInt32 IP) : Arrival where
  elapsed
  source := servedPGW
  data := createRequest.encode.getD []
  peers
  handler event := (handlePGWCreateBearer servedWorld servedGTPU quietEnv.draws event).2
  reports := handlePGWCreateBearer_reports servedWorld servedGTPU quietEnv.draws

def strictReader : ReadConfig := ⟨AddrFormat.numeric, servedGTPU, true⟩

def oneSecond : Nat := 1000000000

def noise : Arrival := { createArrival oneSecond ∅ with data := [] }

theorem copy_after_other_answered :
    ∃ b, (receive strictReader {} (createArrival 0 ∅)).answer = some b ∧
      ((Machine.run (step strictReader) (step strictReader {} (createArrival 0 ∅))
        [noise]).receive strictReader (createArrival oneSecond ∅)).answer = some b := by
  have hrun : (createArrival 0 ∅).message = some createRequest ∧
      (parseCreateBearerRequest createRequest).isSome = true ∧
      (Machine.run (step strictReader) (step strictReader {} (createArrival 0 ∅))
          [noise]).clock + oneSecond ≤
        (step strictReader {} (createArrival 0 ∅)).clock + cacheLifetime := by
    decide +kernel
  obtain ⟨hmsg, hparse, hwithin⟩ := hrun
  have hcopies : (createArrival oneSecond ∅).Copies servedPGW createRequest :=
    ⟨rfl, createRequest, hmsg, rfl, rfl, rfl⟩
  obtain ⟨-, b, hb, -, hcopy⟩ := create_bearer_answered_once strictReader {} [noise] hmsg rfl
    hparse rfl (by simp) hcopies rfl hwithin
  exact ⟨b, hb, hcopy⟩

/-- The TEID of the request is recorded for another host a second after the response was cached:
the copy is dropped. -/
theorem copy_dropped_by_peer_check :
    (receive strictReader {} (createArrival 0 ∅)).ran.isSome = true ∧
      (receive strictReader {} (createArrival 0 ∅)).answer.isSome = true ∧
      (createArrival 0 ∅).message = some createRequest ∧
      (createArrival oneSecond (AList.insert 0x1001 (.v4 0xc0000207) ∅)).message =
        some createRequest ∧
      oneSecond ≤ cacheLifetime ∧
      ((step strictReader {} (createArrival 0 ∅)).receive strictReader
        (createArrival oneSecond (AList.insert 0x1001 (.v4 0xc0000207) ∅))).answer = none := by
  decide +kernel

end Runs

end ReadState

end Epdg.S2b
