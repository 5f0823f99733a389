import Epdg.System.BearerHandlers

/-!
To which TEID the responses to the network's requests go.

A response goes to the PGW's control TEID when the handler looked the session up, which it does
only for a bearer request that its parser accepts. A rejection and every Delete Session Response
go back to the TEID of the request, which is the ePDG's own.
-/
namespace Epdg
open S2b
variable {m : Message}

def Addressed (answer : Option Bytes) (teid sequence : UInt32) : Prop :=
  ∃ m, answer.bind decodeMessage = some m ∧ m.hasTEID = true ∧ m.teid = teid ∧
    m.sequence = sequence

theorem addressed_iff {answer : Option Bytes} (h : answer.bind decodeMessage = some m)
    (teid sequence : UInt32) : Addressed answer teid sequence ↔
      m.hasTEID = true ∧ m.teid = teid ∧ m.sequence = sequence := by
  constructor
  · rintro ⟨m', hm', haddr⟩
    simp_all
  · exact fun haddr => ⟨m, h, haddr⟩

instance (answer : Option Bytes) (teid sequence : UInt32) :
    Decidable (Addressed answer teid sequence) :=
  match h : answer.bind decodeMessage with
  | some _ => decidable_of_iff' _ (addressed_iff h teid sequence)
  | none => .isFalse fun ⟨_, hm, _⟩ => by simp [h] at hm

def pgwRequestTypes : List UInt8 :=
  [msgDeleteSessionReq, msgCreateBearerReq, msgDeleteBearerReq, msgUpdateBearerReq]

def parses (req : Message) : Bool :=
  req.type == msgCreateBearerReq && (parseCreateBearerRequest req).isSome ||
    req.type == msgDeleteBearerReq && (parseDeleteBearerRequest req).isSome ||
    req.type == msgUpdateBearerReq && (parseUpdateBearerRequest req).isSome

def cachedAnswer (F : AddrFormat) (cache : ResponseCache) (now : Nat) (peer : UDPAddr)
    (req : Message) : Option Bytes :=
  if req.type = msgCreateBearerReq then
    ((cache.purge now).lookup (createBearerCacheKey F peer req)).map CacheEntry.encoded
  else none

def Addressable (F : AddrFormat) (cache : ResponseCache) (now : Nat) (peer : UDPAddr)
    (req : Message) (pgwControlTEID : UInt32) : Prop :=
  match cachedAnswer F cache now peer req with
  | some b => Addressed (some b) pgwControlTEID req.sequence
  | none => req.teid = pgwControlTEID ∨ parses req = true

theorem encode_addressed_iff (hteid : m.hasTEID = true) (hsent : ∃ b, m.encode = some b)
    (teid sequence : UInt32) :
    Addressed m.encode teid sequence ↔ m.teid = teid ∧ m.sequence = sequence := by
  obtain ⟨b, hb⟩ := hsent
  have hdec : m.encode.bind decodeMessage = some m := by
    rw [hb]
    exact decode_encode hteid hb
  rw [addressed_iff hdec]
  simp_all

section Handlers
variable {req : Message} {pgwControlTEID : UInt32}

theorem rejection_addressed_iff (hin : Inbound req) (type : UInt8) :
    Addressed (rejection req type).encode pgwControlTEID req.sequence ↔
      req.teid = pgwControlTEID := by
  rw [encode_addressed_iff rfl (hin.rejection_encode type)]
  exact ⟨And.left, fun h => ⟨h, rfl⟩⟩

theorem response_addressed (type : UInt8) {ies : List Ie} (hpgw : pgwControlTEID ≠ 0)
    (hsent : ∃ b, (response req type pgwControlTEID ies).encode = some b) :
    Addressed (response req type pgwControlTEID ies).encode pgwControlTEID req.sequence :=
  (encode_addressed_iff rfl hsent _ _).mpr ⟨response_teid req type hpgw ies, rfl⟩

theorem createBearerResponse_addressed {localGTPU : Option IP} {event : CreateBearerEvent}
    {result : CreateBearerResult} (hresult : result.pgwControlTEID = pgwControlTEID)
    (hpgw : pgwControlTEID ≠ 0)
    (hsent : ∃ b, (createBearerResponse localGTPU req event result).encode = some b) :
    Addressed (createBearerResponse localGTPU req event result).encode pgwControlTEID
      req.sequence := by
  rw [createBearerResponse_eq, hresult] at hsent ⊢
  exact response_addressed _ hpgw hsent

variable {w : World} {sess : Session.Session} {ctx : Session.S2BContext}

theorem deleteSession_addressed_iff (hin : Inbound req) :
    Addressed (deleteSessionResponse req).encode pgwControlTEID req.sequence ↔
      req.teid = pgwControlTEID := by
  have hsent : ∃ b, (deleteSessionResponse req).encode = some b :=
    hin.response_encode msgDeleteSessionResp 0 (by decide)
  rw [encode_addressed_iff rfl hsent]
  exact ⟨And.left, fun h => ⟨h, rfl⟩⟩

theorem updateBearer_addressed_iff (hin : Inbound req) (faults : Nat → Bool)
    (hsess : w.sessions.findByLocalControlTEID req.teid = some sess)
    (hctx : sess.s2b = some ctx) (hpgw : ctx.pgwControlTEID ≠ 0) :
    Addressed (handleUpdateBearerRequest w faults req).2 ctx.pgwControlTEID req.sequence ↔
      req.teid = ctx.pgwControlTEID ∨ (parseUpdateBearerRequest req).isSome := by
  simp only [handleUpdateBearerRequest]
  split
  · rename_i hparse
    simp [hparse, rejection_addressed_iff hin]
  rename_i event hparse
  obtain ⟨_, _, _, _, hteid, _⟩ := parseUpdateBearerRequest_spec hparse
  have hlen := hin.updateContexts_length hparse
  simp only [handlePGWUpdateBearer, hteid, hsess, hctx, Option.map_some, Option.getD_some,
    hparse, Option.isSome_some, or_true, iff_true]
  exact response_addressed _ hpgw (hin.updateBearerResponse_encode _ hlen)

theorem deleteBearer_addressed_iff (hin : Inbound req) (tftFault : UInt8 → Bool)
    (hsess : w.sessions.findByLocalControlTEID req.teid = some sess)
    (hctx : sess.s2b = some ctx) (hpgw : ctx.pgwControlTEID ≠ 0) :
    Addressed (handleDeleteBearerRequest w tftFault req).2 ctx.pgwControlTEID req.sequence ↔
      req.teid = ctx.pgwControlTEID ∨ (parseDeleteBearerRequest req).isSome := by
  simp only [handleDeleteBearerRequest]
  split
  · rename_i hparse
    simp [hparse, rejection_addressed_iff hin]
  rename_i event hparse
  have hteid := parseDeleteBearerRequest_teid hparse
  have hlen := hin.ebis_length hparse
  simp only [handlePGWDeleteBearerResult, hteid, hsess, hctx, Option.map_some,
    Option.getD_some, hparse, Option.isSome_some, or_true, iff_true]
  exact response_addressed _ hpgw (hin.deleteBearerResponse_encode _ hlen)

theorem createBearer_addressed_iff (F : AddrFormat) (localGTPU : Option IP)
    (cache : ResponseCache) (env : RequestEnv) (peer : UDPAddr) (hin : Inbound req)
    (hsess : w.sessions.findByLocalControlTEID req.teid = some sess)
    (hctx : sess.s2b = some ctx) (hpgw : ctx.pgwControlTEID ≠ 0)
    (hnew : (cache.purge env.now).lookup (createBearerCacheKey F peer req) = none) :
    Addressed (handleCreateBearerRequest F localGTPU cache env.now env.later peer req fun event =>
        (handlePGWCreateBearer w localGTPU env.draws event).2).answer
      ctx.pgwControlTEID req.sequence ↔
      req.teid = ctx.pgwControlTEID ∨ (parseCreateBearerRequest req).isSome := by
  simp only [handleCreateBearerRequest, hnew]
  split
  · rename_i hparse
    simp [hparse, rejection_addressed_iff hin]
  rename_i event hparse
  obtain ⟨_, _, _, _, hteid, _, _⟩ := parseCreateBearerRequest_spec hparse
  have hlen := hin.createContexts_length hparse
  obtain ⟨hpgwTEID, hresults⟩ := createBearers_spec localGTPU sess.id ctx.ebi w.gtpu env.draws
    event.contexts { pgwControlTEID := ctx.pgwControlTEID }
  simp only [handlePGWCreateBearer, hteid, hsess, hctx, Option.map_some, Option.getD_some,
    hparse, Option.isSome_some, or_true, iff_true]
  generalize (createBearers localGTPU sess.id ctx.ebi w.gtpu env.draws event.contexts
    { pgwControlTEID := ctx.pgwControlTEID }).2 = result at hpgwTEID hresults ⊢
  have hcount : result.bearers.length ≤ 1024 := by simp_all
  obtain ⟨b, hb⟩ := hin.createBearerResponse_encode localGTPU event hcount
  have haddr := createBearerResponse_addressed hpgwTEID hpgw ⟨b, hb⟩
  simp_all

end Handlers

theorem response_addressed_iff (F : AddrFormat) (localGTPU : Option IP) (w : World)
    (cache : ResponseCache) (env : RequestEnv) (peer : UDPAddr) {req : Message}
    {sess : Session.Session} {ctx : Session.S2BContext} (hin : Inbound req)
    (htype : req.type ∈ pgwRequestTypes)
    (hsess : w.sessions.findByLocalControlTEID req.teid = some sess)
    (hctx : sess.s2b = some ctx) (hpgw : ctx.pgwControlTEID ≠ 0) :
    Addressed (answerRequest F localGTPU w cache env peer req) ctx.pgwControlTEID req.sequence ↔
      Addressable F cache env.now peer req ctx.pgwControlTEID := by
  have hcases : req.type = msgDeleteSessionReq ∨ req.type = msgCreateBearerReq ∨
      req.type = msgDeleteBearerReq ∨ req.type = msgUpdateBearerReq := by
    simpa [pgwRequestTypes] using htype
  rcases hcases with ht | ht | ht | ht
  · simp [answerRequest, Addressable, cachedAnswer, parses, ht, deleteSession_addressed_iff hin,
      msgDeleteSessionReq, msgCreateBearerReq, msgDeleteBearerReq, msgUpdateBearerReq]
  · cases hcached : (cache.purge env.now).lookup (createBearerCacheKey F peer req) with
    | none =>
      have h := createBearer_addressed_iff F localGTPU cache env peer hin hsess hctx hpgw hcached
      simp [answerRequest, Addressable, cachedAnswer, parses, ht, hcached, h,
        msgDeleteSessionReq, msgCreateBearerReq, msgDeleteBearerReq, msgUpdateBearerReq]
    | some entry =>
      simp [answerRequest, Addressable, cachedAnswer, ht, hcached, handleCreateBearerRequest,
        msgDeleteSessionReq, msgCreateBearerReq]
  · have h := deleteBearer_addressed_iff hin (fun ebi => env.faults ebi.toNat) hsess hctx hpgw
    simp [answerRequest, Addressable, cachedAnswer, parses, ht, h, msgDeleteSessionReq,
      msgCreateBearerReq, msgDeleteBearerReq, msgUpdateBearerReq]
  · have h := updateBearer_addressed_iff hin env.faults hsess hctx hpgw
    simp [answerRequest, Addressable, cachedAnswer, parses, ht, h, msgDeleteSessionReq,
      msgCreateBearerReq, msgDeleteBearerReq, msgUpdateBearerReq]

section Runs

def servedContext : Session.S2BContext where
  paa := .v4 0x0a000001
  pgwControlTEID := 0x5001
  pgwControlIP := some (.v4 0xc0000202)
  pgwUserTEID := 0x6001
  pgwUserIP := .v4 0xc0000202
  localControlTEID := 0x1001
  localUserTEID := 0x2001
  ebi := 5
  pgwRecovery := 0

def servedSession : Session.Session := { id := ⟨0x11, 0x22⟩, s2b := some servedContext }

def servedGTPU : Option IP := some (.v4 0xc0000201)

def servedWorld : World :=
  { World.initial [] 0 with
    sessions := { sessions := AList.insert servedSession.id servedSession ∅ }
    gtpu := (Gtpu.Manager.addSession {} servedGTPU false servedSession).1 }

def servedPGW : UDPAddr := ⟨.v4 0xc0000202, 2123⟩

def servedRequest (type : UInt8) (ies : List Ie) : Message :=
  { type, teid := 0x1001, hasTEID := true, sequence := 9, payload := encodeIEs ies }

def quietEnv : RequestEnv where
  draws
    | 0, _ => { teid := some ⟨0x2002, by decide⟩ }
    | 1, _ => { teid := some ⟨0x2003, by decide⟩ }
    | _, _ => { teid := none }

def servedAnswer (req : Message) : Option Bytes :=
  answerRequest AddrFormat.numeric servedGTPU servedWorld ∅ quietEnv servedPGW req

theorem inbound_of_encode {req : Message} (hteid : req.hasTEID = true)
    (hlen : req.encode.any fun b => b.length ≤ readBuffer) : Inbound req := by
  obtain ⟨b, hb, hle⟩ := Option.any_eq_true _ _ |>.mp hlen
  refine ⟨b, ?_⟩
  rw [List.take_of_length_le (of_decide_eq_true hle)]
  exact decode_encode hteid hb

def servedUpdate : Message :=
  servedRequest msgUpdateBearerReq
    [bearerContextIE [ebiValueIE 5, { type := ieBearerQoS, payload := [0, 9] }]]

theorem update_addressed :
    Addressed (servedAnswer servedUpdate) servedContext.pgwControlTEID 9 := by
  have hrun : (servedUpdate.encode.any fun b => b.length ≤ readBuffer) = true ∧
      servedWorld.sessions.findByLocalControlTEID servedUpdate.teid = some servedSession ∧
      parses servedUpdate = true := by
    decide +kernel
  refine (response_addressed_iff AddrFormat.numeric servedGTPU servedWorld ∅ quietEnv servedPGW
    (inbound_of_encode rfl hrun.1) (by decide) hrun.2.1 rfl (by decide)).mpr ?_
  exact .inr hrun.2.2

def deleteSessionRequest : Message := servedRequest msgDeleteSessionReq []

def emptyServedUpdate : Message := servedRequest msgUpdateBearerReq []

/-- The session is known, but the responses carry the ePDG's own TEID. -/
theorem rejection_misaddressed :
    (Inbound deleteSessionRequest ∧ Inbound emptyServedUpdate) ∧
    servedWorld.sessions.findByLocalControlTEID 0x1001 = some servedSession ∧
    ¬Addressed (servedAnswer deleteSessionRequest) servedContext.pgwControlTEID 9 ∧
    ¬Addressed (servedAnswer emptyServedUpdate) servedContext.pgwControlTEID 9 ∧
    Addressed (servedAnswer deleteSessionRequest) servedContext.localControlTEID 9 := by
  refine ⟨⟨inbound_of_encode rfl ?_, inbound_of_encode rfl ?_⟩, ?_⟩ <;> decide +kernel

end Runs

end Epdg
