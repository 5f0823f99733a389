import Epdg.S2b.Requests
import Epdg.S2b.RoundTrip

/-!
The responses to the PGW's requests (`internal/s2b/client.go`).
-/
namespace Epdg.S2b
open Bytes
variable {req : Message} {ies : List Ie} {event : UpdateBearerEvent}

def causeIE (cause : UInt8) : Ie := { type := ieCause, payload := [cause, 0] }

def ebiValueIE (v : UInt8) : Ie := { type := ieEBI, payload := [v &&& 0x0f] }

def recoveryIE (restartCounter : UInt8) : Ie :=
  { type := ieRecovery, payload := [restartCounter] }

def fteidIE (inst iface : UInt8) (teid : UInt32) (ip : Option IP) : Ie :=
  { type := ieFTEID, inst
    payload := (0x80 ||| (iface &&& 0x3f)) :: putUint32 teid ++
      ((ip.bind IP.to4).map IP.bytes).getD [] }

def bearerContextIE (children : List Ie) : Ie :=
  { type := ieBearerContext, payload := encodeIEs children }

def response (req : Message) (type : UInt8) (pgwControlTEID : UInt32) (ies : List Ie) :
    Message :=
  { type, teid := if pgwControlTEID ≠ 0 then pgwControlTEID else req.teid, hasTEID := true
    sequence := req.sequence, payload := encodeIEs ies }

def rejection (req : Message) (type : UInt8) : Message :=
  response req type 0 [causeIE causeContextNotFound]

def deleteSessionResponse (req : Message) : Message :=
  response req msgDeleteSessionResp 0 [causeIE causeRequestAccepted]

def accepted (cause : UInt8) : UInt8 := if cause = 0 then causeRequestAccepted else cause

def CreateBearerBearerResult.children (br : CreateBearerBearerResult) (localGTPU : Option IP)
    (cause : UInt8) : List Ie :=
  [ebiValueIE br.ebi, causeIE (if br.cause = 0 then cause else br.cause)] ++
    if br.accepted ∧ br.localUserTEID ≠ 0 then
      [fteidIE 8 ifaceS2BePDGGTPU br.localUserTEID (br.localUserIP.or localGTPU)] ++
        (if br.pgwUserTEID ≠ 0 ∧ br.pgwUserIP.isSome then
          [fteidIE 9 ifaceS2BPGWGTPU br.pgwUserTEID br.pgwUserIP]
        else []) ++
        (if br.hasChargingID then
          [{ type := ieChargingID, payload := putUint32 br.chargingID }]
        else [])
    else []

def CreateBearerResult.bearersOr (r : CreateBearerResult) (ebi : UInt8) :
    List CreateBearerBearerResult :=
  if r.bearers = [] then
    [{ ebi, accepted := r.accepted, cause := r.cause, localUserTEID := r.localUserTEID
       localUserIP := r.localUserIP }]
  else r.bearers

def createBearerResponseMessage (localGTPU : Option IP) (req : Message)
    (result : CreateBearerResult) : Message :=
  let result := { result with cause := accepted result.cause }
  response req msgCreateBearerResp result.pgwControlTEID
    ([causeIE result.cause] ++
      (result.bearersOr 0).map (fun br => bearerContextIE (br.children localGTPU result.cause)) ++
      [recoveryIE 0])

def createBearerResponse (localGTPU : Option IP) (req : Message) (event : CreateBearerEvent)
    (result : CreateBearerResult) : Message :=
  let result := { result with cause := accepted result.cause }
  createBearerResponseMessage localGTPU req
    { result with bearers := result.bearersOr event.ebi }

structure HandlerResult where
  cause : UInt8
  pgwControlTEID : UInt32 := 0
  deriving DecidableEq, Repr

def updateBearerResponse (req : Message) (event : UpdateBearerEvent) (result : HandlerResult) :
    Message :=
  let cause := accepted result.cause
  response req msgUpdateBearerResp result.pgwControlTEID
    (causeIE cause :: event.bearers.map fun bc =>
      bearerContextIE [causeIE cause, ebiValueIE bc.ebi])

def deleteBearerResponse (req : Message) (event : DeleteBearerEvent) (result : HandlerResult) :
    Message :=
  let cause := accepted result.cause
  response req msgDeleteBearerResp result.pgwControlTEID
    [causeIE cause, bearerContextIE (causeIE cause :: event.ebis.map ebiValueIE)]

theorem response_teid (req : Message) (type : UInt8) {pgwControlTEID : UInt32}
    (h : pgwControlTEID ≠ 0) (ies : List Ie) :
    (response req type pgwControlTEID ies).teid = pgwControlTEID := if_pos h

def readBuffer : Nat := 4096

def Inbound (req : Message) : Prop :=
  ∃ datagram : Bytes, decodeMessage (datagram.take readBuffer) = some req

theorem Inbound.payload_length (h : Inbound req) : req.payload.length ≤ readBuffer := by
  obtain ⟨datagram, h⟩ := h
  have hlen := (decodeMessage_spec h).2.2
  grind

theorem Inbound.elements (h : Inbound req) (hies : decodeIEs req.payload = some ies)
    : ies.length ≤ 1024 := by
  have hlen := decodeIEs_length hies
  have hmax := h.payload_length
  simp only [readBuffer] at hmax
  omega

theorem Inbound.response_encode (h : Inbound req) (type : UInt8) (pgwControlTEID : UInt32)
    (hlen : (encodeIEs ies).length ≤ 0xfff0) :
    ∃ b, (response req type pgwControlTEID ies).encode = some b := by
  obtain ⟨datagram, h⟩ := h
  obtain ⟨hmin, hmax, -⟩ := decodeMessage_spec h
  exact encode_isSome hmin hmax hlen

theorem Inbound.rejection_encode (h : Inbound req) (type : UInt8) :
    ∃ b, (rejection req type).encode = some b :=
  h.response_encode type 0 (by decide)

theorem length_fteidIE (inst iface : UInt8) (teid : UInt32) (ip : Option IP) :
    (fteidIE inst iface teid ip).payload.length ≤ 9 := by
  have hip : (((ip.bind IP.to4).map IP.bytes).getD []).length ≤ 4 := by
    cases ip with
    | none => simp
    | some ip =>
      cases ip with
      | v4 a => simp [IP.to4, IP.bytes, putUint32_eq]
      | v6 hi lo => simp [IP.to4]
  simp only [fteidIE, List.length_cons, List.length_append, putUint32_eq, List.length_nil]
  omega

theorem length_children (br : CreateBearerBearerResult) (localGTPU : Option IP)
    (cause : UInt8) : (encodeIEs (br.children localGTPU cause)).length ≤ 45 := by
  have h8 := length_fteidIE 8 ifaceS2BePDGGTPU br.localUserTEID (br.localUserIP.or localGTPU)
  have h9 := length_fteidIE 9 ifaceS2BPGWGTPU br.pgwUserTEID br.pgwUserIP
  have hcharging : (putUint32 br.chargingID).length = 4 := by simp [putUint32_eq]
  simp only [CreateBearerBearerResult.children, encodeIEs_append, encodeIEs_cons,
    List.length_append, length_encode, ebiValueIE, causeIE, encodeIEs_nil, List.length_cons,
    List.length_nil]
  split
  · simp only [encodeIEs_append, List.length_append]
    have hpgw : (encodeIEs (if br.pgwUserTEID ≠ 0 ∧ br.pgwUserIP.isSome then
        [fteidIE 9 ifaceS2BPGWGTPU br.pgwUserTEID br.pgwUserIP] else [])).length ≤ 13 := by
      split
      · simp only [encodeIEs_cons, encodeIEs_nil, List.length_append, length_encode,
          List.length_nil]
        omega
      · simp
    have hid : (encodeIEs (if br.hasChargingID then
        [{ type := ieChargingID, payload := putUint32 br.chargingID }] else [])).length ≤ 8 := by
      split
      · simp only [encodeIEs_cons, encodeIEs_nil, List.length_append, length_encode, hcharging,
          List.length_nil]
        omega
      · simp
    simp only [encodeIEs_cons, encodeIEs_nil, List.length_append, length_encode, List.length_nil]
    omega
  · simp

private theorem length_contexts {α : Type} {l : List α} {f : α → List Ie} {k : Nat}
    (h : ∀ a, (encodeIEs (f a)).length ≤ k) :
    (encodeIEs (l.map fun a => bearerContextIE (f a))).length ≤ (4 + k) * l.length := by
  have hall : ∀ e ∈ l.map fun a => bearerContextIE (f a), e.payload.length ≤ k := by
    intro e he
    obtain ⟨a, -, rfl⟩ := List.mem_map.mp he
    exact h a
  have hlen := length_encodeIEs_le hall
  simp_all

theorem CreateBearerResult.bearersOr_ne_nil (r : CreateBearerResult) (ebi : UInt8) :
    r.bearersOr ebi ≠ [] := by
  simp only [CreateBearerResult.bearersOr]
  grind

theorem CreateBearerResult.length_bearersOr (r : CreateBearerResult) (ebi : UInt8) :
    (r.bearersOr ebi).length = max r.bearers.length 1 := by
  simp only [CreateBearerResult.bearersOr]
  split
  · grind
  rename_i h
  have := List.length_pos_of_ne_nil h
  omega

theorem accepted_accepted (cause : UInt8) : accepted (accepted cause) = accepted cause := by
  by_cases h : cause = 0
  · rw [h]
    rfl
  · simp only [accepted, if_neg h]

def CreateBearerResult.reported (result : CreateBearerResult) (ebi : UInt8) :
    List CreateBearerBearerResult :=
  CreateBearerResult.bearersOr { result with cause := S2b.accepted result.cause } ebi

theorem createBearerResponse_eq (localGTPU : Option IP) (req : Message)
    (event : CreateBearerEvent) (result : CreateBearerResult) :
    createBearerResponse localGTPU req event result =
      response req msgCreateBearerResp result.pgwControlTEID
        ([causeIE (accepted result.cause)] ++
          (result.reported event.ebi).map
            (fun br => bearerContextIE (br.children localGTPU (accepted result.cause))) ++
          [recoveryIE 0]) := by
  have hne : result.reported event.ebi ≠ [] := CreateBearerResult.bearersOr_ne_nil _ _
  have hagain : CreateBearerResult.bearersOr
      { result with cause := accepted result.cause, bearers := result.reported event.ebi } 0 =
        result.reported event.ebi := if_neg hne
  simp only [createBearerResponse, createBearerResponseMessage, accepted_accepted]
  rw [← hagain]
  rfl

section
variable (h : Inbound req)
include h

theorem Inbound.createContexts_length {event : CreateBearerEvent}
    (hparse : parseCreateBearerRequest req = some event) : event.contexts.length ≤ 1024 := by
  obtain ⟨ies, contexts, hies, hcontexts, -, hne, hbearers⟩ :=
    parseCreateBearerRequest_spec hparse
  have h1 := h.elements hies
  have h2 := bearerContexts_length hcontexts
  have h3 := List.length_filter_le CreateBearerContext.isBearer (createContexts contexts)
  rw [← hbearers, createContexts, List.length_map] at h3
  rw [CreateBearerEvent.contexts, if_neg hne]
  omega

theorem Inbound.updateContexts_length (hparse : parseUpdateBearerRequest req = some event) :
    event.bearers.length ≤ 1024 := by
  obtain ⟨ies, contexts, hies, hcontexts, -, hbearers⟩ := parseUpdateBearerRequest_spec hparse
  have h1 := h.elements hies
  have h2 := bearerContexts_length hcontexts
  have h3 := List.length_filter_le (fun bc => decide (bc.ebi ≠ 0)) (updateContexts contexts)
  rw [← hbearers, updateContexts, List.length_map] at h3
  omega

theorem Inbound.ebis_length {event : DeleteBearerEvent}
    (hparse : parseDeleteBearerRequest req = some event) : event.ebis.length ≤ 1024 := by
  obtain ⟨ies, hies, hfold, -⟩ := parseDeleteBearerRequest_spec hparse
  have hlen := (foldlM_note hfold).2
  have h1 := h.elements hies
  grind

theorem Inbound.createBearerResponse_encode (localGTPU : Option IP) (event : CreateBearerEvent)
    {result : CreateBearerResult} (hlen : result.bearers.length ≤ 1024) :
    ∃ b, (createBearerResponse localGTPU req event result).encode = some b := by
  rw [createBearerResponse_eq]
  apply h.response_encode
  simp only [encodeIEs_append, encodeIEs_cons, encodeIEs_nil, List.length_append, length_encode,
    causeIE, recoveryIE, List.length_cons, List.length_nil]
  have hctx := length_contexts
    (l := result.reported event.ebi) fun br => length_children br localGTPU (accepted result.cause)
  have hmax : (result.reported event.ebi).length = max result.bearers.length 1 :=
    CreateBearerResult.length_bearersOr _ _
  omega

theorem Inbound.updateBearerResponse_encode (result : HandlerResult)
    (hlen : event.bearers.length ≤ 1024) :
    ∃ b, (updateBearerResponse req event result).encode = some b := by
  apply h.response_encode
  have hctx := length_contexts (l := event.bearers) (k := 11)
    (f := fun bc => [causeIE (accepted result.cause), ebiValueIE bc.ebi]) (fun bc => by
      simp [length_encode, causeIE, ebiValueIE])
  simp only [encodeIEs_cons, List.length_append, length_encode, causeIE, List.length_cons,
    List.length_nil] at hctx ⊢
  omega

theorem Inbound.deleteBearerResponse_encode {event : DeleteBearerEvent} (result : HandlerResult)
    (hlen : event.ebis.length ≤ 1024) :
    ∃ b, (deleteBearerResponse req event result).encode = some b := by
  apply h.response_encode
  have hall : ∀ e ∈ event.ebis.map ebiValueIE, e.payload.length ≤ 1 := by
    intro e he
    obtain ⟨v, -, rfl⟩ := List.mem_map.mp he
    exact Nat.le_refl 1
  have hebis := length_encodeIEs_le hall
  rw [List.length_map] at hebis
  simp only [encodeIEs_cons, encodeIEs_nil, List.length_append, length_encode, causeIE,
    bearerContextIE, List.length_cons, List.length_nil]
  omega

end

end Epdg.S2b
