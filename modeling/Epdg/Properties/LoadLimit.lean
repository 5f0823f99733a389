import Epdg.Properties.HalfOpen

/-!
The limit on half-open SAs and the requests it turns away.

`max_half_open_sas` is compared with the number of all SAs, so established ones count as load.
-/
namespace Epdg
open Ikev2
variable {w' : World}

def TurnedAway (w w' : World) : Prop :=
  ∃ remote natt spiI msgID data,
    w'.trace = .sent remote natt (.initNotify spiI msgID temporaryFailure data) :: w.trace

structure AcceptableInit (S : Server) (w : World) (env : Env) (remote : UDPAddr) (msg : Bytes)
    (hdr : IKEHeader) : Prop where
  flags : hdr.initiatorBit = true ∧ hdr.responseBit = false
  payloads : ∃ req sa ke nonceI prop propNum,
    (S.codec.decodePayload hdr (msg.drop ikeHeaderLen)).map collectInit = some req ∧
    req.sa = some sa ∧ req.ke = some ke ∧ req.nonce = some nonceI ∧
    selectIKEProposal sa = some (prop, propNum) ∧ ke.diffieHellmanGroup = prop.dh.transformID ∧
    cookieGate S (touchCookies S w env) remote hdr req.notifies = true

section
variable {S : Server} {w : World} {env : Env} {remote : UDPAddr} {msg : Bytes} {hdr : IKEHeader}
  {natt : Bool}

theorem not_turnedAway_of_trace (h : w'.trace = w.trace) : ¬ TurnedAway w w' := by
  rintro ⟨_, _, _, _, _, ht⟩
  simp_all

theorem not_turnedAway_of_sent {out : Outgoing} (h : w'.trace = .sent remote natt out :: w.trace)
    (hout : ∀ spiI msgID data, out ≠ .initNotify spiI msgID temporaryFailure data) :
    ¬ TurnedAway w w' := by
  rintro ⟨_, _, spiI, msgID, data, ht⟩
  grind

theorem initExchange_not_turnedAway {req : InitRequest} {sa : SecurityAssociation}
    {ke : KeyExchange} {nonceI : Bytes} :
    ¬ TurnedAway w (initExchange S (touchCookies S w env) env remote msg hdr natt req sa ke
      nonceI) := by
  have hsent (type : UInt16) (data : Bytes) (htype : type ≠ temporaryFailure) :
      ¬ TurnedAway w (sendInitNotify (touchCookies S w env) remote hdr type data natt) := by
    refine not_turnedAway_of_sent (congrArg _ trace_touchCookies) fun _ _ _ he => ?_
    simp_all
  unfold initExchange
  split
  · exact hsent _ _ (by decide)
  split
  · exact hsent _ _ (by decide)
  split
  · split
    · exact hsent _ _ (by decide)
    split
    · exact not_turnedAway_of_trace trace_touchCookies
    · exact not_turnedAway_of_sent (congrArg _ trace_touchCookies) fun _ _ _ he => nomatch he
  · exact not_turnedAway_of_trace trace_touchCookies

theorem initRequest_turnedAway_iff (h : AcceptableInit S w env remote msg hdr) :
    TurnedAway w (initRequest S w env remote msg hdr natt) ↔ S.cfg.maxHalfOpen ≤ w.saCount := by
  obtain ⟨req, sa, ke, nonceI, prop, propNum, hdec, hsa, hke, hnonce, -, -, hcookie⟩ := h.payloads
  obtain ⟨payloads, hd, rfl⟩ := Option.map_eq_some_iff.mp hdec
  have hrun : initRequest S w env remote msg hdr natt =
      if w.saCount ≥ S.cfg.maxHalfOpen then
        sendInitNotify (touchCookies S w env) remote hdr temporaryFailure [] natt
      else initExchange S (touchCookies S w env) env remote msg hdr natt (collectInit payloads) sa
        ke nonceI := by
    simp [initRequest, hd, hsa, hke, hnonce, hcookie]
  rw [hrun]
  split
  · rename_i hload
    exact iff_of_true ⟨_, _, _, _, _, congrArg _ trace_touchCookies⟩ hload
  · rename_i hload
    exact iff_of_false initExchange_not_turnedAway hload

theorem step_init {pkt : Bytes} (hparse : parsePacket S natt pkt = some (msg, hdr))
    (hinit : hdr.exchangeType = exchIKESAInit) :
    step S w ⟨.packet remote pkt natt, env⟩ = handleIKESAInit S w env remote msg hdr natt := by
  simp only [step, handlePacket, hparse, handleMessage, if_pos hinit]

/-- An acceptable request is not answered with TEMPORARY_FAILURE exactly when the number of all SAs
is below the limit, or an SA under its SPI answers it again or is locked. -/
theorem not_turned_away_iff {pkt : Bytes} (hparse : parsePacket S natt pkt = some (msg, hdr))
    (hinit : hdr.exchangeType = exchIKESAInit) (h : AcceptableInit S w env remote msg hdr) :
    ¬ TurnedAway w (step S w ⟨.packet remote pkt natt, env⟩) ↔
      w.saCount < S.cfg.maxHalfOpen ∨
        ∃ old, w.lookupSA hdr.initiatorSPI = some old ∧
          (old.mu = true ∨ isRetransmit old remote = true) := by
  have hrequest : ¬ TurnedAway w (initRequest S w env remote msg hdr natt) ↔
      w.saCount < S.cfg.maxHalfOpen := by
    rw [initRequest_turnedAway_iff h, Nat.not_le]
  rw [step_init hparse hinit, handleIKESAInit, if_neg (by simp [h.flags.1, h.flags.2])]
  cases hl : w.lookupSA hdr.initiatorSPI with
  | none => simp [hrequest]
  | some old =>
    simp only [Option.some.injEq, exists_eq_left']
    by_cases hmu : old.mu = true
    · rw [if_pos hmu]
      exact iff_of_true (not_turnedAway_of_trace rfl) (.inr (.inl hmu))
    rw [if_neg hmu]
    by_cases hret : isRetransmit old remote = true
    · rw [if_pos hret]
      exact iff_of_true (not_turnedAway_of_sent rfl fun _ _ _ he => by cases he)
        (.inr (.inr hret))
    · rw [if_neg hret, hrequest]
      exact ⟨.inl, fun h => h.resolve_right (not_or.mpr ⟨hmu, hret⟩)⟩

end

section Runs
open Scenario

theorem other_acceptable {S : Server} {w : World} (hcodec : S.codec = Wire.codec)
    (hload : w.saCount < S.cfg.cookieLoad) :
    AcceptableInit S w (other.init 9 (some gateway)).env ue (initMessage 0x12)
      (initHeader 0x12) := by
  refine ⟨by decide, ?_⟩
  refine ⟨{ sa := some (offerIKE []), ke := some (keOf 1), nonce := some (nonceOf 1) },
    offerIKE [], keOf 1, nonceOf 1, ⟨.ecp256, .aesGcm16_256, none, .sha256⟩, 1, ?_, rfl, rfl, rfl,
    by decide, rfl, ?_⟩
  · rw [hcodec]
    decide +kernel
  · simp [cookieGate, hload]

theorem parse_other (S : Server) (hcodec : S.codec = Wire.codec) :
    parsePacket S false (initMessage 0x12) = some (initMessage 0x12, initHeader 0x12) := by
  rw [parsePacket, hcodec]
  decide +kernel

/-- With no SA at all the request is not turned away. -/
theorem first_request_served :
    ¬ TurnedAway (World.initial [1] 0)
      (step oneHalfOpen (World.initial [1] 0) (other.init 9 (some gateway))) :=
  (not_turned_away_iff (parse_other _ rfl) rfl (other_acceptable rfl (by decide))).mpr
    (.inl (by decide))

/-- One subscriber is attached and nobody waits for authentication; the request of another one is
turned away by a server that allows one half-open SA. -/
theorem established_counted :
    Reachable oneHalfOpen (runFrom oneHalfOpen [1] 0 attached) ∧
      halfOpen (runFrom oneHalfOpen [1] 0 attached) < oneHalfOpen.cfg.maxHalfOpen ∧
      AcceptableInit oneHalfOpen (runFrom oneHalfOpen [1] 0 attached)
        (other.init 9 (some gateway)).env ue (initMessage 0x12) (initHeader 0x12) ∧
      TurnedAway (runFrom oneHalfOpen [1] 0 attached)
        (step oneHalfOpen (runFrom oneHalfOpen [1] 0 attached) (other.init 9 (some gateway))) := by
  have hrun : halfOpen (runFrom oneHalfOpen [1] 0 attached) = 0 ∧
      (runFrom oneHalfOpen [1] 0 attached).saCount = 1 ∧
      (runFrom oneHalfOpen [1] 0 attached).lookupSA 0x12 = none := by
    refine ⟨?_, ?_, Option.isNone_iff_eq_none.mp ?_⟩ <;> decide +kernel
  have hreach : Reachable oneHalfOpen (runFrom oneHalfOpen [1] 0 attached) :=
    ⟨[1], 0, attached, rfl⟩
  generalize runFrom oneHalfOpen [1] 0 attached = w at hrun hreach
  obtain ⟨hhalf, hcount, hnew⟩ := hrun
  have hacc : AcceptableInit oneHalfOpen w (other.init 9 (some gateway)).env ue (initMessage 0x12)
      (initHeader 0x12) := by
    apply other_acceptable rfl
    rw [hcount]
    decide
  refine ⟨hreach, ?_, hacc, ?_⟩
  · rw [hhalf]
    decide
  · have hstep : step oneHalfOpen w (other.init 9 (some gateway)) =
        initRequest oneHalfOpen w (other.init 9 (some gateway)).env ue (initMessage 0x12)
          (initHeader 0x12) false := by
      rw [Attach.init, show other.spiI = 0x12 from rfl, step_init (parse_other _ rfl) rfl,
        handleIKESAInit, if_neg (by decide), show (initHeader 0x12).initiatorSPI = 0x12 from rfl,
        hnew]
    rw [hstep, initRequest_turnedAway_iff hacc, hcount]
    decide

end Runs
end Epdg
