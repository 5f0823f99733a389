import Epdg.System.Final
import Epdg.System.Scenario

/-!
What a failed `handleAuthFinal` leaves behind.

The handler compensates for nothing. Once the PDN connection exists it stays when a later
step fails, unless the PGW itself releases it, and once the local SPI is drawn the SA counts
as established.
-/
namespace Epdg
open Ikev2
variable {teid : UInt32} {w' : World} {ebi : UInt8}

structure Shrinks (w w' : World) : Prop where
  states : ∀ key st, w'.xfrm.states.lookup key = some st → w.xfrm.states.lookup key = some st
  policies : ∀ key pol, w'.xfrm.policies.lookup key = some pol →
    w.xfrm.policies.lookup key = some pol
  gtpu : ∀ id, w'.gtpu.hasSession id = true → w.gtpu.hasSession id = true

namespace Shrinks
variable {w w1 w2 w' : World}

theorem of_eq (hx : w'.xfrm = w.xfrm) (hg : w'.gtpu = w.gtpu) : Shrinks w w' where
  states _ _ h := hx ▸ h
  policies _ _ h := hx ▸ h
  gtpu _ h := hg ▸ h

theorem refl (w : World) : Shrinks w w := of_eq rfl rfl

theorem trans (h1 : Shrinks w w1) (h2 : Shrinks w1 w2) : Shrinks w w2 where
  states key st h := h1.states key st (h2.states key st h)
  policies key pol h := h1.policies key pol (h2.policies key pol h)
  gtpu id h := h1.gtpu id (h2.gtpu id h)

theorem removeSession (w : World) (id : Session.ID) :
    Shrinks w (w.setGtpu (w.gtpu.removeSession id)) where
  states _ _ h := h
  policies _ _ h := h
  gtpu id' h := by
    have hr : (w.gtpu.removeSession id).hasSession id' = true := h
    rw [Gtpu.Manager.hasSession_removeSession, Bool.and_eq_true] at hr
    exact hr.2

theorem removeBearer (w : World) (fault : Bool) (id : Session.ID) (ebi : UInt8) :
    Shrinks w (w.setGtpu (w.gtpu.removeBearer fault id ebi).1) where
  states _ _ h := h
  policies _ _ h := h
  gtpu id' h := by
    have hr : (w.gtpu.removeBearer fault id ebi).1.hasSession id' = true := h
    simp only [Gtpu.Manager.removeBearer] at hr
    split at hr
    · exact hr
    rename_i ds hds
    split at hr
    · exact hr
    simp only [Gtpu.Manager.hasSession, Gtpu.Manager.dropBearers_sessionsByID,
      Table.lookup_insert_ite] at hr ⊢
    grind

theorem kernel {k : Xfrm.Kernel}
    (hs : ∀ key st, k.states.lookup key = some st → w.xfrm.states.lookup key = some st)
    (hp : ∀ key pol, k.policies.lookup key = some pol → w.xfrm.policies.lookup key = some pol) :
    Shrinks w (w.setKernel k) :=
  ⟨hs, hp, fun _ h => h⟩

end Shrinks

theorem Releases.shrinks {touched taken : Session.ID → Prop} {w : World}
    (h : Releases touched taken w w') : Shrinks w w' := by
  refine h.closed .refl .trans fun h1 => ?_
  cases h1 with
  | removeSession => exact .removeSession _ _
  | removeBearer => exact .removeBearer _ _ _ _
  | _ => exact .of_eq rfl rfl

section
variable (w : World) (env : Env)

theorem pgwEvents_shrinks (pos : Nat) : Shrinks w (pgwEvents w env pos) :=
  (pgwEvents_releases w env pos).shrinks

theorem fullTeardown_shrinks (P : Primitives) (strOpen : Bool) (sa : IkeSA) :
    Shrinks w (fullTeardown P strOpen w sa) := by
  have h1 : Shrinks w (removeXFRMChildSA P w sa) := by
    simp only [removeXFRMChildSA]
    split
    · split
      · exact .refl w
      · obtain ⟨hs, hp⟩ := Xfrm.removeChildSA_le w.xfrm _
        exact .kernel hs hp
    · exact .refl w
  have h2 : Shrinks (removeXFRMChildSA P w sa)
      (removePendingStates (removeXFRMChildSA P w sa) sa) := by
    generalize removeXFRMChildSA P w sa = w1
    simp only [removePendingStates]
    split
    · refine .kernel (fun _ _ => Xfrm.removeChildSAStates_le) fun key pol h => ?_
      simp_all
    · exact .refl w1
  obtain ⟨w1, hr, he⟩ : ∃ w1, Releases (fun _ => True) (fun _ => True) _ w1 ∧ _ :=
    fullTeardown_releases P strOpen w fun _ _ => trivial
  rw [he]
  exact (h1.trans h2).trans (hr.shrinks.trans (.of_eq (World.deleteSA_xfrm _ _) rfl))

end

def PgwEvent.frees (teid : UInt32) (ebi : UInt8) : PgwEvent → Prop
  | .deleteSession t _ => t = teid
  | .deleteBearer t ebis _ => t = teid ∧ ebi ∈ ebis

section
variable {w : World} {env : Env}

theorem pgw_cleanupSession (w : World) (sess : Session.Session) :
    (cleanupSession w sess).pgw = w.pgw := by
  simp only [cleanupSession]
  split
  · rfl
  · split <;> rfl

theorem pgw_deleteBearers (w : World) (tftFault : UInt8 → Bool) (sess : Session.Session)
    (defaultEBI : UInt8) (ebis : List UInt8) :
    (deleteBearers w tftFault sess defaultEBI ebis).pgw = w.pgw := by
  induction ebis generalizing w with
  | nil => rfl
  | cons ebi rest ih =>
    simp only [deleteBearers]
    split
    · split <;> exact pgw_cleanupSession w sess
    split
    · exact ih _
    · rfl

theorem pgw_handlePGW (w : World) (env : Env) (ev : PgwEvent) :
    (handlePGW w env ev).pgw = (pgwRelease w ev).pgw := by
  cases ev with
  | deleteSession teid isHandover =>
    simp only [handlePGW]
    generalize pgwRelease w (.deleteSession teid isHandover) = w1
    simp only [handlePGWDelete]
    split
    · rfl
    rename_i sess hf
    have h1 : (if isHandover then w1.emit (.handoverSignalled sess.id) else w1).pgw =
        w1.pgw := by
      split <;> rfl
    have h2 := (pgw_cleanupSession _ sess).trans h1
    split
    · simp only [terminateSession]
      split <;> exact h2
    · exact h2
  | deleteBearer teid ebis isHandover =>
    simp only [handlePGW]
    generalize pgwRelease w (.deleteBearer teid ebis isHandover) = w1
    simp only [handlePGWDeleteBearer]
    split
    · rfl
    · rw [pgw_deleteBearers]
      split <;> rfl

theorem lookup_handlePGW (ev : PgwEvent) (h : w.pgw.lookup teid = some ebi) :
    (ev.frees teid ebi ∧ (handlePGW w env ev).pgw.lookup teid = none) ∨
      (¬ ev.frees teid ebi ∧ (handlePGW w env ev).pgw.lookup teid = some ebi) := by
  rw [pgw_handlePGW]
  cases ev with
  | deleteSession t isHandover =>
    simp only [pgwRelease, Table.lookup_erase_ite, PgwEvent.frees]
    grind
  | deleteBearer t ebis isHandover =>
    simp only [pgwRelease, PgwEvent.frees]
    by_cases e : t = teid
    · subst e
      simp only [h, true_and]
      by_cases hm : ebi ∈ ebis
      · simp [hm]
      · simp [hm, h]
    refine .inr ⟨fun h => e h.1, ?_⟩
    split
    · split
      · rw [Table.lookup_erase_ite, if_neg fun h => e h.symm, h]
      · exact h
    · exact h

theorem lookup_handlePGW_none (ev : PgwEvent) (h : w.pgw.lookup teid = none)
    : (handlePGW w env ev).pgw.lookup teid = none := by
  rw [pgw_handlePGW]
  cases ev with
  | deleteSession t isHandover =>
    simp only [pgwRelease, Table.lookup_erase_ite]
    simp_all
  | deleteBearer t ebis isHandover =>
    simp only [pgwRelease]
    split
    · split
      · rw [Table.lookup_erase_ite]
        simp_all
      · exact h
    · exact h

theorem lookup_handlePGWs_none (evs : List PgwEvent) (h : w.pgw.lookup teid = none) :
    (evs.foldl (fun w ev => handlePGW w env ev) w).pgw.lookup teid = none := by
  induction evs generalizing w with
  | nil => exact h
  | cons ev evs ih => exact ih (lookup_handlePGW_none ev h)

theorem lookup_pgwEvents (env : Env) (pos : Nat) (h : w.pgw.lookup teid = some ebi) :
    ((∃ ev ∈ env.pgwAt pos, ev.frees teid ebi) ∧
        (pgwEvents w env pos).pgw.lookup teid = none) ∨
      ((∀ ev ∈ env.pgwAt pos, ¬ ev.frees teid ebi) ∧
        (pgwEvents w env pos).pgw.lookup teid = some ebi) := by
  simp only [pgwEvents]
  induction env.pgwAt pos generalizing w with
  | nil => exact .inr ⟨by simp, h⟩
  | cons ev evs ih =>
    have hone : (ev.frees teid ebi ∧ (handlePGW w env ev).pgw.lookup teid = none) ∨
        (¬ ev.frees teid ebi ∧ (handlePGW w env ev).pgw.lookup teid = some ebi) :=
      lookup_handlePGW ev h
    rcases hone with ⟨hf, hn⟩ | ⟨hf, hs⟩
    · exact .inl ⟨⟨ev, by simp, hf⟩, lookup_handlePGWs_none evs hn⟩
    simp_all

end

def S2bOutcome.createdTEID : S2bOutcome → Option UInt32
  | .failed created => created.map Prod.fst
  | .ok r => some r.localControlTEID

structure FailureClean (env : Env) (w w' : World) (sa : IkeSA) : Prop where
  state : ∀ sa', w'.lookupSA sa.spiI = some sa' → sa'.state ≠ .established
  pgw : Recorded Event.isRequest w w' → ∀ teid, env.s2b.createdTEID = some teid →
    w'.pgw.lookup teid = none
  shrinks : Shrinks w w'

def detachedSession (w : World) (sa : IkeSA) : Option Session.ID :=
  if sa.handoverIP.isSome then none
  else
    (w.sessions.findSingleActiveByIMSIAPN sa.imsi sa.apn).bind fun old =>
      (w.lookupSA old.ikeSPII).bind IkeSA.sessionID

def requestAfterDetach (w : World) (env : Env) (sa : IkeSA) : CreateSessionRequest :=
  match detachedSession w sa with
  | none => finalRequest w env sa
  | some id => finalRequest (w.setSessions (w.sessions.delete id)) env sa

def FailsEarly (req : CreateSessionRequest) (env : Env) : Prop :=
  requestSendable req = false ∨ env.s2b = .failed none ∨
    ∃ r, env.s2b = .ok r ∧ env.espSPI = none ∧
      ∃ ev, (ev ∈ env.pgwAt 0 ∨ ev ∈ env.pgwAt 1) ∧ ev.frees r.localControlTEID r.ebi

section
variable {S : Server} {w w1 : World} {env : Env} {remote : UDPAddr} {hdr : IKEHeader}
  {sa : IkeSA} {natt : Bool}

theorem sendAuthNotify_frame (w : World) (type : UInt16) (msgID : UInt32) :
    (sendAuthNotify w env remote sa msgID type natt).pgw = w.pgw ∧
      Shrinks w (sendAuthNotify w env remote sa msgID type natt) := by
  simp only [sendAuthNotify, respond]
  split
  · exact ⟨rfl, .refl w⟩
  · exact ⟨rfl, .of_eq rfl rfl⟩

theorem implicitDetach_shrinks (h : implicitDetach S w env sa = some w1) : Shrinks w w1 := by
  rcases implicitDetach_some h with rfl | ⟨k, old, -, -, rfl⟩
  · exact .refl w1
  · exact Shrinks.trans (.of_eq (World.storeSA_xfrm _ _) rfl) (fullTeardown_shrinks _ _ _ _)

def createdWorld (w : World) (env : Env) (sa : IkeSA) (r : CreateSessionResult) : World :=
  let wA := pgwCreate (w.emit (.s2bCreate sa.ref (finalRequest w env sa))) r.localControlTEID r.ebi
  pgwEvents ((pgwEvents wA env 0).updateSession sa.sessionID (sessionS2b r)) env 1

theorem createdWorld_shrinks (w : World) (env : Env) (sa : IkeSA) (r : CreateSessionResult) :
    Shrinks w (createdWorld w env sa r) := by
  have hA : Shrinks w (pgwCreate (w.emit (.s2bCreate sa.ref (finalRequest w env sa)))
      r.localControlTEID r.ebi) := .of_eq rfl rfl
  refine (hA.trans (pgwEvents_shrinks _ env 0)).trans (Shrinks.trans ?_ (pgwEvents_shrinks _ env 1))
  exact .of_eq (World.updateSession_xfrm _ _ _) (World.updateSession_gtpu _ _ _)

theorem lookupSA_createdWorld (r : CreateSessionResult) (k : UInt64) :
    (createdWorld w env sa r).lookupSA k = w.lookupSA k := by
  simp only [createdWorld, lookupSA_pgwEvents, World.lookupSA_updateSession]
  rfl

theorem createdWorld_requested (r : CreateSessionResult) :
    ∃ new, (createdWorld w env sa r).trace =
      new ++ (w.emit (.s2bCreate sa.ref (finalRequest w env sa))).trace := by
  have hA : Without Event.isCompletion (w.emit (.s2bCreate sa.ref (finalRequest w env sa)))
      (pgwCreate (w.emit (.s2bCreate sa.ref (finalRequest w env sa))) r.localControlTEID
        r.ebi) := .of_eq rfl
  have hB := hA.trans (.of_aside isCompletion_special (pgwEvents_aside _ env 0))
  have hC := hB.trans (.of_eq (World.updateSession_trace _ sa.sessionID (sessionS2b r)))
  exact (hC.trans (.of_aside isCompletion_special (pgwEvents_aside _ env 1))).grows

theorem createdWorld_freed_iff (r : CreateSessionResult) :
    (createdWorld w env sa r).pgw.lookup r.localControlTEID = none ↔
      ∃ ev, (ev ∈ env.pgwAt 0 ∨ ev ∈ env.pgwAt 1) ∧ ev.frees r.localControlTEID r.ebi := by
  simp only [createdWorld]
  have hcreated : (pgwCreate (w.emit (.s2bCreate sa.ref (finalRequest w env sa)))
      r.localControlTEID r.ebi).pgw.lookup r.localControlTEID = some r.ebi := by
    simp [pgwCreate]
  generalize pgwCreate (w.emit (.s2bCreate sa.ref (finalRequest w env sa))) r.localControlTEID
    r.ebi = wA at hcreated
  rcases lookup_pgwEvents env 0 hcreated with ⟨⟨ev, hm, hf⟩, hn⟩ | ⟨hno0, hs⟩
  · have hgone : ((pgwEvents wA env 0).updateSession sa.sessionID (sessionS2b r)).pgw.lookup
        r.localControlTEID = none := by
      simp_all
    exact ⟨fun _ => ⟨ev, .inl hm, hf⟩, fun _ => lookup_handlePGWs_none _ hgone⟩
  have hkept : ((pgwEvents wA env 0).updateSession sa.sessionID (sessionS2b r)).pgw.lookup
      r.localControlTEID = some r.ebi := by
    simp_all
  rcases lookup_pgwEvents env 1 hkept with ⟨⟨ev, hm, hf⟩, hn⟩ | ⟨hno1, hs1⟩
  · grind
  grind

end

section
variable {S : Server} {w w1 : World} {env : Env} {remote : UDPAddr} {hdr : IKEHeader}
  {sa : IkeSA} {natt : Bool} {r : CreateSessionResult}
  (hl : w1.lookupSA sa.spiI = some sa) (hst : sa.state = .auth)
  (hshrink : Shrinks w w1) (hquiet : Without Event.isRequest w w1)
include hl hst

theorem not_established (hl' : w'.lookupSA sa.spiI = w1.lookupSA sa.spiI) :
    ∀ sa', w'.lookupSA sa.spiI = some sa' → sa'.state ≠ .established := by
  simp_all

include hshrink hquiet

theorem unsendable_clean (hno : requestSendable (finalRequest w1 env sa) = false) :
    FailureClean env w (finalCreate S w1 env remote sa hdr natt) sa := by
  have hw : finalCreate S w1 env remote sa hdr natt =
      sendAuthNotify w1 env remote sa hdr.messageID authenticationFailed natt := by
    simp [finalCreate, hno]
  rw [hw]
  refine ⟨not_established hl hst ?_, ?_, hshrink.trans (sendAuthNotify_frame _ _ _).2⟩
  · rw [sendAuthNotify, lookupSA_respond]
  · intro hrec
    exact (hrec.not_without (hquiet.trans (.respond isRequest_special _ _ _ _ _ _))).elim

theorem s2bFailed_clean_iff {created : Option (UInt32 × UInt8)}
    (hsend : requestSendable (finalRequest w1 env sa) = true) (hr : env.s2b = .failed created) :
    FailureClean env w (finalCreate S w1 env remote sa hdr natt) sa ↔ created = none := by
  cases created with
  | none =>
    have hw : finalCreate S w1 env remote sa hdr natt =
        sendAuthNotify (w1.emit (.s2bCreate sa.ref (finalRequest w1 env sa))) env remote
          sa hdr.messageID authenticationFailed natt := by
      simp [finalCreate, hsend, hr]
    refine ⟨fun _ => rfl, fun _ => ?_⟩
    rw [hw]
    have hemit : Shrinks w1 (w1.emit (.s2bCreate sa.ref (finalRequest w1 env sa))) :=
      .of_eq rfl rfl
    refine ⟨not_established hl hst ?_, ?_,
      hshrink.trans (hemit.trans (sendAuthNotify_frame _ _ _).2)⟩
    · rw [sendAuthNotify, lookupSA_respond, World.lookupSA_emit]
    · intro _ teid hc
      rw [hr] at hc
      cases hc
  | some created =>
    have hw : finalCreate S w1 env remote sa hdr natt =
        sendAuthNotify (pgwCreate (w1.emit (.s2bCreate sa.ref (finalRequest w1 env sa)))
          created.1 created.2) env remote sa hdr.messageID authenticationFailed natt := by
      simp [finalCreate, hsend, hr]
    refine ⟨fun hclean => ?_, fun h => by cases h⟩
    rw [hw] at hclean
    have hresp : Without Event.isRequest
        (pgwCreate (w1.emit (.s2bCreate sa.ref (finalRequest w1 env sa))) created.1 created.2)
        (sendAuthNotify (pgwCreate (w1.emit (.s2bCreate sa.ref (finalRequest w1 env sa)))
          created.1 created.2) env remote sa hdr.messageID authenticationFailed natt) :=
      .respond isRequest_special _ _ _ _ _ _
    have hreq := Recorded.of_cons (p := Event.isRequest) hquiet.grows rfl rfl hresp.grows
    have hgone := hclean.pgw hreq created.1 (by rw [hr]; rfl)
    rw [(sendAuthNotify_frame _ _ _).1] at hgone
    simp [pgwCreate] at hgone

theorem spiFailed_clean_iff (hsend : requestSendable (finalRequest w1 env sa) = true)
    (hr : env.s2b = .ok r) (hspi : env.espSPI = none) :
    FailureClean env w (finalCreate S w1 env remote sa hdr natt) sa ↔
      ∃ ev, (ev ∈ env.pgwAt 0 ∨ ev ∈ env.pgwAt 1) ∧ ev.frees r.localControlTEID r.ebi := by
  have hw : finalCreate S w1 env remote sa hdr natt = createdWorld w1 env sa r := by
    simp [finalCreate, hsend, hr, finalInstall, hspi, createdWorld]
  rw [hw, ← createdWorld_freed_iff]
  constructor
  · intro hclean
    exact hclean.pgw (.of_cons hquiet.grows rfl rfl (createdWorld_requested r))
      r.localControlTEID (by rw [hr]; rfl)
  · intro hfreed
    refine ⟨not_established hl hst (lookupSA_createdWorld r _), ?_,
      hshrink.trans (createdWorld_shrinks w1 env sa r)⟩
    intro _ teid hc
    rw [hr] at hc
    cases hc
    exact hfreed

theorem finalCreate_clean_iff :
    FailureClean env w (finalCreate S w1 env remote sa hdr natt) sa ↔
      FailsEarly (finalRequest w1 env sa) env := by
  by_cases hsend : requestSendable (finalRequest w1 env sa) = true
  · have hearly : FailsEarly (finalRequest w1 env sa) env ↔ env.s2b = .failed none ∨
        ∃ r, env.s2b = .ok r ∧ env.espSPI = none ∧
          ∃ ev, (ev ∈ env.pgwAt 0 ∨ ev ∈ env.pgwAt 1) ∧ ev.frees r.localControlTEID r.ebi := by
      simp [FailsEarly, hsend]
    rw [hearly]
    cases hr : env.s2b with
    | failed created =>
      rw [s2bFailed_clean_iff hl hst hshrink hquiet hsend hr]
      simp
    | ok r =>
      cases hspi : env.espSPI with
      | none =>
        rw [spiFailed_clean_iff hl hst hshrink hquiet hsend hr hspi]
        simp
      | some spi =>
        -- From the draw of the SPI on the SA is established, however the call ends.
        have hw : finalCreate S w1 env remote sa hdr natt =
            finalInstall S (createdWorld w1 env sa r) env remote sa hdr natt r := by
          simp [finalCreate, hsend, hr, createdWorld]
        rw [hw]
        refine ⟨fun hclean => ?_, fun he => by simp at he⟩
        exact (hclean.state _ (lookupSA_finalInstall hspi) rfl).elim
  · have hno : requestSendable (finalRequest w1 env sa) = false := by simpa using hsend
    exact ⟨fun _ => .inl hno, fun _ => unsendable_clean hl hst hshrink hquiet hno⟩

end

section
variable {S : Server} {w w0 w1 : World} {env : Env} {sa : IkeSA} {i : Input} {c : FinalArgs}

theorem finalRequest_congr {w : World} (env : Env) (sa : IkeSA)
    (h : w'.sessionOf sa.sessionID = w.sessionOf sa.sessionID) :
    finalRequest w' env sa = finalRequest w env sa := by
  simp only [finalRequest, h]

theorem finalRequest_implicitDetach (h : implicitDetach S w env sa = some w1) :
    finalRequest w1 env sa = requestAfterDetach w env sa := by
  simp only [implicitDetach] at h
  simp only [requestAfterDetach, detachedSession]
  split at h
  · simp_all
  rename_i hho
  rw [if_neg hho]
  cases hf : w.sessions.findSingleActiveByIMSIAPN sa.imsi sa.apn with
  | none => simp_all
  | some old =>
    rw [hf] at h
    simp only [Option.bind_some]
    cases hl : w.lookupSA old.ikeSPII with
    | none => simp_all
    | some oldSA =>
      simp only [hl] at h
      split at h
      · cases h
      cases h
      have hget (id : Session.ID) := get_fullTeardown S.prims env.strOpen
        (w.storeSA oldSA.closing) oldSA.closing id
      have hsid : oldSA.closing.sessionID = oldSA.sessionID := rfl
      simp only [Option.bind_some]
      split
      · rename_i hnone
        apply finalRequest_congr
        cases hid : sa.sessionID with
        | none => rfl
        | some id => simp [World.sessionOf, hget, hsid, hnone]
      · rename_i id' hsome
        apply finalRequest_congr
        cases hid : sa.sessionID with
        | none => rfl
        | some id => simp [World.sessionOf, hget, hsid, hsome, eq_comm]

/-- For every call of `handleAuthFinal` in a reachable state that verifies the AUTH payload
and returns: nothing of the call is left exactly when it fails before a PDN connection
exists, or fails at the SPI draw after the PGW released the connection. -/
theorem failed_final_clean_iff {auth : Bytes} (hreach : Reachable S w0)
    (hcall : finalCall S w0 i = some c) (hauth : c.pl.auth = some auth)
    (hlen : c.sa.msk.length = 64) (heq : expectedAuth S.prims c.sa = auth)
    (hret : (implicitDetach S (c.world.emit (.authVerified c.sa auth)) i.env c.sa).isSome) :
    FailureClean i.env c.world (step S w0 i) c.sa ↔
      FailsEarly (requestAfterDetach c.world i.env c.sa) i.env := by
  obtain ⟨w1, hd⟩ := Option.isSome_iff_exists.mp hret
  have hc := finalCall_spec hreach.base.keyed hcall
  have hstep : step S w0 i = finalCreate S w1 i.env c.remote c.sa c.hdr c.natt := by
    rw [hc.step_eq]
    have hmac : Bytes.constEqual (expectedAuth S.prims c.sa) auth = true :=
      (Bytes.constEqual_iff _ _).mpr heq
    simp [handleAuthFinal, hlen, hauth, hmac, hd]
  have hreq : finalRequest w1 i.env c.sa = requestAfterDetach c.world i.env c.sa :=
    (finalRequest_implicitDetach hd).trans rfl
  have hl : w1.lookupSA c.sa.spiI = some c.sa := by
    rcases implicitDetach_some hd with rfl | ⟨k, old, hne, hold, rfl⟩
    · exact hc.stored
    · have hk : old.closing.spiI = k := hc.keyed k old hold
      simp [hk, Ne.symm hne, hc.stored]
  have hemit : Shrinks c.world (c.world.emit (.authVerified c.sa auth)) := .of_eq rfl rfl
  have hshrink : Shrinks c.world w1 := hemit.trans (implicitDetach_shrinks hd)
  have hquiet : Without Event.isRequest c.world w1 :=
    Without.trans (.cons rfl rfl) (implicitDetach_without isRequest_special hd)
  rw [hstep, ← hreq]
  exact finalCreate_clean_iff hl hc.state hshrink hquiet

end

section Runs
open Scenario

def Verified (env : Env) (c : FinalArgs) : Prop :=
  finalCall server (after (Attach.authenticated {})) (Attach.final {} env) = some c ∧
    c.pl.auth = some (expectedAuth server.prims c.sa) ∧ c.sa.msk.length = 64 ∧
    (implicitDetach server (c.world.emit (.authVerified c.sa (expectedAuth server.prims c.sa)))
      env c.sa).isSome

def afterFinal (env : Env) : World :=
  step server (after (Attach.authenticated {})) (Attach.final {} env)

private theorem verified_of_any (env : Env)
    (h : (finalCall server (after (Attach.authenticated {})) (Attach.final {} env)).any
      (fun c => decide (c.pl.auth = some (expectedAuth server.prims c.sa)) &&
        decide (c.sa.msk.length = 64) &&
        (implicitDetach server (c.world.emit (.authVerified c.sa
          (expectedAuth server.prims c.sa))) env c.sa).isSome) = true) :
    ∃ c, Verified env c := by
  obtain ⟨c, hc, h⟩ := (Option.any_eq_true _ _).mp h
  simp only [Bool.and_eq_true, decide_eq_true_eq] at h
  exact ⟨c, hc, h.1.1, h.1.2, h.2⟩

/-- A PGW that refuses the connection leaves nothing behind. -/
theorem refused_connection_clean :
    ∃ c, Verified { now := 4, s2b := .failed none } c ∧
      FailureClean { now := 4, s2b := .failed none } c.world
        (afterFinal { now := 4, s2b := .failed none }) c.sa := by
  obtain ⟨c, hc⟩ := verified_of_any { now := 4, s2b := .failed none } (by decide +kernel)
  refine ⟨c, hc, ?_⟩
  exact (failed_final_clean_iff (after_reachable _) hc.1 hc.2.1 hc.2.2.1 rfl hc.2.2.2).mpr
    (.inr (.inl rfl))

def failingAt (espSPI : Option UInt32) (xfrmFault gtpuFault : Bool) : Env :=
  { now := 4, s2b := .ok (connection 1), espSPI, xfrmFaults := fun _ => xfrmFault, gtpuFault }

def LeftBehind (env : Env) : Prop :=
  ∃ c, Verified env c ∧ Unanswered c.world (afterFinal env) ∧
    ¬ FailureClean env c.world (afterFinal env) c.sa

private theorem leftBehind_of_trace {env : Env} (n : Nat) (hv : ∃ c, Verified env c)
    (hteid : env.s2b.createdTEID = some 0x301)
    (h : ((afterFinal env).trace =
        (afterFinal env).trace.take n ++ (after (Attach.authenticated {})).trace ∧
      (∀ e ∈ (afterFinal env).trace.take n, e.isCompletion = false) ∧
      ∃ e ∈ (afterFinal env).trace.take n, e.isRequest = true) ∧
      (afterFinal env).pgw.lookup 0x301 = some 5) : LeftBehind env := by
  obtain ⟨c, hc⟩ := hv
  obtain ⟨⟨htrace, hno, hreq⟩, hpgw⟩ := h
  have hspec := finalCall_spec (after_reachable _).base.keyed hc.1
  rw [← hspec.trace] at htrace
  refine ⟨c, hc, ⟨_, htrace, hno⟩, ?_⟩
  intro hclean
  have hgone := hclean.pgw ⟨_, htrace, hreq⟩ 0x301 hteid
  simp_all

/-- A failing SPI draw leaves the PDN connection, a failing installation of the CHILD SA also
the established SA, and a failing installation of the GTP-U session also the entries of the
kernel. -/
theorem failed_final_leaves :
    LeftBehind (failingAt none false false) ∧
    (LeftBehind (failingAt (some 0x1001) true false) ∧
      ((afterFinal (failingAt (some 0x1001) true false)).lookupSA 0x11).any
        (fun sa => sa.state = .established) = true) ∧
    LeftBehind (failingAt (some 0x1001) false true) ∧
      ((afterFinal (failingAt (some 0x1001) false true)).lookupSA 0x11).any
        (fun sa => sa.state = .established) = true ∧
      (afterFinal (failingAt (some 0x1001) false true)).xfrm.states.keys.length = 2 := by
  have hv (env : Env) := verified_of_any env
  refine ⟨leftBehind_of_trace 2 (hv _ (by decide +kernel)) rfl (by decide +kernel),
    ⟨leftBehind_of_trace 4 (hv _ (by decide +kernel)) rfl (by decide +kernel),
      by decide +kernel⟩,
    leftBehind_of_trace 5 (hv _ (by decide +kernel)) rfl (by decide +kernel),
    by decide +kernel⟩

end Runs
end Epdg
