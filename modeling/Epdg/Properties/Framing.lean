import Epdg.System.Scenario
import Epdg.System.Writes

/-!
The non-ESP marker on replies.

IKE_SA_INIT and IKE_AUTH are answered in the framing of the socket on which the request
arrived, CREATE_CHILD_SA and INFORMATIONAL in the framing fixed when the SA was created.
-/
namespace Epdg
open Ikev2
variable {msgID : UInt32} {natt : Bool} {w w' : World} {offer : SecurityAssociation}
  {nonceI : Bytes} {ke : Option KeyExchange}

theorem unwrap_frame_iff (natt framing : Bool) (data : Bytes) :
    unwrap natt (frame framing data) = some data ↔ framing = natt := by
  have hlen : ∀ l : Bytes, l ≠ 0 :: 0 :: 0 :: 0 :: l := by
    intro l h
    have := congrArg List.length h
    grind
  cases natt <;> cases framing
  · simp [unwrap, frame]
  · simpa [unwrap, frame] using (hlen data).symm
  · simp only [unwrap, frame, if_true, Bool.false_eq_true, if_false, iff_false]
    grind
  · simp [unwrap, frame]

def RepliesFramed (natt : Bool) (w w' : World) : Prop :=
  ∀ new, w'.trace = new ++ w.trace → ∀ dst framing msg, .sent dst framing msg ∈ new →
    (framing = true ↔ natt = true) ∧ ∀ data, unwrap natt (frame framing data) = some data

inductive UsesStored (S : Server) (msg : Bytes) (hdr : IKEHeader) (sa : IkeSA) : Prop
  | createChild (hex : hdr.exchangeType = exchCreateChildSA) (hmu : sa.mu = false)
      (hst : sa.state = .established) (hopen : (openChild S sa.saKey msg).isSome = true)
  | informational (hex : hdr.exchangeType = exchInformational) (hmu : sa.mu = false)
      (hreq : hdr.responseBit = false) (hst : sa.state ≠ .deleting)
      (hopen : (openInfo S sa.saKey msg).isSome = true)

def PortMatches (S : Server) (w : World) (pkt : Bytes) (natt : Bool) : Prop :=
  ∀ msg hdr sa, parsePacket S natt pkt = some (msg, hdr) →
    w.lookupSA hdr.initiatorSPI = some sa → UsesStored S msg hdr sa → sa.natT = natt

theorem repliesFramed_of_without (h : Without (Event.misframed natt) w w')
    : RepliesFramed natt w w' := by
  obtain ⟨new, ht, hno⟩ := h
  intro new' ht' dst framing msg hm
  rw [ht] at ht'
  rw [← List.append_cancel_right ht'] at hm
  have heq : framing = natt := by simpa [Event.misframed] using hno _ hm
  exact ⟨by rw [heq], fun data => (unwrap_frame_iff natt framing data).mpr heq⟩

theorem not_repliesFramed (h : Recorded (Event.misframed natt) w w')
    : ¬ RepliesFramed natt w w' := by
  obtain ⟨new, ht, e, hm, he⟩ := h
  intro hall
  cases e with
  | sent dst framing msg =>
    have hdata := (hall new ht dst framing msg hm).2 []
    rw [unwrap_frame_iff] at hdata
    simp [Event.misframed, hdata] at he
  | _ => cases he

abbrev Framed (natt : Bool) : World → World → Prop := Without (Event.misframed natt)

namespace Framed
variable {P : Primitives} {msg : Bytes} {k : UInt64}
variable {S : Server} {env : Env} {remote : UDPAddr} {hdr : IKEHeader} {w w1 w2 : World}
  {sa : IkeSA} {natt : Bool}

section
variable (h : Framed natt w w1)
include h

theorem same (ht : w2.trace = w1.trace) : Framed natt w w2 :=
  h.trans (.of_eq ht)

theorem emit {e : Event} (he : e.misframed natt = false) : Framed natt w (w1.emit e) :=
  h.trans (.cons rfl he)

theorem storeSA {sa : IkeSA} : Framed natt w (w1.storeSA sa) := h.same rfl

theorem setKernel {k : Xfrm.Kernel} : Framed natt w (w1.setKernel k) :=
  h.same rfl

theorem updateSession {id : Option Session.ID} {f : Session.Session → Session.Session} :
    Framed natt w (w1.updateSession id f) :=
  h.same (World.updateSession_trace _ _ _)

theorem fullTeardown {strOpen : Bool} : Framed natt w (Ikev2.fullTeardown P strOpen w1 sa) := by
  obtain ⟨new, ht, hr⟩ := trace_fullTeardown P strOpen w1 sa
  exact h.trans ⟨new, ht, fun e he => misframed_of_release (hr e he)⟩

theorem deleteESPs {spis : List UInt32} : Framed natt w (Ikev2.deleteESPs P w1 sa spis) := by
  induction spis generalizing w1 sa with
  | nil => exact h
  | cons spi spis ih => exact ih (h.same (trace_deleteESP P w1 sa spi))

end

theorem createChild_of_matches (hl : w.lookupSA k = some sa)
    (hex : hdr.exchangeType = exchCreateChildSA) (h : UsesStored S msg hdr sa → sa.natT = natt) :
    Framed natt w (Ikev2.handleCreateChildSAOn S w env remote msg hdr sa) := by
  by_cases hu : UsesStored S msg hdr sa
  · rw [← h hu]
    exact (handleCreateChildSAOn_writes False.elim hl).framed
  simp only [Ikev2.handleCreateChildSAOn]
  split
  · exact .refl w
  rename_i hst
  simp only [not_or, Bool.not_eq_true, ne_eq, not_not] at hst
  cases hopen : openChild S (sa.refreshed env.now).saKey msg with
  | none => exact .of_eq rfl
  | some req => exact (hu (.createChild hex hst.1 hst.2 (Option.isSome_of_eq_some hopen))).elim

theorem informational_of_matches (hl : w.lookupSA k = some sa)
    (hex : hdr.exchangeType = exchInformational) (h : UsesStored S msg hdr sa → sa.natT = natt) :
    Framed natt w (Ikev2.handleInformationalOn S w env remote msg hdr sa) := by
  by_cases hu : UsesStored S msg hdr sa
  · rw [← h hu]
    exact (handleInformationalOn_writes (n := 0) False.elim hl).framed
  have hkey : (sa.seen env.now).saKey = sa.saKey :=
    IkeSA.eq_of_core (seen_core sa env.now) IkeSA.saKey fun _ => rfl
  have hstored : Framed natt w (w.storeSA (sa.seen env.now)) := .of_eq rfl
  simp only [Ikev2.handleInformationalOn]
  split
  · exact .refl w
  rename_i hmu
  split
  · split
    · exact hstored
    · exact .refl w
  rename_i hreq
  split
  · exact .refl w
  rename_i hst
  cases hopen : openInfo S (sa.seen env.now).saKey msg with
  | none => exact hstored
  | some pl =>
    rw [hkey] at hopen
    exact (hu (.informational hex (by simpa using hmu) (by simpa using hreq) hst
      (Option.isSome_of_eq_some hopen))).elim

end Framed

/-! ### Requests that are answered -/

section Answers
variable {S : Server} {remote : UDPAddr} {hdr : IKEHeader} {w w1 w2 : World} {sa : IkeSA}
  {natt : Bool}

def fullDraws : Env :=
  { now := 0, spiR := some 0, nonceR := some [], dhPriv := some [], espSPI := some 0
    cookie2 := some [] }

theorem Recorded.grow {p : Event → Bool} (h : Recorded p w w1)
    (hg : ∃ new, w2.trace = new ++ w1.trace) : Recorded p w w2 := by
  obtain ⟨n1, e1, e, he, hp⟩ := h
  obtain ⟨n2, e2⟩ := hg
  exact ⟨n2 ++ n1, by simp [e1, e2], e, by simp [he], hp⟩

theorem ikeRekeyStore_grows (w : World) (sa new : IkeSA) :
    ∃ events, (ikeRekeyStore w sa new).trace = events ++ w.trace :=
  ⟨[.ikeRekeyed sa.ref new.ref], by simp [ikeRekeyStore]⟩

section
variable (hne : sa.natT ≠ natt)
include hne

section
variable (h : Framed sa.natT w w1)
include h

theorem answered_respond {exch : UInt8} {inner : List OutPayload} :
    Recorded (Event.misframed natt) w
      (respond w1 fullDraws remote sa exch msgID inner sa.natT) := by
  obtain ⟨new, ht⟩ := h.grows
  refine ⟨.sent remote sa.natT (.response sa.spiI sa.spiR exch msgID inner) :: new, ?_, _,
    List.mem_cons_self, ?_⟩
  · exact congrArg (List.cons _) ht
  · simpa [Event.misframed] using hne

theorem answered_handleChildSARekey : Recorded (Event.misframed natt) w
      (handleChildSARekey S w1 fullDraws remote sa hdr offer nonceI ke) := by
  simp only [handleChildSARekey]
  split
  · exact answered_respond hne h
  split
  · exact answered_respond hne h
  simp only [fullDraws, childRekeyInstall]
  split
  · exact answered_respond hne h
  · exact answered_respond hne h.setKernel
  · exact answered_respond hne (h.setKernel.emit rfl).storeSA

theorem answered_handleIKESARekey : Recorded (Event.misframed natt) w
      (handleIKESARekey S w1 fullDraws remote sa hdr offer nonceI ke) := by
  simp only [handleIKESARekey]
  split
  · exact answered_respond hne h
  split
  · exact answered_respond hne h
  split
  · exact answered_respond hne h
  split
  · exact answered_respond hne h
  simp only [fullDraws, ikeRekeyExchange]
  split
  · exact answered_respond hne h
  · simp only [Bool.false_eq_true, if_false]
    exact (answered_respond hne h).grow (ikeRekeyStore_grows _ _ _)

theorem answered_mobikeMigrate {prop : ChildProposal} {localIP : IP} :
    Recorded (Event.misframed natt) w
      (mobikeMigrate S w1 fullDraws remote sa msgID prop localIP) := by
  have hne' : (sa.migrated remote).natT ≠ natt := hne
  have hcase := migrateMobikeXFRM_cases S.prims w1 fullDraws sa prop localIP remote
  simp only [mobikeMigrate]
  generalize migrateMobikeXFRM S.prims w1 fullDraws sa prop localIP remote = out at hcase
  cases hcase with
  | refused => exact answered_respond hne h
  | failed k _ => exact answered_respond hne h.setKernel
  | moved k _ =>
    have hmoved : Framed (sa.migrated remote).natT w ((w1.setKernel k).emit (.childReinstalled
      sa.ref (mobikeParams S.prims w1 sa prop localIP remote))) := h.setKernel.emit rfl
    exact answered_respond hne' hmoved.storeSA.updateSession

theorem answered_handleUpdateSA {cookie2 : Bytes} :
    Recorded (Event.misframed natt) w (handleUpdateSA S w1 fullDraws remote sa msgID cookie2) := by
  simp only [handleUpdateSA]
  split
  · split
    · split
      · exact answered_respond hne h.storeSA
      split
      · exact answered_respond hne h
      · exact answered_mobikeMigrate hne h
    · exact answered_respond hne h.storeSA
  · exact answered_respond hne h

theorem answered_informRequest {pl : InfoPayloads} :
    Recorded (Event.misframed natt) w (informRequest S w1 fullDraws remote hdr sa pl) := by
  simp only [informRequest]
  split
  · exact answered_handleUpdateSA hne h
  have hanswer : Recorded (Event.misframed natt) w
      (respondEmpty w1 fullDraws remote sa hdr.messageID) := answered_respond hne h
  have hsame : Framed natt (respondEmpty w1 fullDraws remote sa hdr.messageID)
      (respondEmpty w1 fullDraws remote sa hdr.messageID) := Without.refl _
  split
  · exact hanswer.grow hsame.storeSA.fullTeardown.grows
  · exact hanswer.grow hsame.deleteESPs.grows

end

end

theorem answered_usesStored {msg : Bytes} {pkt : Bytes}
    (hparse : parsePacket S natt pkt = some (msg, hdr))
    (hl : w.lookupSA hdr.initiatorSPI = some sa) (hu : UsesStored S msg hdr sa)
    (hne : sa.natT ≠ natt) :
    Recorded (Event.misframed natt) w (step S w ⟨.packet remote pkt natt, fullDraws⟩) := by
  simp only [step, handlePacket, hparse, handleMessage]
  cases hu with
  | createChild hex hmu hst hopen =>
    have h : Framed (sa.refreshed 0).natT w (w.storeSA (sa.refreshed 0)) := .of_eq rfl
    have hne' : (sa.refreshed 0).natT ≠ natt := hne
    obtain ⟨req, hreq⟩ := Option.isSome_iff_exists.mp hopen
    have hreq' : openChild S (sa.refreshed fullDraws.now).saKey msg = some req := hreq
    rw [hex, if_neg (by decide), if_neg (by decide), if_pos rfl]
    simp only [handleCreateChildSA, hl, handleCreateChildSAOn, hreq']
    rw [if_neg (by simp [hmu, hst])]
    cases req with
    | malformed => exact answered_respond hne' h
    | childSA offer nonceI ke => exact answered_handleChildSARekey hne' h
    | ikeSA offer nonceI ke => exact answered_handleIKESARekey hne' h
  | informational hex hmu hreq hst hopen =>
    have hnatT : (sa.seen 0).natT = sa.natT :=
      IkeSA.eq_of_core (seen_core sa 0) IkeSA.natT fun _ => rfl
    have hkey : (sa.seen fullDraws.now).saKey = sa.saKey :=
      IkeSA.eq_of_core (seen_core sa 0) IkeSA.saKey fun _ => rfl
    have h : Framed (sa.seen 0).natT w (w.storeSA (sa.seen 0)) := .of_eq rfl
    obtain ⟨pl, hpl⟩ := Option.isSome_iff_exists.mp hopen
    rw [hex, if_neg (by decide), if_neg (by decide), if_neg (by decide), if_pos rfl]
    simp only [handleInformational, hreq, Bool.false_eq_true, false_and, if_false, hl,
      handleInformationalOn, hmu, hst, hkey, hpl]
    exact answered_informRequest (by rw [hnatT]; exact hne) h

end Answers

/-- The replies of a step are framed for the socket on which the request arrived, whatever is
drawn meanwhile, exactly when that socket is the one for which the SA was created or the
request is not answered from the SA. -/
theorem replies_framed_iff (S : Server) (w : World) (remote : UDPAddr) (pkt : Bytes)
    (natt : Bool) :
    (∀ env, RepliesFramed natt w (step S w ⟨.packet remote pkt natt, env⟩)) ↔
      PortMatches S w pkt natt := by
  constructor
  · intro hall msg hdr sa hparse hl hu
    by_contra hne
    exact not_repliesFramed (answered_usesStored hparse hl hu hne) (hall fullDraws)
  · intro hport env
    refine repliesFramed_of_without ?_
    simp only [step, handlePacket]
    split
    · exact .refl w
    rename_i msg hdr hparse
    simp only [handleMessage]
    split
    · exact handleIKESAInit_writes.framed
    split
    · exact (handleIKEAuth_writes (n := 0) False.elim).framed
    split
    · rename_i hex
      simp only [handleCreateChildSA]
      split
      · exact .refl w
      · rename_i sa hl
        exact Framed.createChild_of_matches hl hex (hport msg hdr sa hparse hl)
    split
    · rename_i hex
      simp only [handleInformational]
      split
      · exact .refl w
      split
      · exact .refl w
      · rename_i sa hl
        exact Framed.informational_of_matches hl hex (hport msg hdr sa hparse hl)
    · exact .refl w

section Runs
open Scenario

def askOnNATT : Input :=
  ⟨.packet ue (frame true (informMessage 0x11 0x21 7 [])) true, { now := 10 }⟩

/-- The reply comes without the marker. -/
theorem reply_without_marker :
    ¬ RepliesFramed true (after attached) (step server (after attached) askOnNATT) := by
  have hrun : ((step server (after attached) askOnNATT).trace.head?.any
        (Event.misframed true) &&
      decide ((step server (after attached) askOnNATT).trace.tail = (after attached).trace)) =
        true := by
    decide +kernel
  rw [Bool.and_eq_true, decide_eq_true_eq] at hrun
  obtain ⟨e, he, hm⟩ := (Option.any_eq_true _ _).mp hrun.1
  refine not_repliesFramed ⟨[e], ?_, e, List.mem_singleton_self e, hm⟩
  rw [← hrun.2]
  exact (List.cons_head?_tail he).symm

end Runs
end Epdg
