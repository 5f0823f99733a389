import Epdg.System.Calm
import Epdg.System.Final

/-!
What the handlers write.

Every handler works through a few kinds of writes: it leaves the SAs alone or drops some, stores
an edited copy of one, or adds a new one. What it sends is framed for one socket. Outside
IKE_SA_INIT and IKE_AUTH all of it is calm: no session gets ready or active, and no half-open SA
proceeds.
-/
namespace Epdg
open Ikev2
variable {e : Event} {k : UInt64}

def Event.misframed (natt : Bool) : Event → Bool
  | .sent _ framing _ => framing != natt
  | _ => false

def Ikev2.IkeSA.counter (sa : IkeSA) : Nat × UInt32 := (sa.ref, sa.ourMsgID)

structure Replaces (calm : Prop) (old sa : IkeSA) : Prop where
  spiI : sa.spiI = old.spiI
  counter : sa.counter = old.counter
  stage : calm → sa.state = .auth → old.state = .auth ∧ SameStage old sa

inductive Write (n : Nat) (natt : Bool) (keyed calm : Prop) (w : World) : World → Prop
  | keep {w' : World} (hl : ∀ k sa, w'.lookupSA k = some sa → w.lookupSA k = some sa)
      (ht : Without (Event.misframed natt) w w') (hs : calm → Remain (fun _ => Settled) w w') :
      Write n natt keyed calm w w'
  | edit {sa : IkeSA}
      (h : keyed → ∃ old, w.lookupSA old.spiI = some old ∧ Replaces calm old sa) :
      Write n natt keyed calm w (w.storeSA sa)
  | create {sa : IkeSA} (hc : sa.counter = (n, 0)) (hs : calm → sa.state ≠ .auth) :
      Write n natt keyed calm w (w.storeSA sa)

abbrev Writes (n : Nat) (natt : Bool) (keyed calm : Prop) : World → World → Prop :=
  Relation.ReflTransGen (Write n natt keyed calm)

structure Held (n : Nat) (natt : Bool) (keyed calm : Prop) (w w' : World) (sa : IkeSA) : Prop where
  writes : Writes n natt keyed calm w w'
  stored : keyed → ∃ old, w'.lookupSA old.spiI = some old ∧ Replaces calm old sa

section Rules
variable {n : Nat} {natt : Bool} {keyed calm : Prop} {w w1 w2 : World} {sa sa' : IkeSA} {env : Env}
  {remote : UDPAddr}

theorem Writes.framed (h : Writes n natt False False w w1) : Without (Event.misframed natt) w w1 := by
  induction h with
  | refl => exact .refl w
  | tail _ h1 ih =>
    cases h1 with
    | keep _ ht => exact ih.trans ht
    | edit | create => exact ih.trans (.of_eq rfl)

theorem Calm.of_writes (h : Writes n natt True True w w1) : Calm w w1 := by
  induction h with
  | refl => exact .refl w
  | tail _ h1 ih =>
    refine ih.trans ?_
    cases h1 with
    | keep hl _ hs =>
      exact ⟨fun hk k sa h => hk k sa (hl k sa h), hs trivial, fun k sa h hst =>
        ⟨sa, hl k sa h, hst, rfl, rfl, rfl, Iff.rfl⟩⟩
    | edit h =>
      obtain ⟨old, hl, h⟩ := h trivial
      exact .storeSA _ old (fun _ => h.spiI ▸ hl) (h.stage trivial)
    | create _ hs => exact .storeEstablished _ _ (hs trivial)

theorem Replaces.trans {sa0 : IkeSA} (h1 : Replaces calm sa0 sa) (h2 : Replaces calm sa sa') :
    Replaces calm sa0 sa' where
  spiI := h2.spiI.trans h1.spiI
  counter := h2.counter.trans h1.counter
  stage hc hs := by
    obtain ⟨hs1, ho1, hi1, hm1, hr1⟩ := h2.stage hc hs
    obtain ⟨hs0, ho, hi, hm, hr⟩ := h1.stage hc hs1
    exact ⟨hs0, ho1.trans ho, hi1.trans hi, hm1.trans hm, hr1.trans hr⟩

theorem Replaces.refl (sa : IkeSA) : Replaces calm sa sa :=
  ⟨rfl, rfl, fun _ h => ⟨h, rfl, rfl, rfl, Iff.rfl⟩⟩

theorem Replaces.same (hspi : sa'.spiI = sa.spiI) (hc : sa'.counter = sa.counter)
    (hst : sa'.state = sa.state) (hsame : SameStage sa sa') : Replaces calm sa sa' :=
  ⟨hspi, hc, fun _ h => ⟨hst ▸ h, hsame⟩⟩

theorem misframed_of_release (h : e.isRelease = true) : e.misframed natt = false := by
  cases e <;> first | rfl | cases h

theorem Writes.emit (h : Writes n natt keyed calm w w1) (he : e.misframed natt = false) :
    Writes n natt keyed calm w (w1.emit e) :=
  h.tail (.keep (fun _ _ hl => hl) (.cons rfl he) fun _ => .of_eq settled_fading rfl)

theorem Writes.teardown (h : Writes n natt keyed calm w w1) (P : Primitives) (strOpen : Bool)
    (sa : IkeSA) :
    Writes n natt keyed calm w (fullTeardown P strOpen (w1.storeSA sa.closing) sa.closing) := by
  refine h.tail (.keep (fun k sa' hl => ?_) ?_ fun _ => ?_)
  · simp_all
  · obtain ⟨new, ht, hr⟩ := trace_fullTeardown P strOpen (w1.storeSA sa.closing) sa.closing
    exact ⟨new, ht, fun e he => misframed_of_release (hr e he)⟩
  · exact Remain.trans settled_fading (.of_eq settled_fading (w1.storeSA_sessions sa.closing))
      (.fullTeardown settled_fading P strOpen _ _)

namespace Held
variable {msgID : UInt32}

theorem of_lookup {k : UInt64} (hk : keyed → Keyed w) (hl : w.lookupSA k = some sa) :
    Held n natt keyed calm w w sa :=
  ⟨.refl, fun hkeyed => ⟨sa, by rw [hk hkeyed k sa hl]; exact hl, .refl sa⟩⟩

theorem edit (h : Held n natt keyed calm w w1 sa) (sa' : IkeSA) (he : Replaces calm sa sa') :
    Held n natt keyed calm w w1 sa' := by
  refine ⟨h.writes, fun hk => ?_⟩
  obtain ⟨old, hl, ho⟩ := h.stored hk
  exact ⟨old, hl, ho.trans he⟩

theorem store (h : Held n natt keyed calm w w1 sa) (sa' : IkeSA)
    (he : Replaces calm sa sa') :
    Held n natt keyed calm w (w1.storeSA sa') sa' :=
  ⟨h.writes.tail (.edit (h.edit sa' he).stored), fun _ =>
    ⟨sa', lookupSA_stored _ _, .refl sa'⟩⟩

theorem create (h : Writes n natt keyed calm w w1) (hc : sa.counter = (n, 0))
    (hs : calm → sa.state ≠ .auth) : Held n natt keyed calm w (w1.storeSA sa) sa :=
  ⟨h.tail (.create hc hs), fun _ => ⟨sa, lookupSA_stored _ _, .refl sa⟩⟩

section
variable (h : Held n natt keyed calm w w1 sa)
include h

theorem keep (hl : ∀ k, w2.lookupSA k = w1.lookupSA k) (ht : Without (Event.misframed natt) w1 w2)
    (hs : calm → Remain (fun _ => Settled) w1 w2) : Held n natt keyed calm w w2 sa := by
  refine ⟨h.writes.tail (.keep (fun k sa h => hl k ▸ h) ht hs), fun hk => ?_⟩
  obtain ⟨old, hold, ho⟩ := h.stored hk
  grind

theorem same (hl : ∀ k, w2.lookupSA k = w1.lookupSA k) (ht : w2.trace = w1.trace)
    (hs : w2.sessions = w1.sessions) : Held n natt keyed calm w w2 sa :=
  h.keep hl (.of_eq ht) fun _ => .of_eq settled_fading hs

theorem allocRef : Held n natt keyed calm w w1.allocRef sa :=
  h.same (fun _ => rfl) rfl rfl

theorem setKernel {k : Xfrm.Kernel} : Held n natt keyed calm w (w1.setKernel k) sa :=
  h.same (fun _ => rfl) rfl rfl

theorem emit {e : Event} (he : e.misframed natt = false) :
    Held n natt keyed calm w (w1.emit e) sa :=
  h.keep (fun _ => rfl) (.cons rfl he) fun _ => .of_eq settled_fading rfl

theorem updateSession {id : Option Session.ID} {f : Session.Session → Session.Session}
    (hf : calm → ∀ s, (f s).id = s.id ∧ Settled s (f s)) :
    Held n natt keyed calm w (w1.updateSession id f) sa :=
  h.keep (World.lookupSA_updateSession _ _ _) (.of_eq (World.updateSession_trace _ _ _)) fun hc =>
    .updateSession settled_fading id (fun s => (hf hc s).1) fun _ s _ _ => (hf hc s).2

theorem pgwEvents {pos : Nat} : Held n natt keyed calm w (Epdg.pgwEvents w1 env pos) sa := by
  obtain ⟨new, ht, hr⟩ := (pgwEvents_aside w1 env pos).trace
  exact h.keep (lookupSA_pgwEvents w1 env pos)
    ⟨new, ht, fun e he => misframed_of_release (hr e he)⟩ fun _ => .pgwEvents settled_fading _ _ _

theorem respond {exch : UInt8} {inner : List OutPayload} :
    Held n natt keyed calm w (Ikev2.respond w1 env remote sa exch msgID inner natt) sa := by
  simp only [Ikev2.respond]
  split
  · exact h
  · exact h.emit (by simp [Event.misframed])

theorem sendAuthNotify {type : UInt16} :
    Held n natt keyed calm w (Ikev2.sendAuthNotify w1 env remote sa msgID type natt) sa :=
  h.respond

theorem teardown {old : IkeSA} (hne : keyed → sa.spiI ≠ old.spiI) (P : Primitives)
    (strOpen : Bool) :
    Held n natt keyed calm w (fullTeardown P strOpen (w1.storeSA old.closing) old.closing) sa := by
  refine ⟨h.writes.teardown P strOpen old, fun hk => ?_⟩
  obtain ⟨sa0, hl, ho⟩ := h.stored hk
  have hspi : old.closing.spiI = old.spiI := rfl
  have hne := hne hk
  refine ⟨sa0, ?_, ho⟩
  rw [lookupSA_fullTeardown, World.lookupSA_storeSA, hspi, ← ho.spiI, if_neg hne, if_neg hne,
    ho.spiI]
  exact hl

end

end Held
end Rules

/-! ### IKE_SA_INIT and IKE_AUTH -/

section Auth
variable {n : Nat} {natt : Bool} {keyed : Prop} {S : Server} {w w1 w2 : World} {env : Env} {remote : UDPAddr}
  {sa : IkeSA} {hdr : IKEHeader} {pl : AuthPayloads} {result : Swm.EAPResult}
  {r : CreateSessionResult} {msg : Bytes}

theorem handleIKESAInit_writes :
    Writes w.nextRef natt keyed False w (handleIKESAInit S w env remote msg hdr natt) := by
  have hcookies : Writes w.nextRef natt keyed False w (touchCookies S w env) := by
    refine .single (.keep (fun k sa h => lookupSA_touchCookies k ▸ h) (.of_eq ?_) False.elim)
    simp_all
  have hown : ∀ out, (Event.sent remote natt out).misframed natt = false := by
    simp [Event.misframed]
  have hcase := handleIKESAInit_cases S w env remote msg hdr natt
  generalize handleIKESAInit S w env remote msg hdr natt = out at hcase
  cases hcase with
  | silent => exact .refl
  | answered out => exact Writes.emit .refl (hown out)
  | dropped => exact hcookies
  | refused out => exact hcookies.emit (hown out)
  | accepted req sa ke prop propNum nonceI nonceR priv shared spiR resp hp =>
    have hnew : (initSA S (touchCookies S w env) env remote msg hdr natt req prop nonceI nonceR
        shared spiR resp).counter = (w.nextRef, 0) := by
      rw [← nextRef_touchCookies]
      rfl
    exact ((Held.create hcookies hnew False.elim).allocRef.emit (hown _)).writes

theorem Held.sendEAPResponse (h : Held n natt keyed False w w1 sa) {msgID : UInt32} {eap : Bytes}
    {includeID : Bool} :
    Held n natt keyed False w (sendEAPResponse S w1 env remote sa msgID eap includeID natt) sa := by
  simp only [Ikev2.sendEAPResponse]
  split
  · split
    · exact h.sendAuthNotify
    · exact h.respond
  · exact h.respond

theorem Held.exchangeEAP (h : Held n natt keyed False w w1 sa) {ref : Nat} {req : Swm.EAPRequest}
    {answer : Option Swm.EAPResult} (hx : exchangeEAP S w1 env ref req = (w2, answer)) :
    Held n natt keyed False w w2 sa := by
  simp only [Ikev2.exchangeEAP] at hx
  split at hx
  · cases hx
    exact h
  split at hx <;> cases hx
  · exact h
  · exact h.emit (by rfl)
  · exact (h.emit (by rfl)).emit (by rfl)

theorem round1Config_replaces (sa : IkeSA) (cp : Option Configuration) :
    Replaces False sa (round1Config sa cp) := by
  have hattr (sa : IkeSA) (attr : CfgAttribute) :
      Replaces False sa (sa.noteCfgAttribute attr) := by
    unfold IkeSA.noteCfgAttribute
    split
    · dsimp only
      split <;> exact ⟨rfl, rfl, False.elim⟩
    · exact .refl sa
  have hattrs (attrs : List CfgAttribute) :
      Replaces False sa (attrs.foldl IkeSA.noteCfgAttribute sa) := by
    induction attrs generalizing sa with
    | nil => exact .refl sa
    | cons attr attrs ih => exact (hattr sa attr).trans (ih _)
  unfold round1Config
  split
  · split
    · exact hattrs _
    · exact .refl sa
  · exact .refl sa

section
variable (h : Held n natt keyed False w w1 sa)
include h

theorem round1Reply_writes :
    Writes n natt keyed False w (round1Reply S w1 env remote sa hdr result natt) :=
  (h.sendEAPResponse.store _ (by exact ⟨rfl, rfl, False.elim⟩)).writes

theorem round1Result_writes :
    Writes n natt keyed False w (round1Result S w1 env remote sa hdr result natt) := by
  have h1 := h.store (sa.swmStarted result.sessionID) ⟨rfl, rfl, False.elim⟩
  simp only [round1Result]
  split
  · exact (h1.updateSession False.elim).sendAuthNotify.writes
  · refine round1Reply_writes (((h1.updateSession False.elim).store _ ?_).updateSession False.elim)
    exact ⟨rfl, rfl, False.elim⟩
  · exact round1Reply_writes (h1.updateSession False.elim)

theorem round1Relay_writes :
    Writes n natt keyed False w (round1Relay S w1 env remote sa hdr pl natt) := by
  have h1 : Held n natt keyed False w (round1Session w1 (round1Config sa pl.cp).withSession)
      (round1Config sa pl.cp) :=
    (h.edit _ (round1Config_replaces sa pl.cp)).keep (fun _ => rfl) (.of_eq rfl) False.elim
  have h2 := h1.store (round1Config sa pl.cp).withSession ⟨rfl, rfl, False.elim⟩
  simp only [round1Relay]
  split
  · exact h2.sendAuthNotify.writes
  split
  · rename_i hx
    exact (h2.exchangeEAP hx).sendAuthNotify.writes
  · rename_i hx
    exact round1Result_writes (h2.exchangeEAP hx)

theorem handleAuthRound1_writes :
    Writes n natt keyed False w (handleAuthRound1 S w1 env remote sa hdr pl natt) := by
  simp only [handleAuthRound1]
  split
  · exact h.sendAuthNotify.writes
  split
  · exact h.sendAuthNotify.writes
  rename_i idi _ _ nai imsi _
  have h1 := h.store (sa.identified idi nai imsi (round1APN S pl.idr)) ⟨rfl, rfl, False.elim⟩
  split
  · exact h1.sendAuthNotify.writes
  rename_i sa1 hchild
  obtain ⟨prop, num, spi, rfl⟩ := round1Child_eq hchild
  exact round1Relay_writes (h1.edit _ ⟨rfl, rfl, False.elim⟩)

theorem handleAuthEAP_writes :
    Writes n natt keyed False w (handleAuthEAP S w1 env remote sa hdr pl natt) := by
  simp only [handleAuthEAP]
  split
  · split
    · exact h.sendEAPResponse.writes
    · exact h.writes
  split
  · rename_i hx
    exact (h.exchangeEAP hx).sendAuthNotify.writes
  rename_i result hx
  have h1 := (h.exchangeEAP hx).store sa.nextRound ⟨rfl, rfl, False.elim⟩
  simp only [eapRoundResult]
  split
  · exact h1.sendAuthNotify.writes
  · have h2 := h1.store (sa.nextRound.eapSuccess result) ⟨rfl, rfl, False.elim⟩
    exact (h2.updateSession False.elim).sendEAPResponse.writes
  · exact h1.sendEAPResponse.writes

theorem finalRespond_writes :
    Writes n natt keyed False w (finalRespond S w1 env remote sa hdr natt r) := by
  simp only [finalRespond]
  split
  · exact h.pgwEvents.writes
  · exact (h.pgwEvents.respond.emit (by rfl)).writes

theorem finalDatapath_writes :
    Writes n natt keyed False w (finalDatapath S w1 env remote sa hdr natt r) := by
  simp only [finalDatapath]
  split
  · exact finalRespond_writes (h.updateSession False.elim)
  have hset (m : Gtpu.Manager) : Held n natt keyed False w ((pgwEvents (w1.updateSession
      sa.sessionID (sessionESP sa)) env 2).setGtpu m) sa :=
    (h.updateSession False.elim).pgwEvents.same (fun _ => rfl) rfl rfl
  split
  · exact (hset _).sendAuthNotify.writes
  · exact finalRespond_writes ((((hset _).updateSession False.elim).pgwEvents).updateSession False.elim)

theorem Held.installFinal {out : World × Option Bool}
    (hx : installFinal S.prims w1 env remote sa r = out) : Held n natt keyed False w out.1 sa := by
  subst hx
  simp only [Ikev2.installFinal]
  split
  · split
    · exact h.setKernel
    · exact h.setKernel.emit (by rfl)
  · exact h

theorem finalInstall_writes :
    Writes n natt keyed False w (finalInstall S w1 env remote sa hdr natt r) := by
  simp only [finalInstall]
  split
  · exact h.writes
  rename_i spi _
  have h1 : Held n natt keyed False w ((w1.storeSA (sa.establish spi)).emit
      (.established (sa.establish spi).ref)) (sa.establish spi) :=
    (h.store _ (by exact ⟨rfl, rfl, False.elim⟩)).emit (by rfl)
  split
  · rename_i hx
    exact (h1.installFinal hx).sendAuthNotify.writes
  · rename_i hx
    exact finalDatapath_writes (h1.installFinal hx)
  · rename_i hx
    exact finalRespond_writes (h1.installFinal hx)

theorem finalCreate_writes :
    Writes n natt keyed False w (finalCreate S w1 env remote sa hdr natt) := by
  simp only [finalCreate]
  split
  · exact h.sendAuthNotify.writes
  have hasked : Held n natt keyed False w (w1.emit (.s2bCreate sa.ref (finalRequest w1 env sa))) sa :=
    h.emit (by rfl)
  have hcreated (teid : UInt32) (ebi : UInt8) : Held n natt keyed False w (pgwCreate
      (w1.emit (.s2bCreate sa.ref (finalRequest w1 env sa))) teid ebi) sa :=
    hasked.same (fun _ => rfl) rfl rfl
  split
  · split
    · exact (hcreated _ _).sendAuthNotify.writes
    · exact hasked.sendAuthNotify.writes
  · exact finalInstall_writes ((hcreated _ _).pgwEvents.updateSession False.elim).pgwEvents

end

theorem handleAuthFinal_writes (hk : keyed → Keyed w1) (h : Held n natt keyed False w w1 sa) :
    Writes n natt keyed False w (handleAuthFinal S w1 env remote sa hdr pl natt) := by
  have hcase := handleAuthFinal_cases S w1 env remote sa hdr pl natt
  generalize handleAuthFinal S w1 env remote sa hdr pl natt = out at hcase
  cases hcase with
  | refused => exact h.sendAuthNotify.writes
  | stuck auth => exact ((h.emit (by rfl)).store _ (by exact ⟨rfl, rfl, False.elim⟩)).writes
  | verified auth w2 hauth hlen heq hd =>
    have h1 : Held n natt keyed False w (w1.emit (.authVerified sa auth)) sa := h.emit rfl
    refine finalCreate_writes ?_
    rcases implicitDetach_some hd with rfl | ⟨k, old, hne, hold, rfl⟩
    · exact h1
    refine h1.teardown (fun hkeyed => ?_) _ _
    rw [hk hkeyed k old hold]
    exact hne.symm

theorem handleIKEAuth_writes (hk : keyed → Keyed w) :
    Writes n natt keyed False w (handleIKEAuth S w env remote msg hdr natt) := by
  simp only [handleIKEAuth, handleIKEAuthOn, authDispatch]
  split
  · exact .refl
  split
  · exact .refl
  rename_i sa hl
  have h0 : Held n natt keyed False w w sa := .of_lookup hk hl
  have h1 := h0.store (sa.heard remote env.now) ⟨rfl, rfl, False.elim⟩
  split
  · exact .refl
  split
  · exact h1.writes
  · exact h1.sendAuthNotify.writes
  rename_i pl _
  have h2 := h1.store ((sa.heard remote env.now).noteMobike pl)
    ⟨IkeSA.noteMobike_keeps IkeSA.spiI (fun _ _ => rfl) _ pl,
      IkeSA.noteMobike_keeps IkeSA.counter (fun _ _ => rfl) _ pl, False.elim⟩
  split
  · exact handleAuthRound1_writes h2
  split
  · exact handleAuthFinal_writes (fun h => ((hk h).storeSA _).storeSA _) h2
  · exact handleAuthEAP_writes h2

end Auth

/-! ### CREATE_CHILD_SA and INFORMATIONAL -/

section Others
variable {n : Nat} {natt : Bool} {keyed calm : Prop} {S : Server} {w w1 : World} {env : Env}
  {remote : UDPAddr} {sa : IkeSA} {hdr : IKEHeader} {msg : Bytes} {offer : SecurityAssociation}
  {nonceI : Bytes} {ke : Option KeyExchange} {msgID : UInt32}

theorem handleChildSARekey_writes (h : Held n sa.natT keyed calm w w1 sa) :
    Writes n sa.natT keyed calm w (handleChildSARekey S w1 env remote sa hdr offer nonceI ke) := by
  simp only [handleChildSARekey]
  split
  · exact h.respond.writes
  split
  · exact h.respond.writes
  split
  · simp only [childRekeyInstall]
    split
    · exact h.respond.writes
    · exact h.setKernel.respond.writes
    · refine ((h.setKernel.emit (by rfl)).store _ ?_).respond.writes
      exact .same rfl rfl rfl ⟨rfl, rfl, rfl, Iff.rfl⟩
  · exact h.writes

theorem handleIKESARekey_writes (hs : calm → sa.state = .established)
    (h : Held n sa.natT keyed calm w w1 sa) (hn : w1.nextRef = n) :
    Writes n sa.natT keyed calm w (handleIKESARekey S w1 env remote sa hdr offer nonceI ke) := by
  have hcase := handleIKESARekey_cases S w1 env remote sa hdr offer nonceI ke
  generalize handleIKESARekey S w1 env remote sa hdr offer nonceI ke = out at hcase
  cases hcase with
  | dropped => exact h.writes
  | refused => exact h.respond.writes
  | accepted prop propNum nonceR priv shared newSPII newSPIR out hp =>
    have h1 : Held n sa.natT keyed calm w (w1.emit (.sent remote sa.natT out)) sa :=
      h.emit (by simp [Event.misframed])
    have h2 := h1.store sa.replaced ⟨rfl, rfl, fun hc ha => by
      simp [IkeSA.replaced, hs hc] at ha⟩
    have h3 : Held n sa.natT keyed calm w (((w1.emit (.sent remote sa.natT out)).storeSA
        sa.replaced).storeSA (rekeyedSA S.prims w1 env sa prop shared nonceI nonceR newSPII
        newSPIR)) _ := .create h2.writes (congrArg (·, 0) hn) fun _ => by simp [rekeyedSA]
    refine ((h3.allocRef.emit (by rfl)).updateSession ?_).writes
    exact fun _ _ => ⟨rfl, rfl, fun h => ⟨h, rfl⟩, id⟩

theorem handleCreateChildSAOn_writes (hk : keyed → Keyed w) (hl : w.lookupSA k = some sa) :
    Writes w.nextRef sa.natT keyed calm w (handleCreateChildSAOn S w env remote msg hdr sa) := by
  have h : Held w.nextRef (sa.refreshed env.now).natT keyed calm w (w.storeSA (sa.refreshed env.now))
      (sa.refreshed env.now) :=
    (Held.of_lookup hk hl).store _ (.same rfl rfl rfl ⟨rfl, rfl, rfl, Iff.rfl⟩)
  simp only [handleCreateChildSAOn]
  split
  · exact .refl
  rename_i hst
  split
  · exact h.writes
  · exact h.respond.writes
  · exact handleChildSARekey_writes h
  refine handleIKESARekey_writes (fun _ => ?_) h rfl
  have hsame : (sa.refreshed env.now).state = sa.state := rfl
  simp_all

theorem handleCreateChildSA_writes (hk : keyed → Keyed w) :
    ∃ natt, Writes w.nextRef natt keyed calm w (handleCreateChildSA S w env remote msg hdr) := by
  simp only [handleCreateChildSA]
  split
  · exact ⟨false, .refl⟩
  · rename_i hl
    exact ⟨_, handleCreateChildSAOn_writes hk hl⟩

theorem handleUpdateSA_writes (h : Held n sa.natT keyed calm w w1 sa) {incoming : Bytes} :
    Writes n sa.natT keyed calm w (handleUpdateSA S w1 env remote sa msgID incoming) := by
  have hchallenge : Writes n sa.natT keyed calm w (mobikeChallenge w1 env remote sa msgID) := by
    simp only [mobikeChallenge]
    split
    · exact h.respond.writes
    · exact (h.store _ (by exact .same rfl rfl rfl ⟨rfl, rfl, rfl, Iff.rfl⟩)).respond.writes
  have hmigrate (prop : ChildProposal) (localIP : IP) :
      Writes n sa.natT keyed calm w (mobikeMigrate S w1 env remote sa msgID prop localIP) := by
    have hcase := migrateMobikeXFRM_cases S.prims w1 env sa prop localIP remote
    simp only [mobikeMigrate]
    generalize migrateMobikeXFRM S.prims w1 env sa prop localIP remote = out at hcase
    cases hcase with
    | refused => exact h.respond.writes
    | failed k _ => exact h.setKernel.respond.writes
    | moved k _ =>
      refine (((h.setKernel.emit (by rfl)).store _ ?_).updateSession ?_).respond.writes
      · exact .same rfl rfl rfl ⟨rfl, rfl, rfl, Iff.rfl⟩
      · exact fun _ _ => ⟨rfl, rfl, fun h => ⟨h, rfl⟩, id⟩
  simp only [handleUpdateSA]
  split
  · split
    · split
      · exact hchallenge
      split
      · exact h.respond.writes
      · exact hmigrate _ _
    · exact hchallenge
  · exact h.respond.writes

theorem Held.deleteESP (h : Held n natt keyed calm w w1 sa) (P : Primitives) (spi : UInt32) :
    Held n natt keyed calm w (deleteESP P w1 sa spi).1 (deleteESP P w1 sa spi).2 := by
  have hremoved (pair : IP → Xfrm.EspPair) : Held n natt keyed calm w (removeStates w1 sa pair) sa := by
    simp only [removeStates]
    split
    · exact h
    · exact h.setKernel
  simp only [Ikev2.deleteESP]
  split
  · split
    · refine ((hremoved _).store _ ?_).updateSession ?_
      · exact .same rfl rfl rfl ⟨rfl, rfl, rfl, Iff.rfl⟩
      · exact fun _ _ => ⟨rfl, rfl, fun h => ⟨h, rfl⟩, id⟩
    obtain ⟨x, hx⟩ := removeXFRMChildSA_eq P w1 sa
    rw [hx]
    exact h.setKernel
  · split
    · exact (hremoved _).store _ (by exact .same rfl rfl rfl ⟨rfl, rfl, rfl, Iff.rfl⟩)
    · exact h

theorem deleteESPs_writes (h : Held n natt keyed calm w w1 sa) (P : Primitives) (spis : List UInt32) :
    Writes n natt keyed calm w (deleteESPs P w1 sa spis) := by
  induction spis generalizing w1 sa with
  | nil => exact h.writes
  | cons spi rest ih => exact ih (h.deleteESP P spi)

theorem seen_replaces (sa : IkeSA) (now : Time) : Replaces calm sa (sa.seen now) := by
  unfold IkeSA.seen
  split <;> exact .same rfl rfl rfl ⟨rfl, rfl, rfl, Iff.rfl⟩

theorem handleInformationalOn_writes (hk : keyed → Keyed w) (hl : w.lookupSA k = some sa) :
    Writes n sa.natT keyed calm w (handleInformationalOn S w env remote msg hdr sa) := by
  have hnatT : (sa.seen env.now).natT = sa.natT :=
    IkeSA.eq_of_core (seen_core sa env.now) IkeSA.natT fun _ => rfl
  have h : Held n (sa.seen env.now).natT keyed calm w (w.storeSA (sa.seen env.now))
      (sa.seen env.now) := (Held.of_lookup hk hl).store _ (seen_replaces sa env.now)
  rw [← hnatT]
  simp only [handleInformationalOn, informRequest]
  split
  · exact .refl
  split
  · split
    · exact h.writes
    · exact .refl
  split
  · exact .refl
  split
  · exact h.writes
  split
  · exact handleUpdateSA_writes h
  split
  · exact h.respond.writes.teardown _ _ _
  · exact deleteESPs_writes h.respond _ _

theorem handleInformational_writes (hk : keyed → Keyed w) :
    ∃ natt, Writes n natt keyed calm w (handleInformational S w env remote msg hdr) := by
  simp only [handleInformational]
  split
  · exact ⟨false, .refl⟩
  split
  · exact ⟨false, .refl⟩
  · rename_i hl
    exact ⟨_, handleInformationalOn_writes hk hl⟩

theorem halfOpenCheck_writes (natt : Bool) (spiI : UInt64) :
    Writes n natt keyed calm w (halfOpenCheck S w env spiI) := by
  simp only [halfOpenCheck]
  split
  · exact .refl
  split
  · refine .single (.keep (fun k sa hl => ?_) (.of_eq rfl) fun _ => .of_eq settled_fading rfl)
    simp_all
  · exact .refl

end Others
end Epdg
