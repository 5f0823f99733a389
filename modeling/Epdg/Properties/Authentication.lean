import Epdg.System.History
import Epdg.System.Scenario

/-!
What precedes an established SA.

The argument follows the MSK. An SA in state auth has an MSK only from an answer of the
AAA server that was received for it and that granted access; the AUTH value is compared
under that MSK; and only then is the PDN connection requested and the SA established. An
SA that was not established in this way replaced one that was.
-/
namespace Epdg
open Ikev2
variable {ref : Nat} {t t' trace : List Event}

def Granted (S : Server) (trace : List Event) (ref : Nat) (msk : Bytes) : Prop :=
  ∃ sid req avps, .deaReceived ref sid req avps ∈ trace ∧
    (Swm.eapResult S.equalFold req sid avps).state = .success ∧
    ((Swm.eapResult S.equalFold req sid avps).resultCode = 2001 ∨
      (Swm.eapResult S.equalFold req sid avps).resultCode = 2002) ∧
    (∃ key, Diameter.findAVP avps Diameter.avpEAPMasterSessionKey 0 = some key ∧
      key.data = msk) ∧ msk.length = 64

def Authenticated (S : Server) (trace : List Event) (ref : Nat) : Prop :=
  ∃ newer sa auth older, trace = newer ++ .authVerified sa auth :: older ∧ sa.ref = ref ∧
    auth = prf S.prims sa.saKey.prf
      (prf S.prims sa.saKey.prf sa.msk (Bytes.ascii "Key Pad for IKEv2"))
      (sa.initReqRaw ++ sa.nonceR ++ prf S.prims sa.saKey.prf sa.saKey.skPi sa.idiAuthBytes) ∧
    Granted S older ref sa.msk

def Entered (trace : List Event) (ref : Nat) : Prop :=
  .established ref ∈ trace ∨ ∃ old, .ikeRekeyed old ref ∈ trace

def Supported (S : Server) (older : List Event) : Event → Prop
  | .authVerified sa auth => expectedAuth S.prims sa = auth ∧ Granted S older sa.ref sa.msk
  | .established ref | .s2bCreate ref _ => ∃ sa auth, .authVerified sa auth ∈ older ∧ sa.ref = ref
  | .ikeRekeyed old _ => Entered older old
  | _ => True

structure AuthInv (S : Server) (w : World) : Prop where
  base : Base w
  msk : ∀ k sa, w.lookupSA k = some sa → sa.state = .auth → sa.msk ≠ [] →
    Granted S w.trace sa.ref sa.msk
  entered : ∀ k sa, w.lookupSA k = some sa → sa.state = .established →
    Entered w.trace sa.ref
  justified : Machine.Justified (Supported S) w.trace

section
variable {S : Server} {env : Env} {allowed : Triggers} {w w' : World}

theorem Granted.mono {msk : Bytes} (h : Granted S t ref msk) (ht : ∀ e ∈ t, e ∈ t')
    : Granted S t' ref msk := by
  obtain ⟨sid, req, avps, hmem, hrest⟩ := h
  exact ⟨sid, req, avps, ht _ hmem, hrest⟩

theorem Entered.mono (h : Entered t ref) (ht : ∀ e ∈ t, e ∈ t') : Entered t' ref := by
  rcases h with h | ⟨old, h⟩
  · exact .inl (ht _ h)
  · exact .inr ⟨old, ht _ h⟩

theorem supported_of_isPlain {e : Event} (h : e.isPlain = true) (older : List Event) :
    Supported S older e := by
  cases e <;> trivial

theorem granted_of_answer {sid : SWMSessionID} {req : Swm.EAPRequest} {avps : List Diameter.AVP}
    (hmem : .deaReceived ref sid req avps ∈ trace)
    (hne : (Swm.eapResult S.equalFold req sid avps).msk ≠ []) :
    Granted S trace ref (Swm.eapResult S.equalFold req sid avps).msk := by
  obtain ⟨hstate, hcode, hlen, key, hkey, hdata⟩ := Swm.eapResult_msk hne
  simp only [Swm.isSuccessCode, Bool.or_eq_true, decide_eq_true_eq] at hcode
  exact ⟨sid, req, avps, hmem, hstate, hcode, ⟨key, hkey, hdata⟩, hlen⟩

theorem Evolve.granted {sa sa' : IkeSA} (h : Evolve S trace sa sa')
    (ho : sa.state = .auth → sa.msk ≠ [] → Granted S trace sa.ref sa.msk) (hst : sa'.state = .auth)
    (hne : sa'.msk ≠ []) : Granted S trace sa'.ref sa'.msk := by
  have hid := h.sameIdentity
  have hkept (hm : sa'.msk = sa.msk) : Granted S trace sa'.ref sa'.msk := by
    rw [hid.ref, hm]
    exact ho (hid.state ▸ hst) (hm ▸ hne)
  cases h with
  | touch _ hc => exact hkept (IkeSA.eq_of_core hc IkeSA.msk fun _ => rfl)
  | auth _ _ hc => exact hkept (IkeSA.eq_of_authCore hc IkeSA.msk fun _ => rfl)
  | openSession _ _ hc =>
    exact hkept (IkeSA.eq_of_authCore hc IkeSA.msk fun _ => rfl)
  | promote | clear => exact hkept rfl
  | success sid req avps hs hdea => exact granted_of_answer hdea hne

theorem Quiet.authInv (h : Quiet S env allowed w w') (hi : AuthInv S w) : AuthInv S w' where
  base := h.base hi.base
  msk k sa' hl hst hne := by
    obtain ⟨sa, hsa, he⟩ := h.evolve hl
    exact (he.granted (hi.msk k sa hsa) hst hne).mono fun _ => h.trace_suffix
  entered k sa' hl hst := by
    obtain ⟨sa, hsa, he⟩ := h.evolve hl
    rw [he.sameIdentity.ref]
    exact (hi.entered k sa hsa (he.sameIdentity.state ▸ hst)).mono fun _ => h.trace_suffix
  justified := by
    cases h.trace with
    | plain new ht hp =>
      rw [ht]
      exact .append (fun e he older => supported_of_isPlain (hp e he) older) hi.justified
    | verified sa auth hl hs hlen heq ht =>
      rw [ht]
      have hne : sa.msk ≠ [] := by grind
      exact ⟨⟨heq, hi.msk _ sa hl hs hne⟩, hi.justified⟩
    | s2bCreate sa auth req hv ht =>
      rw [ht]
      exact ⟨⟨sa, auth, hv, rfl⟩, hi.justified⟩

theorem Major.authInv {remote : UDPAddr} {msg : Bytes} {hdr : IKEHeader} {w0 : World}
    (h : Major S env remote msg hdr w0 w w') (hi : AuthInv S w) : AuthInv S w' where
  base := h.base hi.base
  msk k sa' hl hst hne := by
    refine Granted.mono ?_ fun _ => h.trace_suffix
    cases h.written hl with
    | kept _ _ hk => exact hi.msk k sa' hk hst hne
    | created => exact (hne rfl).elim
    | swmStarted sa h1 hs => exact hi.msk _ sa h1 hs hne
    | challenged sa c2 h1 | migrated sa h1 hs => exact hi.msk _ sa h1 hst hne
    | established | rekeyed => cases hst
    | pending sa _ _ _ _ _ _ h1 hs | replaced sa h1 hs =>
      have hst' : sa.state = .auth := hst
      simp_all
  entered k sa' hl hst := by
    have hold {k : UInt64} {sa : IkeSA} (h1 : w.lookupSA k = some sa)
        (hs : sa.state = .established) : Entered w'.trace sa.ref :=
      (hi.entered k sa h1 hs).mono fun _ => h.trace_suffix
    cases h.written hl with
    | kept _ _ h1 => exact hold h1 hst
    | created => cases hst
    | swmStarted sa h1 hs | pending sa _ _ _ _ _ _ h1 hs | replaced sa h1 hs
    | challenged sa c2 h1 | migrated sa h1 hs =>
      have hent : Entered w'.trace sa.ref := hold h1 hst
      exact hent
    | established sa spi h1 ht => exact .inl ht
    | rekeyed sa _ _ _ _ _ _ _ _ ht => exact .inr ⟨sa.ref, ht⟩
  justified := by
    cases h.trace with
    | same ht => exact ht ▸ hi.justified
    | established sa auth released installed hv hr hins ht =>
      rw [ht]
      apply Machine.Justified.append
      · intro e he older
        obtain ⟨p, rfl⟩ := hins e he
        trivial
      · refine ⟨⟨sa, auth, List.mem_append_right _ hv, rfl⟩, ?_⟩
        exact .append (fun e he older =>
          supported_of_isPlain (Event.isPlain_of_isRelease (hr e he)) older) hi.justified
    | childRekeyed sa pfs p ht | reinstalled sa p ht =>
      rw [ht]
      exact ⟨trivial, hi.justified⟩
    | ikeRekeyed sa hl hs ht =>
      rw [ht]
      exact ⟨hi.entered _ sa hl hs, hi.justified⟩

theorem AuthInv.initial (S : Server) (secret : Bytes) (now : Time) :
    AuthInv S (World.initial secret now) where
  base := .initial secret now
  msk _ _ hl := by cases hl
  entered _ _ hl := by cases hl
  justified := trivial

theorem Reachable.authInv (h : Reachable S w) : AuthInv S w := by
  apply h.invariant (AuthInv S) (.initial S)
  intro w i hi
  exact (step_shape hi.base.keyed i).invariant (AuthInv S) Quiet.authInv Major.authInv hi

theorem authenticated_of_verified (hj : Machine.Justified (Supported S) trace)
    (hv : ∃ sa auth, .authVerified sa auth ∈ trace ∧ sa.ref = ref) : Authenticated S trace ref := by
  obtain ⟨sa, auth, hmem, href⟩ := hv
  obtain ⟨newer, older, rfl⟩ := List.append_of_mem hmem
  obtain ⟨hauth, hgranted⟩ := hj.of_append
  exact ⟨newer, sa, auth, older, rfl, href, hauth.symm, href ▸ hgranted⟩

/-- An SA is established, and a PDN connection requested for it, only after the AAA server
granted it an MSK and its AUTH value was verified. An SA in state established was established
or replaced another SA, and only an SA that had become established can be replaced. -/
theorem established_only_after_authentication (h : Reachable S w) :
    (∀ newer older ref, w.trace = newer ++ .established ref :: older →
      Authenticated S older ref) ∧
    (∀ newer older ref req, w.trace = newer ++ .s2bCreate ref req :: older →
      Authenticated S older ref) ∧
    (∀ k sa, w.lookupSA k = some sa → sa.state = .established → Entered w.trace sa.ref) ∧
    ∀ newer older old new, w.trace = newer ++ .ikeRekeyed old new :: older →
      Entered older old := by
  have hi := h.authInv
  refine ⟨?_, ?_, hi.entered, ?_⟩
  · intro newer older ref ht
    have hj := (ht ▸ hi.justified).suffix
    exact authenticated_of_verified hj.2 hj.1
  · intro newer older ref req ht
    have hj := (ht ▸ hi.justified).suffix
    exact authenticated_of_verified hj.2 hj.1
  · intro newer older old new ht
    exact (ht ▸ hi.justified).suffix.1

end

section Runs
open Scenario

/-- The attached subscriber is established, and its history says why. -/
theorem established_after_authentication_attached :
    ∃ newer older, (after attached).trace = newer ++ .established 0 :: older ∧
      Authenticated server older 0 := by
  have hmem : .established 0 ∈ (after attached).trace := by decide +kernel
  obtain ⟨newer, older, ht⟩ := List.append_of_mem hmem
  exact ⟨newer, older, ht,
    (established_only_after_authentication (after_reachable attached)).1 newer older 0 ht⟩

end Runs
end Epdg
