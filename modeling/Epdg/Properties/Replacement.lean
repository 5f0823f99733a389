import Epdg.System.Invariants
import Epdg.System.Scenario

/-!
When an entry of the SA table is replaced.

The table is keyed by the initiator SPI alone, which the peer chooses, and `storeSA`
overwrites. IKE_SA_INIT looks at the entry it is about to overwrite only to recognise a
retransmission; an IKE SA rekey does not look at all.
-/
namespace Epdg
open Ikev2
variable {env : Env}

section
variable {S : Server} {w : World}

theorem lookupSA_handleIKESAInit (S : Server) (w : World) (env : Env) (remote : UDPAddr)
    (pkt : Bytes) (hdr : IKEHeader) (natt : Bool) (k : UInt64) :
    (handleIKESAInit S w env remote pkt hdr natt).lookupSA k = w.lookupSA k ∨
      InitAccepted S w env remote pkt hdr ∧ k = hdr.initiatorSPI := by
  have hcase := handleIKESAInit_cases S w env remote pkt hdr natt
  generalize handleIKESAInit S w env remote pkt hdr natt = out at hcase
  cases hcase with
  | silent => exact .inl rfl
  | answered => exact .inl rfl
  | dropped => exact .inl (by simp)
  | refused => exact .inl (by simp)
  | accepted req sa ke prop propNum nonceI nonceR priv shared spiR resp hp =>
    by_cases hk : k = hdr.initiatorSPI
    · exact .inr ⟨⟨req, sa, ke, prop, propNum, nonceI, nonceR, priv, shared, spiR, resp, hp⟩,
        hk⟩
    refine .inl ?_
    have hne : k ≠ (initSA S (touchCookies S w env) env remote pkt hdr natt req prop nonceI
        nonceR shared spiR resp).spiI := hk
    simp [hne]

theorem Ikev2.InitAccepted.lookupSA {remote : UDPAddr} {pkt : Bytes} {hdr : IKEHeader}
    (h : InitAccepted S w env remote pkt hdr) (natt : Bool) :
    ∃ sa, (handleIKESAInit S w env remote pkt hdr natt).lookupSA hdr.initiatorSPI = some sa ∧
      sa.ref = w.nextRef := by
  obtain ⟨req, sa, ke, prop, propNum, nonceI, nonceR, priv, shared, spiR, resp, hp⟩ := h
  rw [handleIKESAInit_of_passes hp]
  refine ⟨_, lookupSA_stored _ _, ?_⟩
  simp [initSA]

theorem lookupSA_handleIKESARekey (S : Server) (w : World) (env : Env) (remote : UDPAddr)
    (sa : IkeSA) (hdr : IKEHeader) (offer : SecurityAssociation) (nonceI : Bytes)
    (ke : Option KeyExchange) {k : UInt64} (hk : k ≠ sa.spiI) :
    (handleIKESARekey S w env remote sa hdr offer nonceI ke).lookupSA k = w.lookupSA k ∨
      IkeRekeyAccepted S env offer ke k := by
  have hcase := handleIKESARekey_cases S w env remote sa hdr offer nonceI ke
  generalize handleIKESARekey S w env remote sa hdr offer nonceI ke = out at hcase
  cases hcase with
  | dropped => exact .inl rfl
  | refused => exact .inl (lookupSA_respond _ _ _ _ _ _)
  | accepted prop propNum nonceR priv shared newSPII newSPIR out hp =>
    by_cases hn : k = newSPII
    · subst hn
      exact .inr ⟨prop, propNum, nonceR, priv, shared, newSPIR, hp⟩
    refine .inl ?_
    have hne : k ≠ (rekeyedSA S.prims w env sa prop shared nonceI nonceR newSPII
        newSPIR).spiI := hn
    simp_all

theorem Ikev2.IkeRekeyAccepted.lookupSA {offer : SecurityAssociation} {ke : Option KeyExchange}
    {newSPII : UInt64} (h : IkeRekeyAccepted S env offer ke newSPII) (w : World) (remote : UDPAddr)
    (sa : IkeSA) (hdr : IKEHeader) (nonceI : Bytes) :
    ∃ new, (handleIKESARekey S w env remote sa hdr offer nonceI ke).lookupSA newSPII =
      some new ∧ new.ref = w.nextRef := by
  obtain ⟨prop, propNum, nonceR, priv, shared, newSPIR, hp⟩ := h
  obtain ⟨out, he⟩ := handleIKESARekey_of_passes w remote sa hdr nonceI hp
  have hnew : newSPII = (rekeyedSA S.prims w env sa prop shared nonceI nonceR newSPII
      newSPIR).spiI := rfl
  rw [he, lookupSA_ikeRekeyStore, if_pos hnew]
  exact ⟨_, rfl, rfl⟩

/-- Established SAs survive an IKE_SA_INIT request, and other SAs an IKE SA rekey, exactly
when the request is not accepted for a key that is taken: by an established SA in the first
case, by any other SA in the second. -/
theorem sa_entries_kept_iff (h : Reachable S w) (env : Env) (remote : UDPAddr) (pkt : Bytes)
    (hdr : IKEHeader) (natt : Bool) (sa : IkeSA) (offer : SecurityAssociation)
    (nonceI : Bytes) (ke : Option KeyExchange) :
    ((∀ k old, w.lookupSA k = some old → old.state = .established →
        (handleIKESAInit S w env remote pkt hdr natt).lookupSA k = some old) ↔
      ¬ (InitAccepted S w env remote pkt hdr ∧
        ∃ old, w.lookupSA hdr.initiatorSPI = some old ∧ old.state = .established)) ∧
    ((∀ k old, k ≠ sa.spiI → w.lookupSA k = some old →
        (handleIKESARekey S (w.storeSA (sa.refreshed env.now)) env remote
          (sa.refreshed env.now) hdr offer nonceI ke).lookupSA k = some old) ↔
      ¬ ∃ newSPII, IkeRekeyAccepted S env offer ke newSPII ∧ newSPII ≠ sa.spiI ∧
        (w.lookupSA newSPII).isSome) := by
  have hrefs := h.base.refs
  refine ⟨⟨fun hkeep hbad => ?_, fun hok k old hold hst => ?_⟩,
    ⟨fun hkeep hbad => ?_, fun hok k old hk hold => ?_⟩⟩
  · obtain ⟨hacc, old, hold, hst⟩ := hbad
    obtain ⟨new, hnew, href⟩ := hacc.lookupSA natt
    rw [hkeep _ old hold hst] at hnew
    cases hnew
    have := hrefs _ _ hold
    omega
  · rcases lookupSA_handleIKESAInit S w env remote pkt hdr natt k with hsame | ⟨hacc, rfl⟩
    · rw [hsame, hold]
    · exact (hok ⟨hacc, old, hold, hst⟩).elim
  · obtain ⟨newSPII, hacc, hne, hsome⟩ := hbad
    obtain ⟨old, hold⟩ := Option.isSome_iff_exists.mp hsome
    obtain ⟨new, hnew, href⟩ := hacc.lookupSA (w.storeSA (sa.refreshed env.now)) remote
      (sa.refreshed env.now) hdr nonceI
    rw [hkeep _ old hne hold] at hnew
    cases hnew
    have hlt := hrefs _ _ hold
    simp only [World.storeSA_nextRef] at href
    omega
  · rcases lookupSA_handleIKESARekey S (w.storeSA (sa.refreshed env.now)) env remote
      (sa.refreshed env.now) hdr offer nonceI ke hk with hsame | hacc
    · have hk' : k ≠ (sa.refreshed env.now).spiI := hk
      rw [hsame, World.lookupSA_storeSA, if_neg hk', hold]
    · exact (hok ⟨k, hacc, hk, by simp [hold]⟩).elim

end

section Runs
open Scenario

/-- With one subscriber attached, a request under another SPI and a rekey to a free SPI
leave every other entry alone. -/
theorem sa_entries_kept_attached :
    (∀ k old, (after attached).lookupSA k = some old → old.state = .established →
      (handleIKESAInit server (after attached) draws ueMoved (initMessage 0x12)
        (initHeader 0x12) false).lookupSA k = some old) ∧
    ∀ k old, k ≠ attachedSA.spiI → (after attached).lookupSA k = some old →
      (handleIKESARekey server ((after attached).storeSA (attachedSA.refreshed 9)) draws
        ueMoved (attachedSA.refreshed 9) (initHeader 0x12) (offerIKE (Bytes.putUint64 0x13)) (nonceOf 6)
        (some (keOf 6))).lookupSA k = some old := by
  have h := sa_entries_kept_iff (after_reachable attached) draws ueMoved (initMessage 0x12)
    (initHeader 0x12) false attachedSA (offerIKE (Bytes.putUint64 0x13)) (nonceOf 6)
    (some (keOf 6))
  refine ⟨h.1.mpr ?_, h.2.mpr ?_⟩
  · rintro ⟨-, old, hold, -⟩
    have hnone : (after attached).lookupSA 0x12 = none := by decide +kernel
    rw [show (initHeader 0x12).initiatorSPI = 0x12 from rfl, hnone] at hold
    cases hold
  · rintro ⟨newSPII, ⟨prop, propNum, nonceR, priv, shared, newSPIR, hp⟩, -, hsome⟩
    have hsel : selectIKEProposal (offerIKE (Bytes.putUint64 0x13)) =
        some (⟨.ecp256, .aesGcm16_256, none, .sha256⟩, 1) := by decide +kernel
    have hnum : propNum = 1 := by
      have := hp.proposal.symm.trans hsel
      simp only [Option.some.injEq, Prod.mk.injEq] at this
      exact this.2
    have hspi : newSPII = 0x13 := by
      rw [← hp.spi.1, hnum]
      decide +kernel
    have hnone : (after attached).lookupSA 0x13 = none := by decide +kernel
    rw [hspi, hnone] at hsome
    cases hsome

/-- An IKE_SA_INIT request with the SPI_I of an attached subscriber, sent from anywhere,
takes the place of the subscriber's SA; a rekey to the SPI_I of another subscriber takes
the place of that one. -/
theorem sa_entries_replaced :
    ¬ (∀ k old, (after attached).lookupSA k = some old → old.state = .established →
      (handleIKESAInit server (after attached) draws ueMoved (initMessage 0x11)
        (initHeader 0x11) false).lookupSA k = some old) ∧
    ¬ ∀ k old, k ≠ otherSA.spiI → (after bothAttached).lookupSA k = some old →
      (handleIKESARekey server ((after bothAttached).storeSA (otherSA.refreshed 9)) draws ue
        (otherSA.refreshed 9) (initHeader 0x12) (offerIKE (Bytes.putUint64 0x11))
        (nonceOf 6) (some (keOf 6))).lookupSA k = some old := by
  refine ⟨fun h => ?_, fun h => ?_⟩
  · have hst : ((handleIKESAInit server (after attached) draws ueMoved (initMessage 0x11)
        (initHeader 0x11) false).lookupSA 0x11).map IkeSA.state = some .auth := by
      decide +kernel
    rw [h 0x11 attachedSA lookupSA_attached (by decide +kernel)] at hst
    exact absurd hst (by decide +kernel)
  · have href : ((handleIKESARekey server ((after bothAttached).storeSA (otherSA.refreshed 9))
        draws ue (otherSA.refreshed 9) (initHeader 0x12) (offerIKE (Bytes.putUint64 0x11))
        (nonceOf 6) (some (keOf 6))).lookupSA 0x11).map IkeSA.ref = some 2 := by
      decide +kernel
    have hold : ((after bothAttached).lookupSA 0x11).map IkeSA.ref = some 0 := by
      decide +kernel
    obtain ⟨old, hl, hr⟩ := Option.map_eq_some_iff.mp hold
    rw [h 0x11 old (by decide +kernel) hl] at href
    simp [hr] at href

end Runs
end Epdg
