import Epdg.Ikev2.Proposal

/-!
What proposal negotiation selects, and how the answer and the SPI relate to the selected proposal.

The selection is the first proposal of the offer for which a supported suite is offered, with the
first such suite. The answer is built from the suite alone and adds the ESN transform without a
look at the offer. The SPI is looked up again by the number of the proposal.
-/
namespace Epdg.Ikev2
open Bytes
variable {id : UInt16} {e : EncrAlg} {p : Proposal} {s : ChildProposal}

def Transform.keyLength (t : Transform) : Option UInt16 :=
  if t.attributePresent ∧ t.attributeType = attributeTypeKeyLength then some t.attributeValue
  else none

inductive TransformType where
  | encr | prf | integ | dh | esn
  deriving DecidableEq, Repr

def Proposal.ofType (p : Proposal) : TransformType → List Transform
  | .encr => p.encryptionAlgorithm
  | .prf => p.pseudorandomFunction
  | .integ => p.integrityAlgorithm
  | .dh => p.diffieHellmanGroup
  | .esn => p.extendedSequenceNumbers

def OffersID (p : Proposal) (type : TransformType) (id : UInt16) : Prop :=
  ∃ t ∈ p.ofType type, t.transformID = id

def OffersEncr (p : Proposal) (e : EncrAlg) : Prop :=
  ∃ t ∈ p.encryptionAlgorithm, t.transformID = e.transformID ∧
    t.keyLength.map UInt16.toNat = some e.keyBits

def OffersInteg (p : Proposal) : Option IntegAlg → Prop
  | none => p.integrityAlgorithm = []
  | some a => OffersID p .integ a.transformID

def OffersIKE (p : Proposal) (s : NegotiatedProposal) : Prop :=
  OffersID p .dh s.dh.transformID ∧ OffersEncr p s.encr ∧ OffersInteg p s.integ ∧
    OffersID p .prf s.prf.transformID

def OffersESP (p : Proposal) (s : ChildProposal) : Prop :=
  OffersEncr p s.encr ∧ OffersInteg p s.integ ∧ ∀ g, s.dh = some g → OffersID p .dh g.transformID

structure Selected {σ : Type} (proto : UInt8) (supported : List σ) (offers : Proposal → σ → Prop)
    (before : List Proposal) (p : Proposal) (s : σ) : Prop where
  passed : ∀ q ∈ before, q.protocolID = proto → ∀ t ∈ supported, ¬ offers q t
  protocol : p.protocolID = proto
  offered : offers p s
  preferred : ∃ higher lower, supported = higher ++ s :: lower ∧ ∀ t ∈ higher, ¬ offers p t

def NoneOffered {σ : Type} (proto : UInt8) (supported : List σ) (offers : Proposal → σ → Prop)
    (sa : SecurityAssociation) : Prop :=
  ∀ p ∈ sa, p.protocolID = proto → ∀ s ∈ supported, ¬ offers p s

section Matching
variable {p : Proposal}

theorem hasTransform_iff {ts : List Transform} :
    hasTransform ts id = true ↔ ∃ t ∈ ts, t.transformID = id := by
  simp only [hasTransform, List.any_eq_true, decide_eq_true_eq]

theorem hasEncr_iff : hasEncr p e.transformID e.keyBits = true ↔ OffersEncr p e := by
  simp only [hasEncr, OffersEncr, List.any_eq_true, Bool.and_eq_true, decide_eq_true_eq]
  refine exists_congr fun t => and_congr_right fun _ => ?_
  constructor
  · rintro ⟨⟨⟨hid, hpresent⟩, htype⟩, hbits⟩
    refine ⟨hid, ?_⟩
    rw [Transform.keyLength, if_pos ⟨hpresent, htype⟩, Option.map_some, hbits]
  · rintro ⟨hid, hbits⟩
    rw [Transform.keyLength] at hbits
    simp_all

theorem integOffered_iff {integ : Option IntegAlg} :
    integOffered p integ = true ↔ OffersInteg p integ := by
  cases integ with
  | none => exact List.isEmpty_iff
  | some a => exact hasTransform_iff

def FirstOffered {σ : Type} (supported : List σ) (offers : σ → Prop) (found : Option σ) : Prop :=
  ∃ test : σ → Bool, (∀ s, test s = true ↔ offers s) ∧ found = supported.find? test

theorem matchIKEProposal_first (p : Proposal) :
    FirstOffered supportedIKEProposals (OffersIKE p) (matchIKEProposal p) := by
  refine ⟨_, fun s => ?_, rfl⟩
  simp only [Bool.and_eq_true, hasEncr_iff, integOffered_iff, hasDH, hasPRF, hasTransform_iff,
    OffersIKE, and_assoc]
  rfl

theorem matchESPProposal_first (p : Proposal) :
    FirstOffered supportedESPProposals (OffersESP p) (matchESPProposal p) := by
  refine ⟨_, fun s => ?_, rfl⟩
  simp only [Bool.and_eq_true, hasEncr_iff, integOffered_iff, OffersESP, and_assoc]
  refine and_congr_right fun _ => and_congr_right fun _ => ?_
  cases s.dh with
  | none => exact iff_of_true rfl fun _ h => nomatch h
  | some g =>
    simp only [hasDH, hasTransform_iff, Option.some.injEq, forall_eq']
    rfl

variable {σ : Type} {supported : List σ} {offers : σ → Prop} {found : Option σ}

theorem FirstOffered.eq_some_iff (h : FirstOffered supported offers found) (s : σ) :
    found = some s ↔ offers s ∧
      ∃ higher lower, supported = higher ++ s :: lower ∧ ∀ t ∈ higher, ¬ offers t := by
  obtain ⟨test, htest, rfl⟩ := h
  rw [List.find?_eq_some_iff_append, htest]
  grind

theorem FirstOffered.eq_none_iff (h : FirstOffered supported offers found) :
    found = none ↔ ∀ s ∈ supported, ¬ offers s := by
  obtain ⟨test, htest, rfl⟩ := h
  simp_all

end Matching

section Selection
variable {σ : Type}

def selectFrom (proto : UInt8) (suite : Proposal → Option σ) (sa : SecurityAssociation) :
    Option (σ × UInt8) :=
  sa.findSome? fun p =>
    if p.protocolID ≠ proto then none else (suite p).map fun s => (s, p.proposalNumber)

theorem selectFrom_cons (proto : UInt8) (suite : Proposal → Option σ) (p : Proposal)
    (sa : SecurityAssociation) :
    selectFrom proto suite (p :: sa) =
      if p.protocolID ≠ proto then selectFrom proto suite sa
      else
        match suite p with
        | some s => some (s, p.proposalNumber)
        | none => selectFrom proto suite sa := by
  simp only [selectFrom, List.findSome?_cons]
  grind

theorem selectIKEProposal_eq (sa : SecurityAssociation) :
    selectIKEProposal sa = selectFrom protoIKE matchIKEProposal sa := by
  induction sa with
  | nil => rfl
  | cons p sa ih =>
    rw [selectIKEProposal, ih, selectFrom_cons]
    grind

theorem selectESPProposal_eq (sa : SecurityAssociation) :
    selectESPProposal sa = selectFrom protoESP matchESPProposal sa := by
  induction sa with
  | nil => rfl
  | cons p sa ih =>
    rw [selectESPProposal, ih, selectFrom_cons]
    grind

variable {proto : UInt8} {supported : List σ} {offers : Proposal → σ → Prop}
  {suite : Proposal → Option σ}

theorem passed_iff (hsuite : FirstOffered supported (offers p) (suite p)) :
    (if p.protocolID ≠ proto then none
        else (suite p).map fun s => (s, p.proposalNumber)) = none ↔
      (p.protocolID = proto → ∀ s ∈ supported, ¬ offers p s) := by
  by_cases hproto : p.protocolID = proto
  · rw [if_neg (fun h => h hproto), Option.map_eq_none_iff, hsuite.eq_none_iff]
    simp_all
  · simp_all

theorem taken_iff (hsuite : FirstOffered supported (offers p) (suite p)) (s : σ) (n : UInt8) :
    (if p.protocolID ≠ proto then none
        else (suite p).map fun s => (s, p.proposalNumber)) = some (s, n) ↔
      p.proposalNumber = n ∧ p.protocolID = proto ∧ offers p s ∧
        ∃ higher lower, supported = higher ++ s :: lower ∧ ∀ t ∈ higher, ¬ offers p t := by
  rw [← hsuite.eq_some_iff]
  by_cases hproto : p.protocolID = proto
  · rw [if_neg (fun h => h hproto), Option.map_eq_some_iff]
    grind
  · simp_all

section
variable (hsuite : ∀ p, FirstOffered supported (offers p) (suite p)) (sa : SecurityAssociation)
include hsuite sa

theorem selectFrom_eq_some_iff (s : σ) (n : UInt8) :
    selectFrom proto suite sa = some (s, n) ↔
      ∃ before p after, sa = before ++ p :: after ∧ p.proposalNumber = n ∧
        Selected proto supported offers before p s := by
  rw [selectFrom, List.findSome?_eq_some_iff]
  refine exists_congr fun before => exists_congr fun p => exists_congr fun after =>
    and_congr_right fun _ => ?_
  rw [taken_iff (hsuite p)]
  simp only [passed_iff (hsuite _)]
  constructor
  · rintro ⟨⟨hn, hproto, hoffers, hpref⟩, hbefore⟩
    exact ⟨hn, hbefore, hproto, hoffers, hpref⟩
  · rintro ⟨hn, hsel⟩
    exact ⟨⟨hn, hsel.protocol, hsel.offered, hsel.preferred⟩, hsel.passed⟩

theorem selectFrom_eq_none_iff :
    selectFrom proto suite sa = none ↔ NoneOffered proto supported offers sa := by
  rw [selectFrom, List.findSome?_eq_none_iff]
  exact forall_congr' fun p => imp_congr_right fun _ => passed_iff (hsuite p)

end

end Selection

theorem selectIKEProposal_iff (sa : SecurityAssociation) (s : NegotiatedProposal) (n : UInt8) :
    selectIKEProposal sa = some (s, n) ↔
      ∃ before p after, sa = before ++ p :: after ∧ p.proposalNumber = n ∧
        Selected protoIKE supportedIKEProposals OffersIKE before p s := by
  rw [selectIKEProposal_eq]
  exact selectFrom_eq_some_iff matchIKEProposal_first sa s n

theorem selectESPProposal_iff (sa : SecurityAssociation) (s : ChildProposal) (n : UInt8) :
    selectESPProposal sa = some (s, n) ↔
      ∃ before p after, sa = before ++ p :: after ∧ p.proposalNumber = n ∧
        Selected protoESP supportedESPProposals OffersESP before p s := by
  rw [selectESPProposal_eq]
  exact selectFrom_eq_some_iff matchESPProposal_first sa s n

/-- Both selections return the first proposal of the offer that has all transforms of a supported
suite, with the most preferred such suite, and fail exactly when there is none. -/
theorem selects_first_offered (sa : SecurityAssociation) :
    (∀ s n, selectIKEProposal sa = some (s, n) ↔
      ∃ before p after, sa = before ++ p :: after ∧ p.proposalNumber = n ∧
        Selected protoIKE supportedIKEProposals OffersIKE before p s) ∧
    (selectIKEProposal sa = none ↔
      NoneOffered protoIKE supportedIKEProposals OffersIKE sa) ∧
    (∀ s n, selectESPProposal sa = some (s, n) ↔
      ∃ before p after, sa = before ++ p :: after ∧ p.proposalNumber = n ∧
        Selected protoESP supportedESPProposals OffersESP before p s) ∧
    (selectESPProposal sa = none ↔
      NoneOffered protoESP supportedESPProposals OffersESP sa) := by
  refine ⟨selectIKEProposal_iff sa, ?_, selectESPProposal_iff sa, ?_⟩
  · rw [selectIKEProposal_eq]
    exact selectFrom_eq_none_iff matchIKEProposal_first sa
  · rw [selectESPProposal_eq]
    exact selectFrom_eq_none_iff matchESPProposal_first sa

def Covers (offer answer : Proposal) : Prop :=
  ∀ type, ∀ t ∈ answer.ofType type, ∃ u ∈ offer.ofType type,
    u.transformID = t.transformID ∧ u.keyLength = t.keyLength

def OffersPlain (p : Proposal) (type : TransformType) (id : UInt16) : Prop :=
  ∃ t ∈ p.ofType type, t.transformID = id ∧ t.keyLength = none

def OffersPlainIf (p : Proposal) (type : TransformType) (id : Option UInt16) : Prop :=
  ∀ i, id = some i → OffersPlain p type i

section Answer
variable {p : Proposal}

theorem keyLength_encrTransform (e : EncrAlg) :
    (encrTransform e).keyLength = some e.keyBits.toUInt16 := rfl

theorem OffersEncr.covers (h : OffersEncr p e) :
    ∃ u ∈ p.encryptionAlgorithm, u.transformID = (encrTransform e).transformID ∧
      u.keyLength = (encrTransform e).keyLength := by
  obtain ⟨t, ht, hid, hbits⟩ := h
  refine ⟨t, ht, hid, ?_⟩
  obtain ⟨bits, hlen, hnat⟩ := Option.map_eq_some_iff.mp hbits
  rw [hlen, keyLength_encrTransform, ← hnat]
  simp

theorem offersPlainIf_some {type : TransformType} :
    OffersPlainIf p type (some id) ↔ OffersPlain p type id :=
  ⟨fun h => h id rfl, fun h i hi => by cases hi; exact h⟩

variable (p) in
theorem covers_plain_iff {α : Type} (type : TransformType) (id : α → UInt16) (alg : Option α) :
    (∀ t ∈ (alg.map fun a => ({ transformID := id a } : Transform)).toList,
        ∃ u ∈ p.ofType type, u.transformID = t.transformID ∧ u.keyLength = t.keyLength) ↔
      OffersPlainIf p type (alg.map id) := by
  cases alg with
  | none => exact iff_of_true (fun _ h => nomatch h) fun _ h => nomatch h
  | some a =>
    rw [Option.map_some, Option.map_some, Option.toList_some, List.forall_mem_singleton,
      offersPlainIf_some]
    rfl

theorem covers_ike_iff {s : NegotiatedProposal} (h : OffersIKE p s) (n : UInt8) (spi : Bytes) :
    Covers p (buildIKESAPayload s n spi) ↔
      OffersPlain p .dh s.dh.transformID ∧ OffersPlain p .prf s.prf.transformID ∧
        OffersPlainIf p .integ (s.integ.map IntegAlg.transformID) := by
  have hdh := covers_plain_iff p .dh DhGroup.transformID (some s.dh)
  have hprf := covers_plain_iff p .prf PrfAlg.transformID (some s.prf)
  have hinteg := covers_plain_iff p .integ IntegAlg.transformID s.integ
  rw [← offersPlainIf_some, ← offersPlainIf_some]
  constructor
  · intro hc
    exact ⟨hdh.mp (hc .dh), hprf.mp (hc .prf), hinteg.mp (hc .integ)⟩
  · rintro ⟨hd, hp, hi⟩ type
    cases type with
    | encr => exact (List.forall_mem_singleton).mpr h.2.1.covers
    | prf => exact hprf.mpr hp
    | integ => exact hinteg.mpr hi
    | dh => exact hdh.mpr hd
    | esn => exact fun _ ht => nomatch ht

theorem covers_esp_iff (h : OffersESP p s) (n : UInt8) (localSPI : UInt32) :
    Covers p (buildESPSAResponse s n localSPI) ↔
      OffersPlainIf p .integ (s.integ.map IntegAlg.transformID) ∧
        OffersPlainIf p .dh (s.dh.map DhGroup.transformID) ∧ OffersPlain p .esn esnDisable := by
  have hinteg := covers_plain_iff p .integ IntegAlg.transformID s.integ
  have hdh := covers_plain_iff p .dh DhGroup.transformID s.dh
  have hesn := covers_plain_iff p .esn (fun id : UInt16 => id) (some esnDisable)
  rw [← offersPlainIf_some]
  constructor
  · intro hc
    exact ⟨hinteg.mp (hc .integ), hdh.mp (hc .dh), hesn.mp (hc .esn)⟩
  · rintro ⟨hi, hd, he⟩ type
    cases type with
    | encr => exact (List.forall_mem_singleton).mpr h.1.covers
    | prf => exact fun _ ht => nomatch ht
    | integ => exact hinteg.mpr hi
    | dh => exact hdh.mpr hd
    | esn => exact hesn.mpr he

end Answer

/-- The transforms of the answer are in the selected proposal exactly when its algorithms other than
the cipher are offered without a key length and, for ESP, ESN can be disabled. -/
theorem answer_offered_iff (sa : SecurityAssociation) :
    (∀ s n, selectIKEProposal sa = some (s, n) →
      ∃ before p after, sa = before ++ p :: after ∧ p.proposalNumber = n ∧
        Selected protoIKE supportedIKEProposals OffersIKE before p s ∧
        ∀ spi, Covers p (buildIKESAPayload s n spi) ↔
          OffersPlain p .dh s.dh.transformID ∧ OffersPlain p .prf s.prf.transformID ∧
            OffersPlainIf p .integ (s.integ.map IntegAlg.transformID)) ∧
    ∀ s n, selectESPProposal sa = some (s, n) →
      ∃ before p after, sa = before ++ p :: after ∧ p.proposalNumber = n ∧
        Selected protoESP supportedESPProposals OffersESP before p s ∧
        ∀ localSPI, Covers p (buildESPSAResponse s n localSPI) ↔
          OffersPlainIf p .integ (s.integ.map IntegAlg.transformID) ∧
            OffersPlainIf p .dh (s.dh.map DhGroup.transformID) ∧ OffersPlain p .esn esnDisable := by
  constructor
  · intro s n h
    obtain ⟨before, p, after, hsa, hn, hsel⟩ := (selectIKEProposal_iff sa s n).mp h
    exact ⟨before, p, after, hsa, hn, hsel, covers_ike_iff hsel.offered n⟩
  · intro s n h
    obtain ⟨before, p, after, hsa, hn, hsel⟩ := (selectESPProposal_iff sa s n).mp h
    exact ⟨before, p, after, hsa, hn, hsel, covers_esp_iff hsel.offered n⟩

section Answers

def offerWithESN (esn : UInt16) : SecurityAssociation :=
  [{ proposalNumber := 1, protocolID := protoESP, spi := putUint32 0x51
     encryptionAlgorithm := [encrTransform .aesGcm16_256]
     extendedSequenceNumbers := [{ transformID := esn }] }]

/-- ESN is offered as the answer has it. -/
theorem disabled_esn_offered :
    selectESPProposal (offerWithESN 0) = some (⟨.aesGcm16_256, none, none⟩, 1) ∧
      ∀ p ∈ offerWithESN 0,
        Covers p (buildESPSAResponse ⟨.aesGcm16_256, none, none⟩ 1 0x1001) := by
  have hsel : selectESPProposal (offerWithESN 0) = some (⟨.aesGcm16_256, none, none⟩, 1) := by
    decide
  obtain ⟨before, p, after, hsa, -, -, hiff⟩ := (answer_offered_iff (offerWithESN 0)).2 _ _ hsel
  refine ⟨hsel, fun q hq => ?_⟩
  have hp : p = q := by
    have hmem : p ∈ offerWithESN 0 := by
      rw [hsa]
      exact List.mem_append_right _ List.mem_cons_self
    rw [List.mem_singleton.mp hmem, List.mem_singleton.mp hq]
  subst hp
  refine (hiff 0x1001).mpr ⟨fun _ h => (nomatch h), fun _ h => (nomatch h), ?_⟩
  rw [List.mem_singleton.mp hq]
  exact ⟨{ transformID := 0 }, List.mem_cons_self, rfl, rfl⟩

/-- The UE asks for extended sequence numbers only, and the answer disables them. -/
theorem esn_not_offered :
    selectESPProposal (offerWithESN 1) = some (⟨.aesGcm16_256, none, none⟩, 1) ∧
      ∀ p ∈ offerWithESN 1,
        ¬ Covers p (buildESPSAResponse ⟨.aesGcm16_256, none, none⟩ 1 0x1001) := by
  refine ⟨by decide, fun p hp hcovers => ?_⟩
  obtain ⟨u, hu, hid, -⟩ := hcovers .esn { transformID := esnDisable } List.mem_cons_self
  rw [List.mem_singleton.mp hp] at hu
  rw [List.mem_singleton.mp hu] at hid
  exact absurd hid (by decide)

end Answers

section SPI

def carriesSPI (n : UInt8) (p : Proposal) : Bool := p.proposalNumber = n && p.spi.length = 4

theorem selectAndExtractESP_eq_some {sa : SecurityAssociation} {n : UInt8} {spi : UInt32}
    (h : selectAndExtractESP sa = some (s, n, spi)) : selectESPProposal sa = some (s, n) ∧
      spi = ((sa.find? (carriesSPI n)).map fun p => be32 p.spi).getD 0 := by
  unfold selectAndExtractESP at h
  split at h
  · cases h
  rename_i prop propNum hsel
  split at h
  · rename_i q hq
    cases h
    exact ⟨hsel, by rw [show sa.find? (carriesSPI n) = some q from hq]; rfl⟩
  · rename_i hq
    cases h
    exact ⟨hsel, by rw [show sa.find? (carriesSPI n) = none from hq]; rfl⟩

/-- The SPI that is returned is that of the selected proposal exactly when this one has a SPI of
four bytes and the first proposal before it with its number and such a SPI, if there is one, has
the same. -/
theorem extracted_spi_iff {sa : SecurityAssociation} {s : ChildProposal} {n : UInt8} {spi : UInt32}
    (h : selectAndExtractESP sa = some (s, n, spi)) :
    ∃ before p after, sa = before ++ p :: after ∧ p.proposalNumber = n ∧
      Selected protoESP supportedESPProposals OffersESP before p s ∧
      (p.spi.length = 4 ∧ spi = be32 p.spi ↔
        p.spi.length = 4 ∧ ∀ q, before.find? (carriesSPI n) = some q → q.spi = p.spi) := by
  obtain ⟨hsel, rfl⟩ := selectAndExtractESP_eq_some h
  obtain ⟨before, p, after, rfl, hn, hsel⟩ := (selectESPProposal_iff sa s n).mp hsel
  refine ⟨before, p, after, rfl, hn, hsel, and_congr_right fun hlen => ?_⟩
  have hp : carriesSPI n p = true := by simp [carriesSPI, hn, hlen]
  rw [List.find?_append]
  cases hq : before.find? (carriesSPI n) with
  | none => simp [hp]
  | some q =>
    have hqlen : q.spi.length = 4 := by
      have hcarries := List.find?_some hq
      simp only [carriesSPI, Bool.and_eq_true, decide_eq_true_eq] at hcarries
      exact hcarries.2
    simp only [Option.some_or, Option.map_some, Option.getD_some, Option.some.injEq, forall_eq']
    exact ⟨be32_injective hqlen hlen, fun heq => by rw [heq]⟩

def offerAfter (proto number : UInt8) : SecurityAssociation :=
  [{ proposalNumber := number, protocolID := proto, spi := putUint32 0x99 },
   { proposalNumber := 1, protocolID := protoESP, spi := putUint32 0x51
     encryptionAlgorithm := [encrTransform .aesGcm16_256] }]

/-- A proposal with another number does not matter. -/
theorem numbered_spi_extracted :
    selectAndExtractESP (offerAfter 2 7) = some (⟨.aesGcm16_256, none, none⟩, 1, 0x51) ∧
      ∃ p ∈ offerAfter 2 7, p.spi.length = 4 ∧ (0x51 : UInt32) = be32 p.spi := by
  have hsel : selectAndExtractESP (offerAfter 2 7) =
      some (⟨.aesGcm16_256, none, none⟩, 1, 0x51) := by decide
  obtain ⟨before, p, after, hsa, hn, hp, hiff⟩ := extracted_spi_iff hsel
  have hmem : p ∈ offerAfter 2 7 := by
    rw [hsa]
    exact List.mem_append_right _ List.mem_cons_self
  -- both the selected proposal and any that carries number 1 are the second one
  have hesp : ∀ q ∈ offerAfter 2 7, q.protocolID = protoESP ∨ carriesSPI 1 q = true →
      q.spi = putUint32 0x51 := by decide
  have hspi := hesp p hmem (.inl hp.protocol)
  refine ⟨hsel, p, hmem, hiff.mpr ⟨by rw [hspi]; rfl, fun q hq => ?_⟩⟩
  have hq' : q ∈ offerAfter 2 7 := by
    rw [hsa]
    exact List.mem_append_left _ (List.mem_of_find?_eq_some hq)
  rw [hspi, hesp q hq' (.inr (List.find?_some hq))]

/-- An AH proposal has the number of the ESP proposal that is selected: its SPI is returned, which
is that of no ESP proposal. -/
theorem other_spi_extracted :
    selectAndExtractESP (offerAfter 2 1) = some (⟨.aesGcm16_256, none, none⟩, 1, 0x99) ∧
      ∀ p ∈ offerAfter 2 1, p.protocolID = protoESP →
        ¬ (p.spi.length = 4 ∧ (0x99 : UInt32) = be32 p.spi) := by
  decide

end SPI

end Epdg.Ikev2
