import Epdg.Properties.PcoCodec
import Epdg.Properties.SessionResponse
import Epdg.System.Scenario

/-!
What of the protocol configuration options of the PGW reaches the UE.

The response may carry PCO and APCO. `handleAuthFinal` takes the APCO when it is there, and the PCO
otherwise: what only the PCO holds is lost when there is an APCO.
-/
namespace Epdg.Ikev2
open S2b

inductive AddressKind where
  | dnsV4 | dnsV6 | pcscfV4 | pcscfV6
  deriving DecidableEq, Repr

namespace AddressKind

def attrType : AddressKind → UInt16
  | dnsV4 => internalIP4DNS
  | dnsV6 => internalIP6DNS
  | pcscfV4 => internalIP4PCSCF
  | pcscfV6 => internalIP6PCSCF

def requested (cfg : PCOConfig) : AddressKind → Bool
  | dnsV4 => cfg.requestDNSv4
  | dnsV6 => cfg.requestDNSv6
  | pcscfV4 => cfg.requestPCSCFv4
  | pcscfV6 => cfg.requestPCSCFv6

def inOptions (d : Pco.Decoded) : AddressKind → List IP
  | dnsV4 => d.dnsV4
  | dnsV6 => d.dnsV6
  | pcscfV4 => d.pcscfV4
  | pcscfV6 => d.pcscfV6

end AddressKind

def FoundIn (ies : List Ie) (type : UInt8) (k : AddressKind) (a : IP) : Prop :=
  ∃ raw d, findIE ies type 0 = some raw ∧ Pco.decode raw.payload false = some (some d) ∧
    a ∈ k.inOptions d

def HasOptions (ies : List Ie) (type : UInt8) : Prop :=
  ∃ raw, findIE ies type 0 = some raw ∧ raw.payload ≠ []

def Delivered (S : Server) (sa : IkeSA) (r : CreateSessionResult) (k : AddressKind) (a : IP) :
    Prop :=
  ∃ attributes, OutPayload.cp attributes ∈ finalPayloads S sa r ∧ (k.attrType, a) ∈ attributes

section Parsing
variable {cfg : S2b.Config} {ies : List Ie} {type : UInt8} {x : Option PcoDecoded}

theorem parsePCOIE_absent (h : parsePCOIE cfg ies type = some x) (hno : ¬HasOptions ies type) :
    x = none := by
  rw [parsePCOIE] at h
  split at h
  · simp_all
  split at h
  · simp_all
  rename_i raw hraw
  have hempty : raw.payload = [] := Decidable.byContradiction fun hne => hno ⟨raw, hraw, hne⟩
  rw [hempty] at h
  exact (Option.some.inj h).symm

theorem parsePCOIE_present (henabled : cfg.pcoEnabled = true) (h : parsePCOIE cfg ies type = some x)
    (hhas : HasOptions ies type) :
    ∃ d, x = some (addressesOf d) ∧
      ((∀ a ∈ d.dnsV4, a.isV4 = true) ∧ ∀ a ∈ d.pcscfV4, a.isV4 = true) ∧
      ∀ k a, FoundIn ies type k a ↔ a ∈ AddressKind.inOptions d k := by
  obtain ⟨raw, hraw, hne⟩ := hhas
  obtain ⟨first, rest, hpayload⟩ := List.exists_cons_of_ne_nil hne
  obtain ⟨d, hd⟩ := Pco.decode_lenient first rest
  rw [← hpayload] at hd
  have hdecoded : ∀ y, Pco.decode raw.payload cfg.pcoStrictDecode = some y → y = some d := by
    intro y hy
    cases hstrict : cfg.pcoStrictDecode with
    | false => simp_all
    | true =>
      rw [hstrict, Pco.decode_strict, hd, Option.filter_eq_some_iff] at hy
      simp_all
  refine ⟨d, ?_, Pco.decode_isV4 hd, fun k a => ?_⟩
  · rw [parsePCOIE, if_neg (by simp [henabled]), hraw] at h
    grind
  · constructor
    · rintro ⟨raw', d', hraw', hd', hmem⟩
      simp_all
    · exact fun hmem => ⟨raw, d, hraw, hd, hmem⟩

end Parsing

section Reply
variable {cfg : PCOConfig} {r : CreateSessionResult} {k : AddressKind} {a : IP}

theorem mem_pick {on : Bool} {t t' : UInt16} {ips : List IP} :
    (t, a) ∈ (if on = true then ips.map (t', ·) else []) ↔ on = true ∧ t = t' ∧ a ∈ ips := by
  grind

theorem mem_cfgReply {d : Pco.Decoded} (h : r.responseAPCO.or r.responsePCO = some (addressesOf d))
    (hv4 : (∀ a ∈ d.dnsV4, a.isV4 = true) ∧ ∀ a ∈ d.pcscfV4, a.isV4 = true) :
    (k.attrType, a) ∈ cfgReply cfg r ↔ k.requested cfg = true ∧ a ∈ k.inOptions d := by
  have hdns : d.dnsV4.filter IP.isV4 = d.dnsV4 := List.filter_eq_self.mpr hv4.1
  have hpcscf : d.pcscfV4.filter IP.isV4 = d.pcscfV4 := List.filter_eq_self.mpr hv4.2
  simp only [cfgReply, h, addressesOf, hdns, hpcscf, List.mem_cons, List.mem_append, mem_pick]
  cases k <;> simp +decide [AddressKind.attrType, AddressKind.requested, AddressKind.inOptions]

theorem not_mem_cfgReply (h : r.responseAPCO.or r.responsePCO = none) :
    (k.attrType, a) ∉ cfgReply cfg r := by
  simp only [cfgReply, h, List.mem_cons, List.not_mem_nil, or_false]
  cases k <;> simp +decide [AddressKind.attrType]

theorem delivered_iff {S : Server} {sa : IkeSA} (hwants : sa.cpWantsIP = true) :
    Delivered S sa r k a ↔ (k.attrType, a) ∈ cfgReply S.cfg.pco r := by
  constructor
  · rintro ⟨attributes, hmem, ha⟩
    have heq : attributes = cfgReply S.cfg.pco r := by
      simpa [finalPayloads, hwants] using hmem
    rwa [heq] at ha
  · intro ha
    refine ⟨_, ?_, ha⟩
    simp [finalPayloads, hwants]

end Reply

theorem FoundIn.hasOptions {ies : List Ie} {type : UInt8} {k : AddressKind} {a : IP}
    (h : FoundIn ies type k a) : HasOptions ies type := by
  obtain ⟨raw, d, hraw, hd, -⟩ := h
  refine ⟨raw, hraw, fun hempty => ?_⟩
  rw [hempty] at hd
  cases hd

section Response
variable {S : Server} {sa : IkeSA} {cfg : S2b.Config} {resp : S2b.Message}
  {localControl localUser : UInt32} {r : CreateSessionResult} {ies : List Ie}

theorem delivered_from (henabled : cfg.pcoEnabled = true) (hwants : sa.cpWantsIP = true)
    (h : parseCreateSessionResponse cfg resp localControl localUser = some r)
    (hies : decodeIEs resp.payload = some ies) (k : AddressKind) (a : IP) :
    Delivered S sa r k a ↔ k.requested S.cfg.pco = true ∧
      (FoundIn ies ieAPCO k a ∨ ¬HasOptions ies ieAPCO ∧ FoundIn ies iePCO k a) := by
  have haccepted := parseCreateSessionResponse_accepted h hies
  rw [delivered_iff hwants]
  by_cases hA : HasOptions ies ieAPCO
  · obtain ⟨d, hd, hv4, hfound⟩ := parsePCOIE_present henabled haccepted.apco hA
    rw [mem_cfgReply (by rw [hd, Option.some_or]) hv4, ← hfound]
    simp [hA]
  have hnoA : ¬FoundIn ies ieAPCO k a := fun hf => hA hf.hasOptions
  have hnone : r.responseAPCO = none := parsePCOIE_absent haccepted.apco hA
  by_cases hP : HasOptions ies iePCO
  · obtain ⟨d, hd, hv4, hfound⟩ := parsePCOIE_present henabled haccepted.pco hP
    rw [mem_cfgReply (by rw [hnone, hd, Option.none_or]) hv4, ← hfound]
    simp [hA, hnoA]
  · have hnoP : ¬FoundIn ies iePCO k a := fun hf => hP hf.hasOptions
    refine iff_of_false (not_mem_cfgReply ?_) (by simp [hnoA, hnoP])
    rw [hnone, Option.none_or, parsePCOIE_absent haccepted.pco hP]

/-- Every address for which the flag is set reaches the UE exactly when an APCO, where there is
one, has all that the PCO has; and none for which the flag is not set. -/
theorem options_delivered_iff (henabled : cfg.pcoEnabled = true) (hwants : sa.cpWantsIP = true)
    (h : parseCreateSessionResponse cfg resp localControl localUser = some r)
    (hies : decodeIEs resp.payload = some ies) :
    ((∀ k a, k.requested S.cfg.pco = true → FoundIn ies iePCO k a ∨ FoundIn ies ieAPCO k a →
        Delivered S sa r k a) ↔
      (HasOptions ies ieAPCO → ∀ k a, k.requested S.cfg.pco = true → FoundIn ies iePCO k a →
        FoundIn ies ieAPCO k a)) ∧
    ∀ k a, Delivered S sa r k a → k.requested S.cfg.pco = true := by
  have hfrom := fun k a => delivered_from (S := S) henabled hwants h hies k a
  refine ⟨⟨fun hall hA k a hreq hP => ?_, fun hsub k a hreq hfound => ?_⟩,
    fun k a hd => ((hfrom k a).mp hd).1⟩
  · obtain hfound | ⟨hno, -⟩ := ((hfrom k a).mp (hall k a hreq (.inl hP))).2
    · exact hfound
    · exact absurd hA hno
  · refine (hfrom k a).mpr ⟨hreq, ?_⟩
    obtain hP | hA := hfound
    · by_cases hhas : HasOptions ies ieAPCO
      · exact .inl (hsub hhas k a hreq hP)
      · exact .inr ⟨hhas, hP⟩
    · exact .inl hA

end Response

section Runs

def optionServer : Server :=
  { Scenario.server with
    cfg := { Scenario.server.cfg with pco := { requestDNSv4 := true, requestPCSCFv4 := true } } }

def optionClient : S2b.Config := { pgwGTPC := .v4 0xc0000209, pcoEnabled := true }

def askingSA : IkeSA where
  ref := 0
  spiI := 0x11
  spiR := 0x12
  remoteAddr := ⟨.v4 0xcb007101, 500⟩
  natT := false
  nonceI := []
  nonceR := []
  saKey := { dh := .modp2048, encr := .aesCbc128, integ := some .sha256_128, prf := .sha256 }
  state := .auth
  createdAt := 0
  lastSeen := 0
  cpWantsIP := true

def dnsOptions : Bytes := [0x80, 0x00, 0x0d, 4, 8, 8, 8, 8]

def pcscfOptions : Bytes := [0x80, 0x00, 0x0c, 4, 10, 1, 1, 1]

def optionElements (pco apco : Bytes) : List Ie :=
  [defaultBearer 5, { type := iePCO, payload := pco }, { type := ieAPCO, payload := apco }]

def optionIEs (pco apco : Bytes) : List Ie :=
  [{ type := ieCause, payload := [causeRequestAccepted, 0] },
    { type := iePAA, payload := [pdnTypeIPv4, 10, 0, 0, 1] },
    fteidIE 1 ifaceS2BPGWGTPC 0x101 (some (.v4 0xc0000209))] ++ optionElements pco apco

def splitResult : CreateSessionResult :=
  { defaultResult with
    responsePCO := some { dnsV4 := [.v4 0x08080808] }
    responseAPCO := some { pcscfV4 := [.v4 0x0a010101] } }

def sameResult : CreateSessionResult :=
  { defaultResult with
    responsePCO := some { dnsV4 := [.v4 0x08080808] }
    responseAPCO := some { dnsV4 := [.v4 0x08080808] } }

def dnsDecoded : Pco.Decoded where
  extension := true
  containers := [⟨Pco.containerDNSIPv4, [8, 8, 8, 8]⟩]
  dnsV4 := [.v4 0x08080808]

/-- The DNS server is in the PCO and not in the APCO, and the UE does not learn of it. -/
theorem apco_hides_pco :
    decodeIEs (sessionResponse (optionElements dnsOptions pcscfOptions)).payload
      = some (optionIEs dnsOptions pcscfOptions) ∧
    parseCreateSessionResponse optionClient
      (sessionResponse (optionElements dnsOptions pcscfOptions)) 1 2 = some splitResult ∧
    AddressKind.dnsV4.requested optionServer.cfg.pco = true ∧
    FoundIn (optionIEs dnsOptions pcscfOptions) iePCO .dnsV4 (.v4 0x08080808) ∧
    ¬Delivered optionServer askingSA splitResult .dnsV4 (.v4 0x08080808) := by
  refine ⟨by decide +kernel, by decide +kernel, rfl, ⟨_, dnsDecoded, rfl, ?_, ?_⟩, ?_⟩
  · decide +kernel
  · exact List.mem_singleton_self _
  · rw [delivered_iff rfl]
    decide +kernel

/-- With the same options in both elements everything is delivered. -/
theorem same_options_delivered :
    (∀ k a, k.requested optionServer.cfg.pco = true →
      FoundIn (optionIEs dnsOptions dnsOptions) iePCO k a ∨
        FoundIn (optionIEs dnsOptions dnsOptions) ieAPCO k a →
      Delivered optionServer askingSA sameResult k a) ∧
    ∀ k a, Delivered optionServer askingSA sameResult k a →
      k.requested optionServer.cfg.pco = true := by
  have hr : parseCreateSessionResponse optionClient
      (sessionResponse (optionElements dnsOptions dnsOptions)) 1 2 = some sameResult := by
    decide +kernel
  have hies : decodeIEs (sessionResponse (optionElements dnsOptions dnsOptions)).payload
      = some (optionIEs dnsOptions dnsOptions) := by
    decide +kernel
  have hiff : _ ∧ ∀ k a, Delivered optionServer askingSA sameResult k a → _ :=
    options_delivered_iff rfl rfl hr hies
  refine ⟨hiff.1.mpr fun _ k a _ hfound => ?_, hiff.2⟩
  obtain ⟨raw, d, hraw, hd, hmem⟩ := hfound
  cases hraw
  exact ⟨_, d, rfl, hd, hmem⟩

end Runs
end Epdg.Ikev2
