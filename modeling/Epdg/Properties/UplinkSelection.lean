import Epdg.Gtpu.TcEncap

/-!
Which bearer an uplink packet is sent on.

The loop of `tc_gtpu_encap_func` starts with 255 as the best precedence and takes only rules below
it. But 255 is a precedence that a packet filter can have, so a rule with it is never taken.
-/
namespace Epdg.Gtpu

structure Skb.PlainFrom (skb : Skb) (addr : UInt32) : Prop where
  protocol : skb.protocol = ethPIP
  header : ip4HeaderLen ≤ skb.packet.length
  noOptions : skb.packet.byteAt 0 = 0x45
  source : skb.packet.uint32At 12 = addr

theorem uplinkSession_eq_some_iff {k : KernelMaps} {skb : Skb} {addr : UInt32}
    {sess : UeSessionEntry} :
    uplinkSession k skb = some (addr, sess) ↔
      skb.PlainFrom addr ∧ k.ueSessionMap.lookup addr = some sess := by
  constructor
  · intro h
    simp only [uplinkSession, Option.bind_eq_bind] at h
    split at h
    · cases h
    rename_i hprotocol
    split at h
    · cases h
    obtain ⟨entry, hentry, h⟩ := Option.bind_eq_some_iff.mp h
    split at h
    · cases h
    rename_i hheader
    split at h
    · cases h
    rename_i hoptions
    cases h
    refine ⟨⟨not_not.mp hprotocol, ?_, not_not.mp hoptions, rfl⟩, hentry⟩
    simpa [Skb.holds] using hheader
  · rintro ⟨hskb, hsess⟩
    have hlen : 20 ≤ skb.packet.length := hskb.header
    have hsource : skb.holds 12 4 = true := decide_eq_true (by omega)
    have hheader : skb.holds 0 ip4HeaderLen = true :=
      decide_eq_true (by rw [Nat.zero_add]; exact hskb.header)
    have hlookup : k.ueSessionMap.lookup (skb.packet.uint32At 12) = some sess := by
      rw [hskb.source]
      exact hsess
    simp [uplinkSession, hskb.protocol, hsource, hskb.source, hlookup, hheader, hskb.noOptions]

structure SelectsFirst (rules : List Rule) (p : Flow) (default teid : UInt32) : Prop where
  first : ∀ rule, winner rules p = some rule → teid = rule.teid
  fallback : teid = default ↔ ∀ rule ∈ rules, tftRuleMatches rule p = false

def Eligible (rules : List Rule) (p : Flow) (default : UInt32) : Prop :=
  ∀ rule, winner rules p = some rule → rule.precedence < 255 ∧ rule.teid ≠ default

theorem winner_eq_none_iff {rules : List Rule} {p : Flow} :
    winner rules p = none ↔ ∀ rule ∈ rules, tftRuleMatches rule p = false := by
  simp [winner]

theorem selectsFirst_iff (rules : List Rule) (p : Flow) (default : UInt32) :
    SelectsFirst rules p default
        (((Least.below Rule.rank 255 (winner rules p)).map Rule.teid).getD default) ↔
      Eligible rules p default := by
  cases hwinner : winner rules p with
  | none =>
    refine ⟨fun _ rule h => ?_, fun _ => ⟨fun rule h => ?_, ?_⟩⟩
    · simp_all
    · simp_all
    · exact iff_of_true rfl (winner_eq_none_iff.mp hwinner)
  | some best =>
    have hsome : ¬∀ rule ∈ rules, tftRuleMatches rule p = false := by
      rw [← winner_eq_none_iff, hwinner]
      simp_all
    have honly : ∀ rule, winner rules p = some rule → best = rule := fun rule h =>
      Option.some.inj (hwinner.symm.trans h)
    rw [Least.below_some]
    by_cases hlt : best.rank < 255
    · rw [if_pos hlt]
      constructor
      · intro h rule hrule
        cases honly rule hrule
        exact ⟨UInt8.lt_iff_toNat_lt.mpr hlt, fun heq => hsome (h.fallback.mp heq)⟩
      · intro h
        refine ⟨fun rule hrule => congrArg Rule.teid (honly rule hrule), ?_⟩
        exact iff_of_false (h best hwinner).2 hsome
    · rw [if_neg hlt]
      constructor
      · intro h
        exact absurd (h.fallback.mp rfl) hsome
      · intro h
        exact absurd (UInt8.lt_iff_toNat_lt.mp (h best hwinner).1) hlt

section Programs
variable {k : KernelMaps} {skb : Skb} {addr : UInt32} {sess : UeSessionEntry} {rules : List Rule}

theorem tcGtpuEncapFunc_teid (h : k.Stores addr sess rules) (hskb : skb.PlainFrom addr) :
    (tcGtpuEncapFunc k true skb).teid
      = some (((Least.below Rule.rank 255 (winner rules skb.flow)).map Rule.teid).getD
          sess.ulTeid) := by
  rw [tcGtpuEncapFunc, uplinkSession_eq_some_iff.mpr ⟨hskb, h.session⟩, ← selectTEID_eq h]
  exact congrArg some (encapsulate_teid sess _ skb.packet)

theorem uplink_selects_first_iff (h : k.Stores addr sess rules) (hskb : skb.PlainFrom addr) :
    ∃ teid, (tcGtpuEncapFunc k true skb).teid = some teid ∧
      (SelectsFirst rules skb.flow sess.ulTeid teid ↔ Eligible rules skb.flow sess.ulTeid) :=
  ⟨_, tcGtpuEncapFunc_teid h hskb, selectsFirst_iff rules skb.flow sess.ulTeid⟩

end Programs

section Packets

def ueEntry : UeSessionEntry where
  ulTeid := 0x6001
  pgwIP := 0xc0000202
  localIP := 0xc0000201
  s2bIfindex := 3
  ruleCount := 0

def ueMaps : KernelMaps where
  ueSessionMap := (∅ : Table UInt32 UeSessionEntry).insert 0x0a000001 ueEntry

def udpRule (precedence : UInt8) : Rule :=
  PacketFilter.rule 0x6002
    { id := 1, precedence, direction := 1, hasProtocol := true, protocol := ipprotoUDP }

def udpPacket : Skb where
  protocol := ethPIP
  packet := [0x45, 0, 0, 28, 0, 0, 0, 0, 64, 17, 0, 0, 10, 0, 0, 1, 192, 0, 2, 9,
    0x13, 0xc4, 0x13, 0xc4, 0, 8, 0, 0]

theorem udpPacket_plain : udpPacket.PlainFrom 0x0a000001 :=
  ⟨rfl, by decide, by decide, by decide⟩

theorem udpRule_stored (precedence : UInt8) :
    ∃ k, ueMaps.setTFTRules (.v4 0x0a000001) [udpRule precedence] = some k ∧
      k.Stores 0x0a000001 { ueEntry with ruleCount := 1 } [udpRule precedence] := by
  have hentry : ueMaps.ueSessionMap.lookup 0x0a000001 = some ueEntry := by decide
  have hlen : [udpRule precedence].length ≤ maxTCBPFTFTRules := Nat.le_of_ble_eq_true rfl
  have hsome : (ueMaps.setTFTRules (.v4 0x0a000001) [udpRule precedence]).isSome :=
    KernelMaps.setTFTRules_isSome hlen (by rw [hentry]; rfl)
  obtain ⟨k, hk⟩ := Option.isSome_iff_exists.mp hsome
  obtain ⟨entry, h, hstores⟩ := KernelMaps.setTFTRules_stores hk
  simp_all

/-- A rule with precedence 254 is taken. -/
theorem dedicated_selected :
    ∃ k teid, ueMaps.setTFTRules (.v4 0x0a000001) [udpRule 254] = some k ∧
      (tcGtpuEncapFunc k true udpPacket).teid = some teid ∧
      SelectsFirst [udpRule 254] udpPacket.flow 0x6001 teid := by
  obtain ⟨k, hk, hstores⟩ := udpRule_stored 254
  obtain ⟨teid, hteid, hiff⟩ := uplink_selects_first_iff hstores udpPacket_plain
  have hwinner : winner [udpRule 254] udpPacket.flow = some (udpRule 254) := by decide
  refine ⟨k, teid, hk, hteid, hiff.mpr fun rule hrule => ?_⟩
  cases hwinner.symm.trans hrule
  decide

/-- A rule with precedence 255 matches, and the packet goes to the default bearer. -/
theorem last_precedence_ignored :
    ∃ k, ueMaps.setTFTRules (.v4 0x0a000001) [udpRule 255] = some k ∧
      tftRuleMatches (udpRule 255) udpPacket.flow = true ∧
      (tcGtpuEncapFunc k true udpPacket).teid = some 0x6001 ∧
      ¬SelectsFirst [udpRule 255] udpPacket.flow 0x6001 0x6001 := by
  obtain ⟨k, hk, hstores⟩ := udpRule_stored 255
  refine ⟨k, hk, by decide, ?_, fun h => ?_⟩
  · rw [tcGtpuEncapFunc_teid hstores udpPacket_plain]
    decide
  · have hwinner : winner [udpRule 255] udpPacket.flow = some (udpRule 255) := by decide
    exact absurd (h.first _ hwinner) (by decide)

end Packets
end Epdg.Gtpu
