import Epdg.Gtpu.XdpDecap
import Epdg.Lib.Least

/-!
The TC program of the uplink (`internal/gtpu/bpf/tc_gtpu_encap.c`). A packet is the byte string from
the network header on.

`bpf_skb_store_bytes` writes into the room just made and succeeds; whether `bpf_skb_adjust_room`
makes it is a parameter. Words of a header are read in the order of a little-endian host. The
counters are not modelled.
-/
namespace Epdg.Gtpu

structure Skb where
  protocol : Nat
  packet : Bytes
  deriving DecidableEq, Repr

inductive TcAction where
  | ok
  | redirectNeigh (ifindex nextHop : UInt32) (packet : Bytes)
  deriving DecidableEq, Repr

def ipprotoTCP : UInt8 := 6

def Skb.holds (skb : Skb) (off len : Nat) : Bool := off + len ≤ skb.packet.length

structure Flow where
  daddr : UInt32
  protocol : UInt8
  ports : Option (Nat × Nat)
  deriving DecidableEq, Repr

def Skb.ports (skb : Skb) : Option (Nat × Nat) :=
  let protocol := skb.packet.byteAt 9
  let ihl := (skb.packet.byteAt 0 &&& 0x0f).toNat * 4
  if (protocol = ipprotoTCP ∨ protocol = ipprotoUDP) ∧ skb.holds ihl 4 then
    some (skb.packet.uint16At ihl, skb.packet.uint16At (ihl + 2))
  else none

def Skb.flow (skb : Skb) : Flow :=
  { daddr := skb.packet.uint32At 16, protocol := skb.packet.byteAt 9, ports := skb.ports }

def ipv4MaskMatch (pktIP ruleIP mask : UInt32) : Bool := (pktIP ^^^ ruleIP) &&& mask = 0

def Rule.has (rule : Rule) (flag : UInt8) : Bool := rule.flags &&& flag ≠ 0

def tftRuleMatches (rule : Rule) (p : Flow) : Bool :=
  (!rule.has tcTFTFlagRemoteIP || ipv4MaskMatch p.daddr rule.remoteIP rule.remoteMask) &&
  (!rule.has tcTFTFlagProtocol || p.protocol = rule.protocol) &&
  (!rule.has tcTFTFlagLocalPort || p.ports.any fun (src, _) =>
    rule.localPortLo.toNat ≤ src && src ≤ rule.localPortHi.toNat) &&
  (!rule.has tcTFTFlagRemotePort || p.ports.any fun (_, dst) =>
    rule.remotePortLo.toNat ≤ dst && dst ≤ rule.remotePortHi.toNat)

structure Selection where
  selectedTEID : UInt32
  bestPrecedence : UInt8 := 255
  deriving DecidableEq, Repr

def Selection.consider (p : Flow) (s : Selection) : Option Rule → Selection
  | none => s
  | some rule =>
    if s.bestPrecedence ≤ rule.precedence then s
    else if tftRuleMatches rule p then
      { selectedTEID := rule.teid, bestPrecedence := rule.precedence }
    else s

def selectLoop (rules : Table TftRuleKey Rule) (addr : UInt32) (ruleCount : Nat) (p : Flow) :
    Nat → Nat → Selection → Selection
  | 0, _, s => s
  | n + 1, i, s =>
    if ruleCount ≤ i then s
    else selectLoop rules addr ruleCount p n (i + 1) (s.consider p (rules.lookup ⟨addr, i⟩))

def selectTEID (k : KernelMaps) (addr : UInt32) (sess : UeSessionEntry) (p : Flow) : UInt32 :=
  (selectLoop k.tftRuleMap addr (min sess.ruleCount maxTCBPFTFTRules) p maxTCBPFTFTRules 0
    { selectedTEID := sess.ulTeid }).selectedTEID

def sumWords : Bytes → UInt32
  | lo :: hi :: rest => lo.toUInt32 + (hi.toUInt32 <<< 8) + sumWords rest
  | _ => 0

def ip4Csum (header : Bytes) : Bytes :=
  let sum := sumWords header
  let sum := (sum >>> 16) + (sum &&& 0xffff)
  let sum := sum + (sum >>> 16)
  let check := ~~~sum
  [check.toUInt8, (check >>> 8).toUInt8]

def outerIP (sess : UeSessionEntry) (total : UInt16) : Bytes :=
  let start : Bytes := [0x45, 0] ++ Bytes.putUint16 total ++ [0, 0, 0x40, 0x00, 64, ipprotoUDP]
  let addresses := Bytes.putUint32 sess.localIP ++ Bytes.putUint32 sess.pgwIP
  start ++ ip4Csum (start ++ [0, 0] ++ addresses) ++ addresses

def outerUDP (len : UInt16) : Bytes :=
  Bytes.putUint16 gtpUDPPort.toUInt16 ++ Bytes.putUint16 gtpUDPPort.toUInt16 ++
    Bytes.putUint16 len ++ [0, 0]

def outerGTP (len : UInt16) (teid : UInt32) : Bytes :=
  [0x30, gtpuGPDU] ++ Bytes.putUint16 len ++ Bytes.putUint32 teid

def encapsulate (sess : UeSessionEntry) (teid : UInt32) (inner : Bytes) : Bytes :=
  let gtpLen := (inner.uint16At 2).toUInt16
  let udpLen := 8 + 8 + gtpLen
  outerIP sess (20 + udpLen) ++ outerUDP udpLen ++ outerGTP gtpLen teid ++ inner

def uplinkSession (k : KernelMaps) (skb : Skb) : Option (UInt32 × UeSessionEntry) := do
  if skb.protocol ≠ ethPIP then none
  if !skb.holds 12 4 then none
  let addr := skb.packet.uint32At 12
  let sess ← k.ueSessionMap.lookup addr
  if !skb.holds 0 ip4HeaderLen then none
  if skb.packet.byteAt 0 ≠ 0x45 then none
  some (addr, sess)

def tcGtpuEncapFunc (k : KernelMaps) (room : Bool) (skb : Skb) : TcAction :=
  match uplinkSession k skb with
  | none => .ok
  | some (addr, sess) =>
    let teid := selectTEID k addr sess skb.flow
    if room then .redirectNeigh sess.s2bIfindex sess.pgwIP (encapsulate sess teid skb.packet)
    else .ok

def TcAction.teid : TcAction → Option UInt32
  | .ok => none
  | .redirectNeigh _ _ packet => some (packet.uint32At 32)

theorem encapsulate_teid (sess : UeSessionEntry) (teid : UInt32) (inner : Bytes) :
    (encapsulate sess teid inner).uint32At 32 = teid := by
  exact Bytes.be32_putUint32 teid inner

section Loop
variable {k : KernelMaps} {addr : UInt32} {sess : UeSessionEntry} {rules : List Rule} {p : Flow}

theorem selectLoop_eq (h : k.Stores addr sess rules) (before rest : List Rule) (n : Nat)
    (s : Selection) (hsplit : before ++ rest = rules) (hn : rest.length ≤ n) :
    selectLoop k.tftRuleMap addr rules.length p n before.length s
      = rest.foldl (fun s rule => s.consider p (some rule)) s := by
  induction rest generalizing before n s with
  | nil =>
    rw [List.append_nil] at hsplit
    cases n with
    | zero => rfl
    | succ n => rw [selectLoop, if_pos (Nat.le_of_eq (congrArg List.length hsplit).symm)]; rfl
  | cons rule rest ih =>
    cases n with
    | zero => cases hn
    | succ n =>
      have hlt : before.length < rules.length := by grind
      have hrule : rules[before.length]? = some rule := by grind
      have hrest := ih (before ++ [rule]) n (s.consider p (some rule))
        (by rw [List.append_assoc]; exact hsplit) (Nat.le_of_succ_le_succ hn)
      rw [List.length_append] at hrest
      rw [selectLoop, if_neg (Nat.not_le.mpr hlt), h.rule _ hlt, hrule]
      exact hrest

def Selection.of (default : UInt32) (best : Option Rule) : Selection :=
  best.elim { selectedTEID := default } fun rule =>
    { selectedTEID := rule.teid, bestPrecedence := rule.precedence }

def Rule.rank (rule : Rule) : Nat := rule.precedence.toNat

theorem consider_of (default : UInt32) (best : Option Rule) (rule : Rule) :
    (Selection.of default best).consider p (some rule)
      = .of default (Least.improve (tftRuleMatches · p) Rule.rank 255 best rule) := by
  have hbest : (Selection.of default best).bestPrecedence ≤ rule.precedence ↔
      best.elim 255 Rule.rank ≤ rule.rank := by
    cases best <;> exact UInt8.le_iff_toNat_le
  rw [Selection.consider, Least.improve]
  by_cases hle : best.elim 255 Rule.rank ≤ rule.rank
  · simp_all
  · rw [if_neg (mt hbest.mp hle), if_neg hle, apply_ite (Selection.of default)]
    rfl

def winner (rules : List Rule) (p : Flow) : Option Rule :=
  (rules.filter (tftRuleMatches · p)).argmin Rule.rank

theorem selectTEID_eq (h : k.Stores addr sess rules) :
    selectTEID k addr sess p
      = ((Least.below Rule.rank 255 (winner rules p)).map Rule.teid).getD sess.ulTeid := by
  have hfold : rules.foldl (fun s rule => Selection.consider p s (some rule))
      (Selection.of sess.ulTeid none) = Selection.of sess.ulTeid
        (rules.foldl (Least.improve (tftRuleMatches · p) Rule.rank 255) none) :=
    List.foldl_hom (Selection.of sess.ulTeid) (consider_of sess.ulTeid)
  have hloop := selectLoop_eq (p := p) h [] rules maxTCBPFTFTRules (.of sess.ulTeid none) rfl
    h.bounded
  rw [hfold, Least.foldl_improve] at hloop
  rw [selectTEID, h.count, Nat.min_eq_left h.bounded]
  refine (congrArg Selection.selectedTEID hloop).trans ?_
  simp only [winner]
  cases Least.below Rule.rank 255 ((rules.filter (tftRuleMatches · p)).argmin Rule.rank) with
  | none => rfl
  | some rule => rfl

end Loop
end Epdg.Gtpu
