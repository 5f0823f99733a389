import Mathlib.Data.List.Chain
import Mathlib.Data.List.Range
import Epdg.Ikev2.Sockets
import Epdg.System.Counters
import Epdg.System.Scenario

/-!
The probes of the DPD reaper: the socket each one goes out on, and its Message ID.

A probe takes its number before anything can fail, so the probes of an SA are numbered from 0
without a gap; what the peer sees is numbered without a gap only as far as nothing failed in
between. The socket is always an IPv4 one.
-/
namespace Epdg
open Ikev2

structure Probe where
  sa : IkeSA
  encrypted : Bool
  accepted : Bool

namespace Probe
variable (k : Sockets) (p : Probe)

def msgID : UInt32 := p.sa.ourMsgID

def sent : Bool :=
  p.encrypted && (k.probeConn p.sa).any (fun conn => conn.network.carries p.sa.remoteAddr.ip) &&
    p.accepted

def OnOwnFamily : Prop :=
  ∃ conn, k.probeConn p.sa = some conn ∧ conn ∈ k.bound ∧
    conn.network.carries p.sa.remoteAddr.ip = true

end Probe

def probedSA (S : Server) (w : World) (i : Input) : Option IkeSA :=
  match i.act with
  | .dpd spiI =>
    (w.lookupSA spiI).filter fun sa =>
      S.cfg.dpdEnabled && !sa.mu && decide (sa.state = .established) && sa.dpdSentAt.isNone &&
        decide (i.env.now - sa.lastSeen > S.cfg.probeDelay)
  | _ => none

def probeOf (S : Server) (w : World) (i : Input) (accepted : Bool) : Option Probe :=
  (probedSA S w i).map fun sa => ⟨sa, !i.env.sendFails, accepted⟩

def probing (S : Server) (s : World × List Probe) (t : Input × Bool) : World × List Probe :=
  (step S s.1 t.1, s.2 ++ (probeOf S s.1 t.1 t.2).toList)

def probes (S : Server) (secret : Bytes) (now : Time) (ticks : List (Input × Bool)) : List Probe :=
  (Machine.run (probing S) (World.initial secret now, []) ticks).2

def probesOf (ref : Nat) (log : List Probe) : List Probe :=
  log.filter fun p => p.sa.ref = ref

def Consecutive (ids : List UInt32) : Prop := ids.IsChain fun a b => b = a + 1

section Step
variable {S : Server} {w : World} {i : Input}

theorem probedSA_some {sa : IkeSA} (h : probedSA S w i = some sa) :
    step S w i = sendDPDProbe w i.env sa ∧ ∃ spiI, w.lookupSA spiI = some sa := by
  unfold probedSA at h
  split at h
  · rename_i spiI hact
    obtain ⟨hl, hdue⟩ := Option.filter_eq_some_iff.mp h
    simp only [Bool.and_eq_true, Bool.not_eq_true', decide_eq_true_eq,
      Option.isNone_iff_eq_none] at hdue
    obtain ⟨⟨⟨⟨hon, hmu⟩, hstate⟩, hnone⟩, hdelay⟩ := hdue
    refine ⟨?_, spiI, hl⟩
    simp [step, hact, dpdCheck, hl, hon, hmu, hstate, hnone, hdelay]
  · cases h

theorem step_counts_of_none (hk : Keyed w) (h : probedSA S w i = none) :
    Counts w.nextRef w (step S w i) := by
  by_cases hdpd : ∃ spiI, i.act = .dpd spiI
  · obtain ⟨spiI, hact⟩ := hdpd
    simp only [probedSA, hact] at h
    simp only [step, hact, dpdCheck]
    split
    · exact .refl w
    split
    · exact .refl w
    split
    · split
      · grind
      · exact .refl w
    · split
      · have hw : Writes w.nextRef false True False w w := .refl
        exact (hw.teardown _ _ _).counts
      · exact .refl w
  · exact step_counts hk fun spiI hact => hdpd ⟨spiI, hact⟩

theorem counterAt_sendDPDProbe (w : World) (env : Env) (sa : IkeSA) (key : UInt64) :
    (sendDPDProbe w env sa).counterAt key =
      if key = sa.spiI then some (sa.ref, sa.ourMsgID + 1) else w.counterAt key := by
  unfold sendDPDProbe
  split
  · exact counterAt_storeSA w _ key
  · exact counterAt_storeSA w (sa.probed env.now) key

theorem step_nextRef_le (hk : Keyed w) : w.nextRef ≤ (step S w i).nextRef := by
  refine (step_shape hk i).invariant (fun v => w.nextRef ≤ v.nextRef) ?_ ?_ (Nat.le_refl _)
  · intro w1 w2 hq h
    rw [hq.nextRef]
    exact h
  · intro remote msg hdr w1 w2 hm h
    exact Nat.le_trans h hm.nextRef_le

end Step

section Log
variable {S : Server} {w w' : World} {log : List Probe} {p : Probe} {ref : Nat}

theorem probesOf_append (ref : Nat) (log : List Probe) (p : Probe) :
    probesOf ref (log ++ [p]) =
      if p.sa.ref = ref then probesOf ref log ++ [p] else probesOf ref log := by
  split
  · rename_i h
    simp [h, probesOf]
  · rename_i h
    simp [h, probesOf]

structure Numbered (w : World) (log : List Probe) : Prop where
  base : Base w
  refs : ∀ p ∈ log, p.sa.ref < w.nextRef
  counter : ∀ key c, w.counterAt key = some c → c.2 = UInt32.ofNat (probesOf c.1 log).length
  ids : ∀ ref, (probesOf ref log).map Probe.msgID =
    (List.range (probesOf ref log).length).map UInt32.ofNat

theorem Numbered.initial (secret : Bytes) (now : Time) :
    Numbered (World.initial secret now) [] where
  base := .initial secret now
  refs _ h := nomatch h
  counter _ _ h := nomatch h
  ids _ := rfl

theorem Numbered.unseen (h : Numbered w log) : probesOf w.nextRef log = [] := by
  refine List.filter_eq_nil_iff.mpr fun p hp => ?_
  have hlt := h.refs p hp
  grind

section
variable (h : Numbered w log) (hbase : Base w') (hle : w.nextRef ≤ w'.nextRef)
include h hbase hle

theorem Numbered.quiet (hc : Counts w.nextRef w w') : Numbered w' log where
  base := hbase
  refs p hp := Nat.lt_of_lt_of_le (h.refs p hp) hle
  counter key c hat := by
    rcases hc key c hat with hold | rfl
    · exact h.counter key c hold
    -- the new object has made no probe yet
    rw [h.unseen]
    rfl
  ids := h.ids

theorem Numbered.probe {key : UInt64} (hl : w.lookupSA key = some p.sa)
    (hc : ∀ k, w'.counterAt k =
      if k = key then some (p.sa.ref, p.sa.ourMsgID + 1) else w.counterAt k) :
    Numbered w' (log ++ [p]) := by
  have hnum : p.msgID = UInt32.ofNat (probesOf p.sa.ref log).length :=
    h.counter key p.sa.counter (by rw [World.counterAt, hl]; rfl)
  refine ⟨hbase, ?_, ?_, ?_⟩
  · intro q hq
    rcases List.mem_append.mp hq with hq | hq
    · exact Nat.lt_of_lt_of_le (h.refs q hq) hle
    · obtain rfl := List.mem_singleton.mp hq
      exact Nat.lt_of_lt_of_le (h.base.refs key q.sa hl) hle
  · intro k c hat
    rw [hc k] at hat
    split at hat
    · obtain rfl := Option.some.inj hat
      rw [probesOf_append, if_pos rfl, List.length_append]
      change p.msgID + 1 = _
      simp_all
    rename_i hk
    rw [probesOf_append, if_neg, h.counter k c hat]
    -- another key holds another object
    intro href
    obtain ⟨sa, hsa, rfl⟩ := Option.map_eq_some_iff.mp hat
    exact hk (h.base.unique k key sa p.sa hsa hl href.symm)
  · intro ref
    rw [probesOf_append]
    split
    · rename_i href
      subst href
      rw [List.map_append, h.ids, List.length_append, List.length_singleton, List.range_succ,
        List.map_append]
      simp [hnum]
    · exact h.ids ref

end

theorem Numbered.step {s : World × List Probe} (h : Numbered s.1 s.2) (t : Input × Bool) :
    Numbered (probing S s t).1 (probing S s t).2 := by
  have hbase : Base (Epdg.step S s.1 t.1) := step_base h.base t.1
  have hle : s.1.nextRef ≤ (Epdg.step S s.1 t.1).nextRef := step_nextRef_le h.base.keyed
  unfold probing probeOf
  cases hp : probedSA S s.1 t.1 with
  | none =>
    rw [Option.map_none, Option.toList_none, List.append_nil]
    exact h.quiet hbase hle (step_counts_of_none h.base.keyed hp)
  | some sa =>
    obtain ⟨hstep, key, hl⟩ := probedSA_some hp
    refine h.probe hbase hle hl fun k => ?_
    rw [hstep, counterAt_sendDPDProbe, h.base.keyed key sa hl]

theorem probes_numbered (S : Server) (secret : Bytes) (now : Time)
    (ticks : List (Input × Bool)) (ref : Nat) :
    (probesOf ref (probes S secret now ticks)).map Probe.msgID =
      (List.range (probesOf ref (probes S secret now ticks)).length).map UInt32.ofNat :=
  (Machine.run_invariant (fun s : World × List Probe => Numbered s.1 s.2) (fun _ t h => h.step t)
    (.initial secret now) ticks).ids ref

theorem consecutive_range (n : Nat) : Consecutive ((List.range n).map UInt32.ofNat) := by
  rw [Consecutive, List.isChain_map, List.isChain_range]
  simp_all

end Log

/-- With the sockets of a server that runs: the probes go to sockets of the peers' own families
exactly as long as every peer is on IPv4. The Message IDs that a peer gets follow each other as
long as every probe of its SA between the first and the last that left did leave. -/
theorem probes_on_udp4_numbered {os : ListenCalls} {c : ListenConfig} {k : Sockets}
    (hserve : listenAndServe os c = .ok k) (S : Server) (secret : Bytes) (now : Time)
    (ticks : List (Input × Bool)) :
    ((∀ p ∈ probes S secret now ticks, p.OnOwnFamily k) ↔
      ∀ p ∈ probes S secret now ticks, p.sa.remoteAddr.ip.isV4 = true) ∧
    ∀ ref, (probesOf ref (probes S secret now ticks)).filter (Probe.sent k) <:+:
        probesOf ref (probes S secret now ticks) →
      Consecutive (((probesOf ref (probes S secret now ticks)).filter (Probe.sent k)).map
        Probe.msgID) := by
  constructor
  · refine forall₂_congr fun p _ => ?_
    obtain ⟨conn, hconn, hbound, hnet⟩ := probeConn_udp4 hserve p.sa
    constructor
    · rintro ⟨conn', hconn', -, hfam⟩
      obtain rfl := Option.some.inj (hconn.symm.trans hconn')
      rw [hnet] at hfam
      exact hfam
    · intro hv4
      refine ⟨conn, hconn, hbound, ?_⟩
      rw [hnet]
      exact hv4
  · intro ref hsub
    refine List.IsChain.infix ?_ (hsub.map Probe.msgID)
    rw [probes_numbered]
    exact consecutive_range _

section Runs
open Scenario

def dualStack : ListenConfig := { listenAddr := "0.0.0.0", listenAddrV6 := "::" }

def dualSockets : Sockets :=
  ⟨some ⟨.udp4, dualStack.addr500⟩, some ⟨.udp4, dualStack.addr4500⟩,
    some ⟨.udp6, dualStack.addr500v6⟩, some ⟨.udp6, dualStack.addr4500v6⟩⟩

theorem listenAndServe_dualStack : listenAndServe {} dualStack = .ok dualSockets := rfl

def checkAt (seconds : Nat) (sendFails : Bool) : Input :=
  ⟨.dpd 0x11, { now := seconds * Config.second, sendFails }⟩

def answerAt (seconds : Nat) (msgID : UInt32) : Input :=
  ⟨.packet ue (Wire.message ⟨0x11, 0x21, 0, exchInformational, 0x28, msgID⟩ []) false,
    { now := seconds * Config.second }⟩

def taken (inputs : List Input) : List (Input × Bool) := inputs.map fun i => (i, true)

def answered : List (Input × Bool) :=
  taken (attached ++ [checkAt 40 false, answerAt 41 0, checkAt 80 false])

/-- Two probes of a UE on IPv4 which answers: both leave, with the numbers 0 and 1. -/
theorem answered_probes_numbered :
    listenAndServe {} dualStack = .ok dualSockets ∧
    ((probesOf 0 (probes server [1] 0 answered)).filter (Probe.sent dualSockets)).map
      Probe.msgID = [0, 1] ∧
    (∀ p ∈ probes server [1] 0 answered, p.OnOwnFamily dualSockets) ∧
    Consecutive (((probesOf 0 (probes server [1] 0 answered)).filter
      (Probe.sent dualSockets)).map Probe.msgID) := by
  have hmain := probes_on_udp4_numbered listenAndServe_dualStack server [1] 0 answered
  have hall : (probesOf 0 (probes server [1] 0 answered)).all (Probe.sent dualSockets) = true := by
    decide +kernel
  have hv4 : (probes server [1] 0 answered).all (fun p => p.sa.remoteAddr.ip.isV4) = true := by
    decide +kernel
  refine ⟨listenAndServe_dualStack, by decide +kernel, hmain.1.mpr ?_, hmain.2 0 ?_⟩
  · intro p hp
    exact List.all_eq_true.mp hv4 p hp
  · have hself := List.filter_eq_self.mpr fun p hp => List.all_eq_true.mp hall p hp
    simp only [hself, List.infix_refl]

def ue6 : UDPAddr := ⟨.v6 0x20010db800000000 7, 500⟩

def gateway6 : IP := .v6 0x20010db800000000 1

def overIPv6 (i : Input) : Input :=
  match i.act with
  | .packet _ pkt natt =>
    ⟨.packet ue6 pkt natt, { i.env with route := i.env.route.map fun _ => gateway6 }⟩
  | _ => i

def attached6 : List Input := attached.map overIPv6

def unreachable : List (Input × Bool) := taken (attached6 ++ [checkAt 40 false])

def skipped : List (Input × Bool) :=
  taken (attached ++ [checkAt 40 false, answerAt 41 0, checkAt 80 true, checkAt 90 false])

/-- The server listens on IPv6 and a UE has attached there. Its probe is given to the IPv4 socket,
which cannot address it, and for want of an answer the SA is torn down. On IPv4 a failed encryption
uses up the number between two requests that leave. -/
theorem probe_of_ipv6_peer_lost :
    listenAndServe {} dualStack = .ok dualSockets ∧
    ((probes server [1] 0 unreachable).map fun p =>
      (p.sa.state, p.sa.remoteAddr, p.encrypted, p.accepted, p.sent dualSockets)) =
      [(.established, ue6, true, true, false)] ∧
    ¬ (∀ p ∈ probes server [1] 0 unreachable, p.OnOwnFamily dualSockets) ∧
    ((after (attached6 ++ [checkAt 40 false, checkAt 200 false])).lookupSA 0x11).isNone = true ∧
    ((probesOf 0 (probes server [1] 0 skipped)).filter (Probe.sent dualSockets)).map
      Probe.msgID = [0, 2] ∧
    ¬ Consecutive [0, 2] := by
  have hlost : (probes server [1] 0 unreachable).any (fun p =>
      !(dualSockets.probeConn p.sa).any fun conn =>
        conn.network.carries p.sa.remoteAddr.ip) = true := by decide +kernel
  refine ⟨listenAndServe_dualStack, by decide +kernel, ?_, by decide +kernel, by decide +kernel,
    ?_⟩
  · intro hown
    obtain ⟨p, hp, hnone⟩ := List.any_eq_true.mp hlost
    obtain ⟨conn, hconn, -, hcarries⟩ := hown p hp
    rw [hconn, Option.any_some, hcarries] at hnone
    cases hnone
  · intro hcons
    have hnext : (2 : UInt32) = 0 + 1 := (List.isChain_cons_cons.mp hcons).1
    exact absurd hnext (by decide)

end Runs
end Epdg
