import Epdg.Properties.KernelSync
import Epdg.Properties.RuleOrder

/-!
The tunnel of an uplink packet: its outer destination and its TEID.

The TEID comes from the rule that matches the packet, which is the one of a dedicated bearer. The
destination comes from `ue_session_map`, where `AddSession` put the PGW address of the default
bearer; the PGW address of a dedicated bearer is in no map that the uplink reads.
-/
namespace Epdg.Gtpu

def SameBearer (ds : Session) (packet : Bytes) : Prop :=
  ∃ b ∈ ds.bearers.values,
    b.remoteTXTEID = packet.uint32At 32 ∧ b.pgwGTPUIP = .v4 (packet.uint32At 16)

theorem encapsulate_destination (sess : UeSessionEntry) (teid : UInt32) (inner : Bytes) :
    (encapsulate sess teid inner).uint32At 16 = sess.pgwIP :=
  Bytes.be32_putUint32 sess.pgwIP _

namespace Dataplane
variable {d : Dataplane} {localGTPU : Option IP} {s2bIfindex : UInt32} {fault : Option AddStep}
  {o : RangeOrder} {sess : Session.Session}

structure Serves (d : Dataplane) (id : Session.ID) (ds : Session) (a : UInt32)
    (entry : UeSessionEntry) (o : RangeOrder) : Prop where
  session : d.manager.byID id = some ds
  paa : ds.paa = .v4 a
  stores : d.maps.Stores a entry ((buildTCBPFTFTRules o ds).take maxTCBPFTFTRules)
  tunnel : ∃ b, ds.bearers.lookup ds.defaultEBI = some b ∧ b.remoteTXTEID = entry.ulTeid ∧
    b.pgwGTPUIP = .v4 entry.pgwIP

theorem buildTCBPFTFTRules_default (o : RangeOrder) (id : Session.ID) (c : Session.S2BContext)
    (pgw localIP : IP) :
    buildTCBPFTFTRules o (Manager.defaultSession id c pgw localIP) = [] := by
  rw [buildTCBPFTFTRules_eq, Manager.defaultSession_bearers,
    List.perm_singleton.mp (o.perm _), List.flatMap_singleton]
  rfl

section
variable (h : (d.addSession localGTPU s2bIfindex fault o sess).2 = true)
include h

theorem addSession_ok :
    ∃ c a b l, ∃ k : KernelMaps, d.manager.admits localGTPU sess = some c ∧ c.paa = .v4 a ∧
      c.pgwUserIP = .v4 b ∧ k.ueSessionMap.lookup a = some ⟨c.pgwUserTEID, b, l, s2bIfindex, 0⟩ ∧
      k.syncTFTRules o (Manager.defaultSession sess.id c c.pgwUserIP (.v4 l)) =
        some (d.addSession localGTPU s2bIfindex fault o sess).1.maps ∧
      (d.addSession localGTPU s2bIfindex fault o sess).1.manager =
        (d.manager.addSession localGTPU false sess).1 := by
  cases hadm : d.manager.admits localGTPU sess with
  | none =>
    rw [addSession_none hadm] at h
    cases h
  | some c =>
    obtain ⟨a, b, l, k1, k2, k3, ha, hb, rfl, hk1, -, -, hk2, -, -, hentry, hk3⟩ :=
      admitted_writes s2bIfindex o hadm
    refine ⟨c, a, b, l, k2, rfl, ha, hb, hentry, ?_⟩
    simp only [addSession, hadm, Option.getD_some, hk1, hk2, hk3] at h ⊢
    split at h
    · cases h
    split at h
    · cases h
    split at h
    · cases h
    simp_all

theorem addSession_serves :
    ∃ ds a entry,
      (d.addSession localGTPU s2bIfindex fault o sess).1.Serves sess.id ds a entry o := by
  obtain ⟨c, a, b, l, k, hadm, ha, hb, hentry, hsync, hmanager⟩ := addSession_ok h
  obtain ⟨new, hadds, hnew⟩ := Manager.addSession_admitted hadm false
  cases new with
  | none => cases hnew.mp rfl
  | some ds =>
    obtain ⟨localIP, rfl⟩ := hadds.made ds rfl
    have hstores := hsync
    rw [KernelMaps.syncTFTRules, buildTCBPFTFTRules_default,
      show (Manager.defaultSession sess.id c c.pgwUserIP (.v4 l)).paa = .v4 a from ha] at hstores
    obtain ⟨entry, hlookup, hstores⟩ := KernelMaps.setTFTRules_stores hstores
    cases hentry.symm.trans hlookup
    refine ⟨Manager.defaultSession sess.id c c.pgwUserIP localIP, a,
      ⟨c.pgwUserTEID, b, l, s2bIfindex, 0⟩, ?_, ha, ?_, ?_⟩
    · rw [hmanager, hadds.session, if_pos rfl]
    · rw [buildTCBPFTFTRules_default]
      exact hstores
    · refine ⟨_, (Manager.defaultSession_lookup _ _ _ _ _).trans (if_pos rfl), rfl, hb⟩

end

section Bearers
variable {d : Dataplane} {id : Session.ID} {ds : Session} {a : UInt32} {entry : UeSessionEntry}
  {o : RangeOrder}

theorem Serves.edited (h : d.Serves id ds a entry o) {m : Manager} {k : KernelMaps} {ebi : UInt8}
    {b : Option Bearer} (hedit : Manager.EditsBearer d.manager m id ebi b)
    (hebi : ebi ≠ ds.defaultEBI) (hk : k.ueSessionMap = d.maps.ueSessionMap) (o' : RangeOrder) :
    ∃ ds' entry', (({ d with manager := m, maps := k } : Dataplane).synced o' id).1.Serves
      id ds' a entry' o' ∧ ds'.defaultEBI = ds.defaultEBI := by
  have hfields := hedit.session (fun ds => (ds.paa, ds.defaultEBI)) (fun _ _ => rfl) id
  rw [h.session, Option.map_some] at hfields
  obtain ⟨ds', hds', hfields⟩ := Option.map_eq_some_iff.mp hfields
  obtain ⟨hpaa, hdefault⟩ := Prod.mk.inj hfields
  have hsession : k.ueSessionMap.lookup a = some entry := by
    rw [hk]
    exact h.stores.session
  obtain ⟨maps, hmaps⟩ := Option.isSome_iff_exists.mp
    (KernelMaps.syncTFTRules_isSome o' (hpaa.trans h.paa) (by rw [hsession]; rfl))
  have hstores := hmaps
  rw [KernelMaps.syncTFTRules, hpaa.trans h.paa] at hstores
  obtain ⟨old, hold, hstores⟩ := KernelMaps.setTFTRules_stores hstores
  cases hsession.symm.trans hold
  refine ⟨ds', { entry with
    ruleCount := ((buildTCBPFTFTRules o' ds').take maxTCBPFTFTRules).length }, ?_, hdefault⟩
  simp only [synced, hds', Option.bind_some, hmaps]
  refine ⟨hds', hpaa.trans h.paa, hstores, ?_⟩
  obtain ⟨db, hdb, htunnel⟩ := h.tunnel
  refine ⟨db, ?_, htunnel⟩
  have hbearer := hedit.bearer ⟨id, ds.defaultEBI⟩
  rw [if_neg fun heq => hebi (congrArg BearerRef.bearerEBI heq).symm, Manager.bearerOf_eq,
    Manager.bearerOf_eq, hds', h.session] at hbearer
  grind

def Dedicated (id : Session.ID) (defaultEBI : UInt8) : Op → Prop
  | .addBearer _ x b => x = id ∧ b.ebi ≠ defaultEBI
  | .removeBearer _ x ebi => x = id ∧ ebi ≠ defaultEBI
  | .updateBearer _ x ebi _ _ => x = id ∧ ebi ≠ defaultEBI
  | .addSession .. | .removeSession _ => False

theorem addTEID_ueSessionMap (k : KernelMaps) (teid : UInt32) (paa pgwAddr : IP) :
    ((k.addTEID teid paa pgwAddr).getD k).ueSessionMap = k.ueSessionMap := by
  cases paa <;> cases pgwAddr <;> rfl

theorem Serves.call (h : d.Serves id ds a entry o) {op : Op} (hop : Dedicated id ds.defaultEBI op) :
    ∃ ds' entry' o', (d.call op).Serves id ds' a entry' o' ∧ ds'.defaultEBI = ds.defaultEBI := by
  cases op with
  | addSession | removeSession => exact hop.elim
  | addBearer o' x b =>
    obtain ⟨rfl, hebi⟩ := hop
    cases hadm : d.manager.admitsBearer x b with
    | false =>
      rw [Dataplane.call, addBearer_none hadm]
      grind
    | true =>
      obtain ⟨_, -, hedit, -⟩ := (Manager.addBearer_admitted hadm false).2
      obtain ⟨ds', entry', hserves, hdefault⟩ :=
        h.edited hedit hebi (addTEID_ueSessionMap d.maps b.localRXTEID ds.paa
          (b.pgwGTPUIP.getD ds.pgwGTPUIP)) o'
      refine ⟨ds', entry', o', ?_, hdefault⟩
      simp only [Dataplane.call, Dataplane.addBearer, hadm, h.session]
      exact hserves
  | removeBearer o' x ebi =>
    obtain ⟨rfl, hebi⟩ := hop
    cases hb : d.manager.bearerOf ⟨x, ebi⟩ with
    | none =>
      rw [Dataplane.call, removeBearer_none hb]
      grind
    | some b =>
      obtain ⟨ds', entry', hserves, hdefault⟩ :=
        h.edited (Manager.removeBearer_edits hb false).1 hebi
          (k := d.maps.removeTEID b.localRXTEID) rfl o'
      refine ⟨ds', entry', o', ?_, hdefault⟩
      simp only [Dataplane.call, Dataplane.removeBearer, hb]
      exact hserves
  | updateBearer o' x ebi qci tftRaw =>
    obtain ⟨rfl, hebi⟩ := hop
    cases hb : d.manager.bearerOf ⟨x, ebi⟩ with
    | none =>
      simp only [Dataplane.call, Dataplane.updateBearer, hb]
      grind
    | some b =>
      obtain ⟨ds', entry', hserves, hdefault⟩ :=
        h.edited (Manager.updateBearer_edits hb false qci tftRaw).1 hebi (k := d.maps) rfl o'
      refine ⟨ds', entry', o', ?_, hdefault⟩
      simp only [Dataplane.call, Dataplane.updateBearer, hb]
      exact hserves

theorem Serves.run (h : d.Serves id ds a entry o) {ops : List Op}
    (hops : ∀ op ∈ ops, Dedicated id ds.defaultEBI op) :
    ∃ ds' entry' o', (Machine.run Dataplane.call d ops).Serves id ds' a entry' o' ∧
      ds'.defaultEBI = ds.defaultEBI := by
  induction ops generalizing d ds entry o with
  | nil => exact ⟨ds, entry, o, h, rfl⟩
  | cons op ops ih =>
    obtain ⟨ds₁, entry₁, o₁, h₁, hdefault⟩ := h.call (hops op List.mem_cons_self)
    have hrest : ∀ op ∈ ops, Dedicated id ds₁.defaultEBI op := fun op' hop' => by simp_all
    obtain ⟨ds₂, entry₂, o₂, h₂, hdefault₂⟩ := ih h₁ hrest
    exact ⟨ds₂, entry₂, o₂, h₂, hdefault₂.trans hdefault⟩

end Bearers

def OneAddress (ds : Session) (p : Flow) (rules : List Rule) (pgwIP : UInt32) : Prop :=
  ∀ r, winner rules p = some r → r.rank < 255 →
    ∃ b ∈ ds.bearers.values, b.remoteTXTEID = r.teid ∧ b.pgwGTPUIP = .v4 pgwIP

theorem oneAddress_of_all {ds : Session} {pgwIP : UInt32}
    (h : ∀ b ∈ ds.bearers.values, b.pgwGTPUIP = .v4 pgwIP) (p : Flow) (o : RangeOrder) :
    OneAddress ds p ((buildTCBPFTFTRules o ds).take maxTCBPFTFTRules) pgwIP := by
  intro r hr _
  have hmem := (List.mem_filter.mp (List.argmin_mem hr)).1
  obtain ⟨b, hb, hrb⟩ := Least.mem_take_flatMap hmem
  have hbearer := (o.perm _).mem_iff.mp hb
  exact ⟨b, hbearer, (bearerRules_teid (List.mem_of_mem_take hrb)).symm, h b hbearer⟩

theorem same_bearer_iff {d : Dataplane} {id : Session.ID} {ds : Session} {a : UInt32}
    {entry : UeSessionEntry} {o : RangeOrder} {skb : Skb} (h : d.Serves id ds a entry o)
    (hskb : skb.PlainFrom a) :
    ∃ ifindex nextHop packet,
      tcGtpuEncapFunc d.maps true skb = .redirectNeigh ifindex nextHop packet ∧
      (SameBearer ds packet ↔ OneAddress ds skb.flow
        ((buildTCBPFTFTRules o ds).take maxTCBPFTFTRules) entry.pgwIP) := by
  refine ⟨entry.s2bIfindex, entry.pgwIP,
    encapsulate entry (selectTEID d.maps a entry skb.flow) skb.packet, ?_, ?_⟩
  · rw [tcGtpuEncapFunc, uplinkSession_eq_some_iff.mpr ⟨hskb, h.stores.session⟩]
    rfl
  rw [SameBearer, encapsulate_teid, encapsulate_destination, selectTEID_eq h.stores]
  obtain ⟨b, hb, hteid, hpgw⟩ := h.tunnel
  have hdefault : ∃ b ∈ ds.bearers.values,
      b.remoteTXTEID = entry.ulTeid ∧ b.pgwGTPUIP = .v4 entry.pgwIP :=
    ⟨b, (Table.mem_values _ _).mpr ⟨_, hb⟩, hteid, hpgw⟩
  simp only [OneAddress]
  cases winner ((buildTCBPFTFTRules o ds).take maxTCBPFTFTRules) skb.flow with
  | none => exact iff_of_true hdefault fun r hr => by cases hr
  | some r =>
    rw [Least.below_some]
    by_cases hlt : r.rank < 255
    · rw [if_pos hlt]
      constructor
      · rintro hbearer _ ⟨⟩ _
        exact hbearer
      · intro hone
        exact hone r rfl hlt
    · rw [if_neg hlt]
      refine iff_of_true hdefault ?_
      rintro _ ⟨⟩ hlt'
      exact absurd hlt' hlt

section Runs

def attachment : Session.Session where
  id := ⟨1, 0⟩
  s2b := some { paa := .v4 0x0a000001, pgwControlTEID := 0x5001, pgwControlIP := none
                pgwUserTEID := 0x6001, pgwUserIP := .v4 0xc0000202
                localControlTEID := 0x1001, localUserTEID := 0x2001, ebi := 5
                pgwRecovery := 0 }

def attached : Dataplane :=
  (({} : Dataplane).addSession (some (.v4 0xc0000201)) 2 none listOrder attachment).1

def addUdpBearer (pgwGTPUIP : Option IP) : Op :=
  .addBearer listOrder ⟨1, 0⟩
    { ebi := 6, localRXTEID := 0x2002, remoteTXTEID := 0x6002, pgwGTPUIP, localGTPUIP := none
      qci := 1
      tft := some { filters := [{ id := 1, precedence := 10, direction := 1, hasProtocol := true
                                  protocol := ipprotoUDP }] } }

def withBearer (pgwGTPUIP : Option IP) : Dataplane :=
  Machine.run call attached [addUdpBearer pgwGTPUIP]

/-- A bearer without a PGW address gets that of the session. -/
theorem shared_address_tunnel :
    ∃ ds ifindex nextHop packet, (withBearer none).manager.byID ⟨1, 0⟩ = some ds ∧
      tcGtpuEncapFunc (withBearer none).maps true udpPacket =
        .redirectNeigh ifindex nextHop packet ∧ SameBearer ds packet := by
  have hok : (({} : Dataplane).addSession (some (.v4 0xc0000201)) 2 none listOrder
      attachment).2 = true := by decide +kernel
  have hfacts : ((attached.manager.byID ⟨1, 0⟩).all fun ds =>
        ds.defaultEBI = 5 ∧ ds.paa = .v4 0x0a000001) = true ∧
      (((withBearer none).manager.byID ⟨1, 0⟩).all fun ds =>
        ds.bearers.values.all fun b => b.pgwGTPUIP = .v4 0xc0000202) = true := by
    decide +kernel
  obtain ⟨ds₀, a, entry₀, hserves₀⟩ := addSession_serves hok
  have hsession₀ := hserves₀.session
  rw [show attachment.id = ⟨1, 0⟩ from rfl] at hsession₀ hserves₀
  obtain ⟨hebi, hpaa⟩ : ds₀.defaultEBI = 5 ∧ ds₀.paa = .v4 0x0a000001 := by
    have h := hfacts.1
    rw [show attached.manager.byID ⟨1, 0⟩ = some ds₀ from hsession₀] at h
    exact of_decide_eq_true h
  cases hserves₀.paa.symm.trans hpaa
  have hops : ∀ op ∈ [addUdpBearer none], Dedicated ⟨1, 0⟩ ds₀.defaultEBI op := by
    intro op hop
    rw [List.mem_singleton.mp hop, hebi]
    exact ⟨rfl, by decide⟩
  obtain ⟨ds, entry, o, hserves, -⟩ := hserves₀.run hops
  have hall : ∀ b ∈ ds.bearers.values, b.pgwGTPUIP = .v4 0xc0000202 := by
    have h := hfacts.2
    rw [show (withBearer none).manager.byID ⟨1, 0⟩ = some ds from hserves.session] at h
    intro b hb
    exact of_decide_eq_true (List.all_eq_true.mp h b hb)
  have hpgw : entry.pgwIP = 0xc0000202 := by
    obtain ⟨b, hb, -, hpgw⟩ := hserves.tunnel
    have hb' := hall b ((Table.mem_values _ _).mpr ⟨_, hb⟩)
    exact IP.v4.inj (hpgw.symm.trans hb')
  obtain ⟨ifindex, nextHop, packet, hpacket, hiff⟩ := same_bearer_iff hserves udpPacket_plain
  refine ⟨ds, ifindex, nextHop, packet, hserves.session, hpacket, hiff.mpr ?_⟩
  rw [hpgw]
  exact oneAddress_of_all hall _ o

def sends (p : Bytes → Bool) : TcAction → Bool
  | .ok => false
  | .redirectNeigh _ _ packet => p packet

/-- A bearer with a PGW address of its own: its packets go to the one of the session. -/
theorem other_address_tunnel :
    ∃ ds ifindex nextHop packet,
      (withBearer (some (.v4 0xc0000203))).manager.byID ⟨1, 0⟩ = some ds ∧
      tcGtpuEncapFunc (withBearer (some (.v4 0xc0000203))).maps true udpPacket =
        .redirectNeigh ifindex nextHop packet ∧
      packet.uint32At 32 = 0x6002 ∧ packet.uint32At 16 = 0xc0000202 ∧ ¬SameBearer ds packet := by
  have hrun : ((withBearer (some (.v4 0xc0000203))).manager.byID ⟨1, 0⟩).any (fun ds =>
      sends (fun packet => packet.uint32At 32 = 0x6002 ∧ packet.uint32At 16 = 0xc0000202 ∧
          ∀ b ∈ ds.bearers.values, ¬(b.remoteTXTEID = packet.uint32At 32 ∧
            b.pgwGTPUIP = .v4 (packet.uint32At 16)))
        (tcGtpuEncapFunc (withBearer (some (.v4 0xc0000203))).maps true udpPacket)) = true := by
    decide +kernel
  obtain ⟨ds, hds, hrun⟩ := (Option.any_eq_true _ _).mp hrun
  cases hpacket : tcGtpuEncapFunc (withBearer (some (.v4 0xc0000203))).maps true udpPacket with
  | ok =>
    rw [hpacket] at hrun
    cases hrun
  | redirectNeigh ifindex nextHop packet =>
    rw [hpacket] at hrun
    obtain ⟨hteid, hdestination, hnone⟩ := of_decide_eq_true hrun
    refine ⟨ds, ifindex, nextHop, packet, hds, rfl, hteid, hdestination, ?_⟩
    rintro ⟨b, hb, hsame⟩
    exact hnone b hb hsame

end Runs
end Dataplane
end Epdg.Gtpu
