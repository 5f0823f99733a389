import Epdg.Gtpu.Tables
import Epdg.Properties.Addressing
import Epdg.System.Links

/-!
Retransmitted Delete Bearer Requests.

There is no cache for them. A request that removes dedicated bearers only can be handled twice:
the second time there is nothing left to remove. After one that names the default bearer the
session is gone or has no S2b context, so its copy is told that there is no such session. And a
removal that failed was done all the same, so that its copy goes further than the request did.
-/
namespace Epdg
open S2b
variable {teid : UInt32} {w : World} {isHandover : Bool} {s : Session.Session}

namespace Gtpu.Manager
variable {ebi : UInt8}
variable (m : Manager) (id : Session.ID)

def removeBearers (ebis : List UInt8) : Manager :=
  ebis.foldl (fun m ebi => (m.removeBearer false id ebi).1) m

variable {m id}

theorem removeBearer_absent (h : m.hasBearer id ebi = false) (fault : Bool) :
    m.removeBearer fault id ebi = (m, true) := by
  rw [hasBearer_eq, Option.isSome_eq_false_iff, Option.isNone_iff_eq_none] at h
  exact removeBearer_none h fault

theorem removeBearer_present (h : m.hasBearer id ebi = true) (fault : Bool) :
    m.removeBearer fault id ebi = ((m.removeBearer false id ebi).1, !fault) := by
  rw [hasBearer_eq] at h
  obtain ⟨b, h⟩ := Option.isSome_iff_exists.mp h
  obtain ⟨ds, hds, hb⟩ := Option.bind_eq_some_iff.mp h
  simp only [removeBearer, hds, hb]

theorem hasBearer_removeBearer (fault : Bool) (ebi ebi' : UInt8) :
    (m.removeBearer fault id ebi).1.hasBearer id ebi' =
      (!decide (ebi' = ebi) && m.hasBearer id ebi') := by
  cases hb : m.bearerOf ⟨id, ebi⟩ with
  | none =>
    rw [removeBearer_none hb]
    by_cases he : ebi' = ebi
    · simp [he, hasBearer_eq, show m.bearerAt id ebi = none from hb]
    · simp [he]
  | some b =>
    rw [(removeBearer_edits hb fault).1.hasBearer]
    simp_all

theorem hasBearer_removeBearers (ebis : List UInt8) (ebi : UInt8) :
    (m.removeBearers id ebis).hasBearer id ebi =
      (!decide (ebi ∈ ebis) && m.hasBearer id ebi) := by
  induction ebis generalizing m with
  | nil => simp [removeBearers]
  | cons e ebis ih =>
    have h := ih (m := (m.removeBearer false id e).1)
    rw [hasBearer_removeBearer] at h
    simp only [removeBearers, List.foldl_cons] at h ⊢
    grind

theorem removeBearers_absent {ebis : List UInt8}
    (h : ∀ ebi ∈ ebis, m.hasBearer id ebi = false) : m.removeBearers id ebis = m := by
  induction ebis with
  | nil => rfl
  | cons e ebis ih =>
    have hrest := ih fun ebi hmem => h ebi (List.mem_cons_of_mem e hmem)
    simp only [removeBearers, List.foldl_cons] at hrest ⊢
    rw [removeBearer_absent (h e List.mem_cons_self)]
    exact hrest

end Gtpu.Manager

namespace Session.Manager
variable {f : Session → Session}
variable {m : Manager} {teid : UInt32} {sess : Session}

def OwnedByOne (m : Manager) (teid : UInt32) : Prop :=
  ∀ id id' s s', m.get id = some s → m.get id' = some s' → hasLocalControlTEID teid s = true →
    hasLocalControlTEID teid s' = true → id = id'

theorem find_of_owned (h : m.OwnedByOne teid) (h0 : teid ≠ 0) {id : ID}
    (hget : m.get id = some sess) (hteid : hasLocalControlTEID teid sess = true) :
    m.findByLocalControlTEID teid = some sess := by
  cases hfind : m.findByLocalControlTEID teid with
  | none =>
    rw [findByLocalControlTEID, if_neg h0, List.find?_eq_none] at hfind
    exact absurd hteid (hfind sess ((Table.mem_values _ _).mpr ⟨id, hget⟩))
  | some found =>
    obtain ⟨hfound, id', hget'⟩ := findByLocalControlTEID_spec hfind
    obtain rfl := h _ _ _ _ hget hget' hteid hfound
    simp_all

theorem find_eq_none
    (h : ∀ id s, m.get id = some s → hasLocalControlTEID teid s = false) :
    m.findByLocalControlTEID teid = none := by
  cases hfind : m.findByLocalControlTEID teid with
  | none => rfl
  | some found =>
    obtain ⟨hfound, id, hget⟩ := findByLocalControlTEID_spec hfind
    grind

theorem teid_ne_zero_of_find (h : m.findByLocalControlTEID teid = some sess) : teid ≠ 0 := by
  rintro rfl
  rw [findByLocalControlTEID, if_pos rfl] at h
  cases h

theorem OwnedByOne.update (h : m.OwnedByOne teid) (id : ID) (hf : ∀ s, (f s).s2b = s.s2b)
    : (m.update id f).OwnedByOne teid := by
  have hback : ∀ {id' s'}, (m.update id f).get id' = some s' →
      ∃ s, m.get id' = some s ∧ hasLocalControlTEID teid s' = hasLocalControlTEID teid s := by
    intro id' s' hget
    rw [get_update] at hget
    split at hget
    · rename_i heq
      obtain ⟨s, hs, rfl⟩ := Option.map_eq_some_iff.mp hget
      exact ⟨s, heq ▸ hs, by simp only [hasLocalControlTEID, hf]⟩
    · grind
  intro id1 id2 s1 s2 h1 h2 ht1 ht2
  obtain ⟨t1, hg1, he1⟩ := hback h1
  obtain ⟨t2, hg2, he2⟩ := hback h2
  exact h id1 id2 t1 t2 hg1 hg2 (he1 ▸ ht1) (he2 ▸ ht2)

theorem update_update {m : Manager} (id : ID) (hf : ∀ s, f (f s) = f s) :
    (m.update id f).update id f = m.update id f := by
  simp only [update, Manager.mk.injEq, and_true]
  cases h : m.sessions.lookup id with
  | none => simp only [Table.modify, h]
  | some s => simp only [Table.modify, h, AList.lookup_insert, hf, AList.insert_insert]

end Session.Manager

section Loop
variable {w : World} {tftFault : UInt8 → Bool} {sess : Session.Session} {defaultEBI : UInt8}
variable {ebis : List UInt8}

def RemovesAll (m : Gtpu.Manager) (tftFault : UInt8 → Bool) (id : Session.ID) (ebis : List UInt8) :
    Prop :=
  ∀ ebi ∈ ebis, m.hasBearer id ebi = true → tftFault ebi = false

theorem deleteBearers_quiet (hd : defaultEBI = 0 ∨ defaultEBI ∉ ebis)
    (hq : RemovesAll w.gtpu tftFault sess.id ebis) :
    deleteBearers w tftFault sess defaultEBI ebis =
        w.setGtpu (w.gtpu.removeBearers sess.id ebis) ∧
      deleteBearersCause w.gtpu tftFault sess.id defaultEBI ebis = causeRequestAccepted := by
  induction ebis generalizing w with
  | nil => exact ⟨rfl, rfl⟩
  | cons e ebis ih =>
    have hne : ¬(defaultEBI ≠ 0 ∧ e = defaultEBI) := by grind
    have hremove : w.gtpu.removeBearer (tftFault e) sess.id e =
        ((w.gtpu.removeBearer false sess.id e).1, true) := by
      cases hhas : w.gtpu.hasBearer sess.id e with
      | false => simp only [Gtpu.Manager.removeBearer_absent hhas]
      | true => rw [hq e List.mem_cons_self hhas, Gtpu.Manager.removeBearer_present hhas]; rfl
    have hrest : defaultEBI = 0 ∨ defaultEBI ∉ ebis :=
      hd.imp_right fun h hm => h (List.mem_cons_of_mem e hm)
    have hquiet : RemovesAll (w.gtpu.removeBearer false sess.id e).1 tftFault sess.id ebis := by
      intro ebi hm hhas
      rw [Gtpu.Manager.hasBearer_removeBearer, Bool.and_eq_true] at hhas
      exact hq ebi (List.mem_cons_of_mem e hm) hhas.2
    obtain ⟨hworld, hcause⟩ :=
      ih (w := w.setGtpu (w.gtpu.removeBearer false sess.id e).1) hrest hquiet
    simp only [deleteBearers, deleteBearersCause, if_neg hne, hremove]
    exact ⟨hworld, hcause⟩

theorem deleteBearers_absent (tftFault : UInt8 → Bool) (sess : Session.Session)
    (hd : defaultEBI = 0 ∨ defaultEBI ∉ ebis)
    (h : ∀ ebi ∈ ebis, w.gtpu.hasBearer sess.id ebi = false) :
    deleteBearers w tftFault sess defaultEBI ebis = w ∧
      deleteBearersCause w.gtpu tftFault sess.id defaultEBI ebis = causeRequestAccepted := by
  have hall : RemovesAll w.gtpu tftFault sess.id ebis := by
    intro ebi hm hhas
    simp_all
  obtain ⟨hworld, hcause⟩ := deleteBearers_quiet hd hall
  rw [Gtpu.Manager.removeBearers_absent h] at hworld
  exact ⟨hworld, hcause⟩

theorem deleteBearers_failed
    (h : deleteBearersCause w.gtpu tftFault sess.id defaultEBI ebis ≠ causeRequestAccepted) :
    (deleteBearers w tftFault sess defaultEBI ebis).sessions = w.sessions ∧
      ∃ ebi, w.gtpu.hasBearer sess.id ebi = true ∧
        (deleteBearers w tftFault sess defaultEBI ebis).gtpu.hasBearer sess.id ebi = false := by
  induction ebis generalizing w with
  | nil => exact absurd rfl h
  | cons e ebis ih =>
    simp only [deleteBearers, deleteBearersCause] at h ⊢
    split at h
    · exact absurd rfl h
    rename_i hne
    simp only [if_neg hne]
    cases hhas : w.gtpu.hasBearer sess.id e with
    | false =>
      simp only [Gtpu.Manager.removeBearer_absent hhas] at h ⊢
      exact ih h
    | true =>
      rw [Gtpu.Manager.removeBearer_present hhas] at h ⊢
      cases hf : tftFault e with
      | false =>
        simp only [hf, Bool.not_false] at h ⊢
        obtain ⟨hs, ebi, hbefore, hafter⟩ :=
          ih (w := w.setGtpu (w.gtpu.removeBearer false sess.id e).1) h
        refine ⟨hs, ebi, ?_, hafter⟩
        have hpair := (Gtpu.Manager.hasBearer_removeBearer false e ebi).symm.trans hbefore
        simp_all
      | true =>
        refine ⟨rfl, e, hhas, ?_⟩
        have hgone : (w.gtpu.removeBearer false sess.id e).1.hasBearer sess.id e = false := by
          rw [Gtpu.Manager.hasBearer_removeBearer]
          simp
        exact hgone

theorem removesAll_of_accepted (hd : defaultEBI = 0 ∨ defaultEBI ∉ ebis)
    (h : deleteBearersCause w.gtpu tftFault sess.id defaultEBI ebis = causeRequestAccepted) :
    RemovesAll w.gtpu tftFault sess.id ebis := by
  induction ebis generalizing w with
  | nil =>
    intro ebi hm
    cases hm
  | cons e ebis ih =>
    have hne : ¬(defaultEBI ≠ 0 ∧ e = defaultEBI) := by grind
    have hrest : defaultEBI = 0 ∨ defaultEBI ∉ ebis :=
      hd.imp_right fun h hm => h (List.mem_cons_of_mem e hm)
    simp only [deleteBearersCause, if_neg hne] at h
    cases hhas : w.gtpu.hasBearer sess.id e with
    | false =>
      rw [Gtpu.Manager.removeBearer_absent hhas] at h
      have hquiet := ih hrest h
      intro ebi hm hebi
      rcases List.mem_cons.mp hm with rfl | hm
      · simp_all
      · exact hquiet ebi hm hebi
    | true =>
      rw [Gtpu.Manager.removeBearer_present hhas] at h
      cases hf : tftFault e with
      | true =>
        rw [hf] at h
        have hcause : causeContextNotFound = causeRequestAccepted := h
        exact absurd hcause (by decide)
      | false =>
        rw [hf] at h
        have hquiet := ih (w := w.setGtpu (w.gtpu.removeBearer false sess.id e).1) hrest h
        intro ebi hm hebi
        by_cases he : ebi = e
        · rw [he, hf]
        refine hquiet ebi ((List.mem_cons.mp hm).resolve_left he) ?_
        have hkept : (w.gtpu.removeBearer false sess.id e).1.hasBearer sess.id ebi =
            true := by
          rw [Gtpu.Manager.hasBearer_removeBearer, hebi]
          simp [he]
        exact hkept

def releaseDefault (w : World) (sess : Session.Session) : World :=
  let cleaned := cleanupSession w sess
  if sess.handoverComplete then
    cleaned.setSessions (cleaned.sessions.update sess.id fun s => { s with s2b := none })
  else cleaned.setSessions (cleaned.sessions.delete sess.id)

theorem deleteBearers_default (h0 : defaultEBI ≠ 0) (hmem : defaultEBI ∈ ebis)
    (h : deleteBearersCause w.gtpu tftFault sess.id defaultEBI ebis = causeRequestAccepted) :
    ∃ w1 : World, w1.sessions = w.sessions ∧
      deleteBearers w tftFault sess defaultEBI ebis = releaseDefault w1 sess := by
  induction ebis generalizing w with
  | nil => cases hmem
  | cons e ebis ih =>
    simp only [deleteBearers, deleteBearersCause] at h ⊢
    by_cases he : e = defaultEBI
    · have hdef : defaultEBI ≠ 0 ∧ e = defaultEBI := ⟨h0, he⟩
      simp only [if_pos hdef]
      exact ⟨w, rfl, rfl⟩
    have hne : ¬(defaultEBI ≠ 0 ∧ e = defaultEBI) := fun h => he h.2
    have hrest := (List.mem_cons.mp hmem).resolve_left fun h => he h.symm
    simp only [if_neg hne] at h ⊢
    cases hm : w.gtpu.removeBearer (tftFault e) sess.id e with
    | mk m ok =>
      simp only [hm] at h ⊢
      cases ok with
      | true => exact ih (w := w.setGtpu m) hrest h
      | false =>
        have hcause : causeContextNotFound = causeRequestAccepted := h
        exact absurd hcause (by decide)

end Loop

theorem releaseDefault_unknown {sess : Session.Session} (howned : w.sessions.OwnedByOne teid)
    (hget : w.sessions.get sess.id = some sess)
    (hteid : Session.Manager.hasLocalControlTEID teid sess = true) :
    (releaseDefault w sess).sessions.findByLocalControlTEID teid = none := by
  apply Session.Manager.find_eq_none
  have hother : ∀ {id}, id ≠ sess.id →
      (cleanupSession w sess).sessions.get id = w.sessions.get id := by
    intro id hne
    simp only [cleanupSession]
    split
    · rfl
    · split <;> simp [World.setSessions, World.setGtpu, hne]
  have hnone : ∀ {id t}, id ≠ sess.id → w.sessions.get id = some t →
      Session.Manager.hasLocalControlTEID teid t = false := by
    intro id t hne ht
    cases hb : Session.Manager.hasLocalControlTEID teid t with
    | false => rfl
    | true => exact absurd (howned _ _ _ _ ht hget hb hteid) hne
  intro id t ht
  simp only [releaseDefault] at ht
  split at ht
  · simp only [World.setSessions, Session.Manager.get_update] at ht
    split at ht
    · obtain ⟨t', -, rfl⟩ := Option.map_eq_some_iff.mp ht
      rfl
    · grind
  · by_cases hne : id = sess.id
    · simp_all
    have ht' : (cleanupSession w sess).sessions.get id = some t := by simp_all
    grind

def signalled (sess : Session.Session) (isHandover : Bool) : Session.Session :=
  sess.marked (sess.handoverComplete || isHandover)

section Request
variable {w : World} {req : Message} {event : DeleteBearerEvent} {sess : Session.Session}
variable {ctx : Session.S2BContext}

@[simp] theorem signalHandover_gtpu (w : World) (sess : Session.Session) (isHandover : Bool) :
    (signalHandover w sess isHandover).gtpu = w.gtpu := by
  simp only [signalHandover]
  split <;> rfl

theorem get_signalHandover (hget : w.sessions.get sess.id = some sess) (isHandover : Bool) :
    (signalHandover w sess isHandover).sessions.get sess.id =
      some (signalled sess isHandover) := by
  cases isHandover with
  | false =>
    rw [signalled, Bool.or_false]
    exact hget
  | true =>
    refine (Session.Manager.get_update _ _ _ _).trans ?_
    rw [if_pos rfl, hget, signalled, Bool.or_true]
    rfl

theorem owned_signalHandover (howned : w.sessions.OwnedByOne teid) (isHandover : Bool)
    : (signalHandover w sess isHandover).sessions.OwnedByOne teid := by
  cases isHandover with
  | false => exact howned
  | true =>
    have h : (w.sessions.update sess.id fun s =>
        { s with handoverComplete := true }).OwnedByOne teid := howned.update sess.id fun s => rfl
    exact h

theorem find_signalHandover (hget : w.sessions.get sess.id = some sess)
    (howned : w.sessions.OwnedByOne teid)
    (hfind : w.sessions.findByLocalControlTEID teid = some sess) (isHandover : Bool) :
    (signalHandover w sess isHandover).sessions.findByLocalControlTEID teid =
      some (signalled sess isHandover) :=
  Session.Manager.find_of_owned (owned_signalHandover howned isHandover)
    (Session.Manager.teid_ne_zero_of_find hfind) (get_signalHandover hget isHandover)
    (Session.Manager.findByLocalControlTEID_spec hfind).1

theorem signalHandover_again {w1 : World}
    (h : w1.sessions = (signalHandover w sess isHandover).sessions) (s : Session.Session)
    (hid : s.id = sess.id) : (signalHandover w1 s isHandover).sessions = w1.sessions := by
  cases isHandover with
  | false => rfl
  | true =>
    simp only [signalHandover, if_true, World.setSessions, hid] at h ⊢
    rw [h]
    exact Session.Manager.update_update _ fun s => rfl

section
variable (hparse : parseDeleteBearerRequest req = some event)
  (hteid : event.localControlTEID = req.teid)
include hparse hteid

theorem handleDeleteBearerRequest_found
    (hfind : w.sessions.findByLocalControlTEID req.teid = some sess) (hctx : sess.s2b = some ctx)
    (tftFault : UInt8 → Bool) :
    handleDeleteBearerRequest w tftFault req =
      (deleteBearers (signalHandover w sess event.isHandover) tftFault
          (signalled sess event.isHandover) ctx.ebi event.ebis,
        (deleteBearerResponse req event
          { cause := deleteBearersCause w.gtpu tftFault sess.id ctx.ebi event.ebis
            pgwControlTEID := ctx.pgwControlTEID }).encode) := by
  simp only [handleDeleteBearerRequest, hparse, hteid, handlePGWDeleteBearer_found hfind hctx,
    handlePGWDeleteBearerResult, hfind, hctx, Option.map_some, Option.getD_some,
    signalled, Session.Session.marked]

theorem handleDeleteBearerRequest_unknown
    (hfind : w.sessions.findByLocalControlTEID req.teid = none) (tftFault : UInt8 → Bool) :
    handleDeleteBearerRequest w tftFault req =
      (w, (deleteBearerResponse req event { cause := causeContextNotFound }).encode) := by
  simp only [handleDeleteBearerRequest, hparse, hteid, handlePGWDeleteBearer,
    handlePGWDeleteBearerResult, hfind]

end

theorem deleteBearerResponse_cause (hin : Inbound req)
    (hparse : parseDeleteBearerRequest req = some event) {r r' : HandlerResult}
    (h : (deleteBearerResponse req event r).encode = (deleteBearerResponse req event r').encode) :
    S2b.accepted r.cause = S2b.accepted r'.cause := by
  obtain ⟨b, hb⟩ := hin.deleteBearerResponse_encode r (hin.ebis_length hparse)
  have hb' := h.symm.trans hb
  have hmsg := Option.some.inj ((decode_encode rfl hb).symm.trans (decode_encode rfl hb'))
  have hbyte := congrArg (fun m => m.payload[4]?) hmsg
  exact Option.some.inj hbyte

end Request

def World.unrecorded (w : World) : World := { w with trace := [] }

def Repeatable (w : World) (tftFault : UInt8 → Bool) (req : Message) : Prop :=
  ∀ event sess ctx, parseDeleteBearerRequest req = some event →
    w.sessions.findByLocalControlTEID req.teid = some sess → sess.s2b = some ctx →
    (ctx.ebi = 0 ∨ ctx.ebi ∉ event.ebis) ∧ RemovesAll w.gtpu tftFault sess.id event.ebis

def HandledTwice (w : World) (tftFault again : UInt8 → Bool) (req : Message) : Prop :=
  let first := handleDeleteBearerRequest w tftFault req
  let second := handleDeleteBearerRequest first.1 again req
  second.1.unrecorded = first.1.unrecorded ∧ second.2 = first.2

theorem unrecorded_signalHandover (h : (signalHandover w s isHandover).sessions = w.sessions) :
    (signalHandover w s isHandover).unrecorded = w.unrecorded := by
  cases isHandover with
  | false => rfl
  | true =>
    simp only [signalHandover, if_true, World.setSessions] at h ⊢
    simp only [World.unrecorded, World.emit, h]

section Twice
variable {w : World} {req : Message} {event : DeleteBearerEvent} {sess : Session.Session}
variable {ctx : Session.S2BContext} {tftFault again : UInt8 → Bool}

theorem handledTwice_of_removed (hparse : parseDeleteBearerRequest req = some event)
    (hget : w.sessions.get sess.id = some sess) (howned : w.sessions.OwnedByOne req.teid)
    (hfind : w.sessions.findByLocalControlTEID req.teid = some sess)
    (hctx : sess.s2b = some ctx) (hd : ctx.ebi = 0 ∨ ctx.ebi ∉ event.ebis)
    (hall : RemovesAll w.gtpu tftFault sess.id event.ebis) :
    HandledTwice w tftFault again req := by
  have hteid := parseDeleteBearerRequest_teid hparse
  have hfirst := handleDeleteBearerRequest_found hparse hteid hfind hctx tftFault
  have hmarked := find_signalHandover hget howned hfind event.isHandover
  have hall0 : RemovesAll (signalHandover w sess event.isHandover).gtpu tftFault
      (signalled sess event.isHandover).id event.ebis := by
    rw [signalHandover_gtpu]
    exact hall
  obtain ⟨hworld1, hcause1⟩ := deleteBearers_quiet hd hall0
  rw [signalHandover_gtpu] at hcause1
  rw [hworld1] at hfirst
  generalize hw1 : (signalHandover w sess event.isHandover).setGtpu _ = w1 at hfirst
  have hsessions : w1.sessions = (signalHandover w sess event.isHandover).sessions := by
    rw [← hw1]
    rfl
  rw [← hsessions] at hmarked
  have hsecond := handleDeleteBearerRequest_found hparse hteid hmarked hctx again
  -- The second time none of the listed bearers is there, and the mark changes nothing.
  have habsent : ∀ ebi ∈ event.ebis,
      (signalHandover w1 (signalled sess event.isHandover) event.isHandover).gtpu.hasBearer
        sess.id ebi = false := by
    intro ebi hm
    rw [signalHandover_gtpu, ← hw1]
    refine (Gtpu.Manager.hasBearer_removeBearers event.ebis ebi).trans ?_
    simp [hm]
  obtain ⟨hworld2, hcause2⟩ := deleteBearers_absent again
    (signalled (signalled sess event.isHandover) event.isHandover) hd habsent
  rw [signalHandover_gtpu] at hcause2
  rw [hworld2] at hsecond
  simp only [HandledTwice, hfirst, hsecond]
  refine ⟨unrecorded_signalHandover (signalHandover_again hsessions _ rfl), ?_⟩
  have hcause : deleteBearersCause w1.gtpu again (signalled sess event.isHandover).id ctx.ebi
      event.ebis = deleteBearersCause w.gtpu tftFault sess.id ctx.ebi event.ebis :=
    hcause2.trans hcause1.symm
  rw [hcause]

section
variable (hin : Inbound req) (hparse : parseDeleteBearerRequest req = some event)
  (hget : w.sessions.get sess.id = some sess) (howned : w.sessions.OwnedByOne req.teid)
  (hfind : w.sessions.findByLocalControlTEID req.teid = some sess) (hctx : sess.s2b = some ctx)
  (h : HandledTwice w tftFault again req)
include hin hparse hget howned hfind hctx h

private theorem handledTwice_accepted :
    deleteBearersCause w.gtpu tftFault sess.id ctx.ebi event.ebis = causeRequestAccepted := by
  by_contra hfailed
  have hteid := parseDeleteBearerRequest_teid hparse
  have hfirst := handleDeleteBearerRequest_found hparse hteid hfind hctx tftFault
  have hmarked := find_signalHandover hget howned hfind event.isHandover
  have hfailed1 : deleteBearersCause (signalHandover w sess event.isHandover).gtpu tftFault
      (signalled sess event.isHandover).id ctx.ebi event.ebis ≠ causeRequestAccepted := by
    rw [signalHandover_gtpu]
    exact hfailed
  have hsessions := (deleteBearers_failed hfailed1).1
  generalize deleteBearers (signalHandover w sess event.isHandover) tftFault
    (signalled sess event.isHandover) ctx.ebi event.ebis = w1 at hfirst hsessions
  rw [← hsessions] at hmarked
  have hsecond := handleDeleteBearerRequest_found hparse hteid hmarked hctx again
  simp only [HandledTwice, hfirst, hsecond] at h
  obtain ⟨hstate, hanswer⟩ := h
  have hcause := deleteBearerResponse_cause hin hparse hanswer
  have hfailed2 : deleteBearersCause
      (signalHandover w1 (signalled sess event.isHandover) event.isHandover).gtpu again
      (signalled (signalled sess event.isHandover) event.isHandover).id ctx.ebi event.ebis ≠
        causeRequestAccepted := by
    rw [signalHandover_gtpu]
    intro hok
    rcases deleteBearersCause_cases w.gtpu tftFault sess.id ctx.ebi event.ebis with hc | hc
    · exact hfailed hc
    have hsame : S2b.accepted causeRequestAccepted = S2b.accepted causeContextNotFound := by
      rw [← hc, ← hok]
      exact hcause
    exact absurd hsame (by decide)
  -- The second failure removed a bearer that the first one had left.
  obtain ⟨-, ebi, hbefore, hafter⟩ := deleteBearers_failed hfailed2
  have hgtpu := congrArg World.gtpu hstate
  rw [signalHandover_gtpu, ← show World.gtpu _ = w1.gtpu from hgtpu] at hbefore
  exact absurd (hbefore.symm.trans hafter) (by decide)

theorem removed_of_handledTwice :
    (ctx.ebi = 0 ∨ ctx.ebi ∉ event.ebis) ∧ RemovesAll w.gtpu tftFault sess.id event.ebis := by
  have hok := handledTwice_accepted hin hparse hget howned hfind hctx h
  by_cases hd : ctx.ebi = 0 ∨ ctx.ebi ∉ event.ebis
  · exact ⟨hd, removesAll_of_accepted hd hok⟩
  rw [not_or, not_not] at hd
  have hteid := parseDeleteBearerRequest_teid hparse
  have hfirst := handleDeleteBearerRequest_found hparse hteid hfind hctx tftFault
  have hok1 : deleteBearersCause (signalHandover w sess event.isHandover).gtpu tftFault
      (signalled sess event.isHandover).id ctx.ebi event.ebis = causeRequestAccepted := by
    rw [signalHandover_gtpu]
    exact hok
  obtain ⟨w1, hsessions, hworld⟩ := deleteBearers_default hd.1 hd.2 hok1
  rw [hworld] at hfirst
  have hgone : (releaseDefault w1 (signalled sess
      event.isHandover)).sessions.findByLocalControlTEID req.teid = none := by
    apply releaseDefault_unknown
    · rw [hsessions]
      exact owned_signalHandover howned event.isHandover
    · rw [hsessions]
      exact get_signalHandover hget event.isHandover
    · exact (Session.Manager.findByLocalControlTEID_spec hfind).1
  have hsecond := handleDeleteBearerRequest_unknown hparse hteid hgone again
  simp only [HandledTwice, hfirst, hsecond] at h
  have hcause := deleteBearerResponse_cause hin hparse h.2
  rw [hok] at hcause
  have hsame : S2b.accepted causeContextNotFound = S2b.accepted causeRequestAccepted := hcause
  exact absurd hsame (by decide)

end

end Twice

/-- A Delete Bearer Request can be handled twice exactly when it is for dedicated bearers that
all go, or finds no session. -/
theorem handledTwice_iff {w : World} {req : Message} (tftFault again : UInt8 → Bool)
    (hin : Inbound req) (hkeyed : w.sessions.Keyed) (howned : w.sessions.OwnedByOne req.teid) :
    HandledTwice w tftFault again req ↔ Repeatable w tftFault req := by
  constructor
  · intro h event sess ctx hparse hfind hctx
    obtain ⟨-, id, hget⟩ := Session.Manager.findByLocalControlTEID_spec hfind
    obtain rfl := hkeyed id sess hget
    exact removed_of_handledTwice hin hparse hget howned hfind hctx h
  · intro h
    cases hparse : parseDeleteBearerRequest req with
    | none => simp only [HandledTwice, handleDeleteBearerRequest, hparse, and_self]
    | some event =>
      have hteid := parseDeleteBearerRequest_teid hparse
      cases hfind : w.sessions.findByLocalControlTEID req.teid with
      | none =>
        simp only [HandledTwice, handleDeleteBearerRequest_unknown hparse hteid hfind,
          and_self]
      | some sess =>
        obtain ⟨hlocal, id, hget⟩ := Session.Manager.findByLocalControlTEID_spec hfind
        obtain rfl := hkeyed id sess hget
        cases hctx : sess.s2b with
        | none => simp [Session.Manager.hasLocalControlTEID, hctx] at hlocal
        | some ctx =>
          obtain ⟨hd, hall⟩ := h event sess ctx hparse hfind hctx
          exact handledTwice_of_removed hparse hget howned hfind hctx hd hall

section Runs

def dedicatedWorld : World :=
  servedWorld.setGtpu (servedWorld.gtpu.addBearer false servedSession.id
    { ebi := 6, localRXTEID := 0x2002, remoteTXTEID := 0x6002, pgwGTPUIP := none
      localGTPUIP := none, qci := 1, tft := none }).1

def deleteRequest (ebi : UInt8) : Message :=
  servedRequest msgDeleteBearerReq [bearerContextIE [ebiValueIE ebi]]

theorem dedicatedWorld_get {id : Session.ID} (h : dedicatedWorld.sessions.get id = some s)
    : s = servedSession ∧ id = servedSession.id := by
  have hl : (AList.insert servedSession.id servedSession ∅ :
      Table Session.ID Session.Session).lookup id = some s := h
  rw [Table.lookup_insert_ite] at hl
  simp_all

theorem dedicatedWorld_keyed : dedicatedWorld.sessions.Keyed := by
  intro id s h
  obtain ⟨rfl, rfl⟩ := dedicatedWorld_get h
  rfl

theorem dedicatedWorld_owned (teid : UInt32) : dedicatedWorld.sessions.OwnedByOne teid := by
  intro id id' s s' h h' _ _
  rw [(dedicatedWorld_get h).2, (dedicatedWorld_get h').2]

theorem dedicated_deleted_twice :
    dedicatedWorld.gtpu.hasBearer servedSession.id 6 = true ∧
      HandledTwice dedicatedWorld (fun _ => false) (fun _ => false) (deleteRequest 6) := by
  have hrun : dedicatedWorld.gtpu.hasBearer servedSession.id 6 = true ∧
      ((deleteRequest 6).encode.any fun b => b.length ≤ readBuffer) = true ∧
      parseDeleteBearerRequest (deleteRequest 6) =
        some { localControlTEID := 0x1001, ebis := [6] } ∧
      dedicatedWorld.sessions.findByLocalControlTEID 0x1001 = some servedSession := by
    decide +kernel
  obtain ⟨hhas, hlen, hparse, hfind⟩ := hrun
  refine ⟨hhas, (handledTwice_iff _ _ (inbound_of_encode rfl hlen) dedicatedWorld_keyed
    (dedicatedWorld_owned _)).mpr ?_⟩
  intro event sess ctx hevent hsess hctx
  rw [hparse] at hevent
  cases hevent
  rw [show (deleteRequest 6).teid = 0x1001 from rfl, hfind] at hsess
  cases hsess
  cases hctx
  exact ⟨.inr (by decide), fun _ _ _ => rfl⟩

/-- The copy of a request for the default bearer is told that there is no such session. -/
theorem default_deleted_once :
    Inbound (deleteRequest 5) ∧ dedicatedWorld.sessions.Keyed ∧
      dedicatedWorld.sessions.OwnedByOne (deleteRequest 5).teid ∧
      ¬HandledTwice dedicatedWorld (fun _ => false) (fun _ => false) (deleteRequest 5) := by
  have hrun : ((deleteRequest 5).encode.any fun b => b.length ≤ readBuffer) = true ∧
      (handleDeleteBearerRequest
        (handleDeleteBearerRequest dedicatedWorld (fun _ => false) (deleteRequest 5)).1
          (fun _ => false) (deleteRequest 5)).2 ≠
        (handleDeleteBearerRequest dedicatedWorld (fun _ => false) (deleteRequest 5)).2 := by
    decide +kernel
  exact ⟨inbound_of_encode rfl hrun.1, dedicatedWorld_keyed, dedicatedWorld_owned _,
    fun h => hrun.2 h.2⟩

end Runs

end Epdg
