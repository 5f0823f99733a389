import Epdg.Pco
import Epdg.S2b.Transactions
import Epdg.System.World

/-!
`CreateSession` and `DeleteSession` of the GTPv2-C client (`internal/s2b/client.go`): the peer
of the request, and what is taken from the response.
-/
namespace Epdg.S2b
variable {cfg : Config} {resp : Message} {localControl localUser : UInt32} {r : CreateSessionResult}

def peerFor (cfg : Config) (pgwControlIP : Option IP) : IP :=
  (pgwControlIP.bind IP.to4).getD cfg.pgwGTPC

def addressesOf (d : Pco.Decoded) : PcoDecoded :=
  { dnsV4 := d.dnsV4, dnsV6 := d.dnsV6, pcscfV4 := d.pcscfV4, pcscfV6 := d.pcscfV6 }

def parsePCOIE (cfg : Config) (ies : List Ie) (type : UInt8) : Option (Option PcoDecoded) :=
  if cfg.pcoEnabled = false then some none
  else
    match findIE ies type 0 with
    | none => some none
    | some raw =>
      match Pco.decode raw.payload cfg.pcoStrictDecode with
      | some d => some (d.map addressesOf)
      | none => if cfg.pcoStrictDecode then none else some none

structure BearerResult where
  ebi : UInt8 := defaultEBI
  pgwUserTEID : UInt32 := 0
  pgwUserIP : Option IP := none
  deriving DecidableEq, Repr

def BearerResult.note (b : BearerResult) (top : Ie) : BearerResult :=
  if top.type ≠ ieBearerContext then b
  else
    match decodeIEs top.payload with
    | none => b
    | some children =>
      let b :=
        match (findIE children ieEBI 0).bind fun e => e.payload.head? with
        | some ebi => { b with ebi }
        | none => b
      match findFTEIDByInterface children ifaceS2BPGWGTPU [2, 5] with
      | some (_, teid, ip) => { b with pgwUserTEID := teid, pgwUserIP := ip.or b.pgwUserIP }
      | none => b

def pgwControl (cfg : Config) (ies : List Ie) : UInt32 × IP :=
  match findFTEIDByInterface ies ifaceS2BPGWGTPC [1, 0] with
  | some (_, teid, ip) => (teid, ip.getD cfg.pgwGTPC)
  | none => (0, cfg.pgwGTPC)

def parseCreateSessionResponse (cfg : Config) (resp : Message)
    (localControl localUser : UInt32) : Option CreateSessionResult := do
  let ies ← decodeIEs resp.payload
  if parseCause ies ≠ causeRequestAccepted then none
  let responsePCO ← parsePCOIE cfg ies iePCO
  let responseAPCO ← parsePCOIE cfg ies ieAPCO
  let paa ← parsePAA ies
  let (pgwControlTEID, pgwControlIP) := pgwControl cfg ies
  let b := ies.foldl BearerResult.note {}
  if pgwControlTEID = 0 then none
  if b.pgwUserTEID = 0 then none
  match b.pgwUserIP with
  | some (.v4 pgwUserIP) =>
    some { paa, pgwControlTEID, pgwUserTEID := b.pgwUserTEID, localControlTEID := localControl
           localUserTEID := localUser, ebi := b.ebi, pgwRecovery := parseRecovery ies
           pgwControlIP := some pgwControlIP, pgwUserIP, responsePCO, responseAPCO }
  | _ => none

def acceptResponse (cfg : Config) (sessionPeers : Table UInt32 IP) (pgwControlIP : Option IP)
    (resp : Message) (localControl localUser : UInt32) :
    Table UInt32 IP × Option CreateSessionResult :=
  match parseCreateSessionResponse cfg resp localControl localUser with
  | none => (sessionPeers, none)
  | some result => (sessionPeers.insert localControl (peerFor cfg pgwControlIP), some result)

def bearerEBIs (ies : List Ie) : List UInt8 :=
  ies.filterMap fun top =>
    if top.type = ieBearerContext then
      (decodeIEs top.payload).bind fun children =>
        (findIE children ieEBI 0).bind fun e => e.payload.head?
    else none

theorem note_ebi (b : BearerResult) (top : Ie) :
    (b.note top).ebi = ((bearerEBIs [top]).getLast?).getD b.ebi := by
  simp only [BearerResult.note, bearerEBIs, List.filterMap_cons, List.filterMap_nil]
  by_cases ht : top.type = ieBearerContext
  · grind
  · simp_all

theorem foldl_note_ebi (ies : List Ie) (b : BearerResult) :
    (ies.foldl BearerResult.note b).ebi = ((bearerEBIs ies).getLast?).getD b.ebi := by
  induction ies generalizing b with
  | nil => rfl
  | cons top ies ih =>
    have hsplit : bearerEBIs (top :: ies) = bearerEBIs [top] ++ bearerEBIs ies := by
      simp only [bearerEBIs, ← List.filterMap_append, List.singleton_append]
    rw [List.foldl_cons, ih, note_ebi, hsplit, List.getLast?_append]
    simp_all

structure Accepted (cfg : Config) (ies : List Ie) (localControl : UInt32)
    (r : CreateSessionResult) : Prop where
  localControl : r.localControlTEID = localControl
  controlIP : r.pgwControlIP = some (pgwControl cfg ies).2
  control : r.pgwControlTEID ≠ 0
  user : r.pgwUserTEID ≠ 0
  bearer : ies.foldl BearerResult.note {} = ⟨r.ebi, r.pgwUserTEID, some (.v4 r.pgwUserIP)⟩
  pco : parsePCOIE cfg ies iePCO = some r.responsePCO
  apco : parsePCOIE cfg ies ieAPCO = some r.responseAPCO

section
variable (h : parseCreateSessionResponse cfg resp localControl localUser = some r)
include h

theorem parseCreateSessionResponse_accepted {ies : List Ie}
    (hies : decodeIEs resp.payload = some ies) : Accepted cfg ies localControl r := by
  simp only [parseCreateSessionResponse, Option.bind_eq_bind, Option.bind_none, hies,
    Option.bind_some] at h
  split at h
  · cases h
  obtain ⟨pco, hpco, h⟩ := Option.bind_eq_some_iff.mp h
  obtain ⟨apco, hapco, h⟩ := Option.bind_eq_some_iff.mp h
  obtain ⟨paa, -, h⟩ := Option.bind_eq_some_iff.mp h
  split at h
  · cases h
  rename_i hcontrol
  split at h
  · cases h
  rename_i huser
  split at h
  · rename_i ip hip
    cases h
    have hbearer : ies.foldl BearerResult.note {} =
        ⟨(ies.foldl BearerResult.note {}).ebi, (ies.foldl BearerResult.note {}).pgwUserTEID,
          some (.v4 ip)⟩ := by
      rw [← hip]
    exact ⟨rfl, rfl, hcontrol, huser, hbearer, hpco, hapco⟩
  · cases h

theorem parseCreateSessionResponse_spec :
    ∃ ies, decodeIEs resp.payload = some ies ∧ r.localControlTEID = localControl ∧
      r.pgwControlIP = some (pgwControl cfg ies).2 ∧ r.pgwControlTEID ≠ 0 ∧ r.pgwUserTEID ≠ 0 ∧
      r.ebi = (bearerEBIs ies).getLast?.getD defaultEBI := by
  obtain ⟨ies, hies, -⟩ := Option.bind_eq_some_iff.mp h
  have ha := parseCreateSessionResponse_accepted h hies
  have hebi := foldl_note_ebi ies {}
  rw [ha.bearer] at hebi
  exact ⟨ies, hies, ha.localControl, ha.controlIP, ha.control, ha.user, hebi⟩

end

end Epdg.S2b
