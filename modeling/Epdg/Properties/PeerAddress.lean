import Epdg.S2b.Client

/-!
The two addresses of a PGW that the client keeps for a session: the one it sends later
requests to, and the one it takes requests of the PGW from.
-/
namespace Epdg.S2b
variable {ip : IP}

def controlFTEID (ies : List Ie) : Option IP :=
  (findFTEIDByInterface ies ifaceS2BPGWGTPC [1, 0]).bind fun r => r.2.2

def NamesPeer (cfg : Config) (pgwControlIP : Option IP) (resp : Message) : Prop :=
  match (decodeIEs resp.payload).bind controlFTEID with
  | some ip => ip = peerFor cfg pgwControlIP
  | none => cfg.pgwGTPC = peerFor cfg pgwControlIP

theorem parseFTEID_to4 {e : Ie} {iface : UInt8} {teid : UInt32}
    (h : parseFTEID e = some (iface, teid, some ip)) : ip.to4 = some ip := by
  simp only [parseFTEID] at h
  split at h
  · split at h
    · cases h
    obtain ⟨-, h⟩ := Prod.mk.inj (Option.some.inj h)
    obtain ⟨-, h⟩ := Prod.mk.inj h
    split at h
    · cases h
    · cases h
      rfl
  · cases h

theorem controlFTEID_to4 {ies : List Ie} (h : controlFTEID ies = some ip) : ip.to4 = some ip := by
  obtain ⟨⟨iface, teid, ip'⟩, hf, hip⟩ := Option.bind_eq_some_iff.mp h
  cases hip
  simp only [findFTEIDByInterface, Option.or_eq_some_iff] at hf
  rcases hf with hf | ⟨-, hf⟩
  · obtain ⟨e, -, he⟩ := List.mem_filterMap.mp (List.mem_of_find?_eq_some hf)
    exact parseFTEID_to4 he
  obtain ⟨i, -, hi⟩ := List.exists_of_findSome?_eq_some hf
  obtain ⟨e, -, he⟩ := Option.bind_eq_some_iff.mp hi
  exact parseFTEID_to4 he

theorem parse_pgwControlIP {cfg : Config} {resp : Message} {localControl localUser : UInt32}
    {result : CreateSessionResult}
    (h : parseCreateSessionResponse cfg resp localControl localUser = some result) :
    ∃ ies, decodeIEs resp.payload = some ies ∧ result.localControlTEID = localControl ∧
      result.pgwControlIP = some ((controlFTEID ies).getD cfg.pgwGTPC) := by
  have hcontrol : ∀ ies, (pgwControl cfg ies).2 = (controlFTEID ies).getD cfg.pgwGTPC := by
    intro ies
    simp only [pgwControl, controlFTEID]
    grind
  obtain ⟨ies, hies, hteid, hip, -⟩ := parseCreateSessionResponse_spec h
  simp_all

/-- The address that later requests go to is the one that requests of the PGW may come from
exactly when the response names the peer of the request. -/
theorem peer_address_iff {cfg : Config} {peers peers' : Table UInt32 IP}
    {pgwControlIP : Option IP} {resp : Message} {localControl localUser : UInt32}
    {result : CreateSessionResult}
    (haccepted : acceptResponse cfg peers pgwControlIP resp localControl localUser =
      (peers', some result)) :
    peers'.lookup result.localControlTEID = some (peerFor cfg result.pgwControlIP) ↔
      NamesPeer cfg pgwControlIP resp := by
  simp only [acceptResponse] at haccepted
  split at haccepted
  · cases haccepted
  rename_i hparse
  cases haccepted
  obtain ⟨ies, hies, hteid, hip⟩ := parse_pgwControlIP hparse
  rw [hteid, AList.lookup_insert, Option.some_inj, eq_comm]
  simp only [NamesPeer, hies, Option.bind_some]
  cases hf : controlFTEID ies with
  | some ip =>
    have hsent : peerFor cfg result.pgwControlIP = ip := by
      simp [peerFor, hip, hf, controlFTEID_to4 hf]
    rw [hsent]
  | none =>
    have hsent : peerFor cfg result.pgwControlIP = cfg.pgwGTPC := by
      simp only [peerFor, hip, hf, Option.getD_none, Option.bind_some]
      cases cfg.pgwGTPC <;> rfl
    rw [hsent]

section Runs

def configuredPGW : IP := .v4 0xc0000202

def staticConfig : Config := { pgwGTPC := configuredPGW }

def acceptedResponse (control : Option IP) : Message where
  type := msgCreateSessionResp
  sequence := 5
  payload := encodeIEs
    [{ type := ieCause, payload := [16, 0] },
      { type := iePAA, payload := [1, 10, 0, 0, 1] },
      { type := ieFTEID, inst := 1
        payload := (if control.isSome then 0xa0 else 0x20) :: Bytes.putUint32 0x101 ++
          (control.map IP.bytes).getD [] },
      { type := ieBearerContext
        payload := encodeIEs
          [{ type := ieEBI, payload := [5] },
            { type := ieFTEID, inst := 5
              payload := 0xa1 :: Bytes.putUint32 0x201 ++ Bytes.putUint32 0xc0000203 }] }]

/-- The PGW answers with the address it was asked at. -/
theorem named_peer_agrees :
    ∃ peers result, acceptResponse staticConfig ∅ none (acceptedResponse (some configuredPGW))
        0x11 0x12 = (peers, some result) ∧
      peers.lookup result.localControlTEID =
        some (peerFor staticConfig result.pgwControlIP) := by
  have hrun : (acceptResponse staticConfig ∅ none (acceptedResponse (some configuredPGW))
        0x11 0x12).2.isSome = true ∧
      (decodeIEs (acceptedResponse (some configuredPGW)).payload).bind controlFTEID =
        some configuredPGW := by
    decide +kernel
  generalize haccepted : acceptResponse staticConfig ∅ none
    (acceptedResponse (some configuredPGW)) 0x11 0x12 = out at hrun ⊢
  obtain ⟨peers, result⟩ := out
  obtain ⟨result, rfl⟩ := Option.isSome_iff_exists.mp hrun.1
  refine ⟨peers, result, rfl, (peer_address_iff haccepted).mpr ?_⟩
  simp only [NamesPeer, hrun.2]
  rfl

/-- The PGW answers with an address for its control plane other than the one it was asked
at, and a PGW that DNS found answers without an address. -/
theorem peer_addresses_differ :
    (∃ peers result, acceptResponse staticConfig ∅ none
        (acceptedResponse (some (.v4 0xc0000209))) 0x11 0x12 = (peers, some result) ∧
      peers.lookup result.localControlTEID ≠
        some (peerFor staticConfig result.pgwControlIP)) ∧
    ∃ peers result, acceptResponse staticConfig ∅ (some (.v4 0xc0000207))
        (acceptedResponse none) 0x11 0x12 = (peers, some result) ∧
      peers.lookup result.localControlTEID ≠
        some (peerFor staticConfig result.pgwControlIP) := by
  have hdiffer : ∀ {pgwControlIP : Option IP} {resp : Message},
      (match acceptResponse staticConfig ∅ pgwControlIP resp 0x11 0x12 with
        | (peers, some result) => decide (peers.lookup result.localControlTEID ≠
            some (peerFor staticConfig result.pgwControlIP))
        | (_, none) => false) = true →
      ∃ peers result, acceptResponse staticConfig ∅ pgwControlIP resp 0x11 0x12 =
          (peers, some result) ∧
        peers.lookup result.localControlTEID ≠
          some (peerFor staticConfig result.pgwControlIP) := by
    intro pgwControlIP resp h
    split at h
    · rename_i peers result haccepted
      exact ⟨peers, result, haccepted, of_decide_eq_true h⟩
    · cases h
  exact ⟨hdiffer (by decide +kernel), hdiffer (by decide +kernel)⟩

end Runs
end Epdg.S2b
