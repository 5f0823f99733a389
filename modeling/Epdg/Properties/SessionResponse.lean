import Epdg.S2b.Client
import Epdg.S2b.Responses

/-!
Where the default bearer of a Create Session Response comes from. The parser goes through the
Bearer Contexts and lets each overwrite what it names, so that the EBI, the user TEID and the user
address may be those of different contexts. It takes the EBI as it stands, spare bits included.
-/
namespace Epdg.S2b
variable {ies : List Ie} {ebi : UInt8} {teid : UInt32} {ip : IP}

def FromOneContext (ies : List Ie) (r : CreateSessionResult) : Prop :=
  ∃ top ∈ ies, top.type = ieBearerContext ∧ ∃ children ∈ decodeIEs top.payload,
    (∃ e ∈ children, e.type = ieEBI ∧ parseEBI e.payload = some r.ebi) ∧
    ∃ e ∈ children, e.type = ieFTEID ∧
      (parseFTEID e).map Prod.snd = some (r.pgwUserTEID, some (.v4 r.pgwUserIP))

instance (ies : List Ie) (r : CreateSessionResult) : Decidable (FromOneContext ies r) :=
  inferInstanceAs (Decidable (∃ top ∈ ies, top.type = ieBearerContext ∧
    ∃ children ∈ decodeIEs top.payload,
      (∃ e ∈ children, e.type = ieEBI ∧ parseEBI e.payload = some r.ebi) ∧
      ∃ e ∈ children, e.type = ieFTEID ∧
        (parseFTEID e).map Prod.snd = some (r.pgwUserTEID, some (.v4 r.pgwUserIP))))

section Fold
variable {b : BearerResult} {top : Ie} {children : List Ie}

end Fold

section Runs

def sessionResponse (contexts : List Ie) : Message where
  type := msgCreateSessionResp
  sequence := 5
  payload := encodeIEs
    ([{ type := ieCause, payload := [causeRequestAccepted, 0] },
      { type := iePAA, payload := [pdnTypeIPv4, 10, 0, 0, 1] },
      fteidIE 1 ifaceS2BPGWGTPC 0x101 (some (.v4 0xc0000209))] ++ contexts)

def defaultBearer (ebi : UInt8) : Ie :=
  bearerContextIE [{ type := ieEBI, payload := [ebi] },
    fteidIE 5 ifaceS2BPGWGTPU 0x201 (some (.v4 0xc0000209))]

def bearerOf (contexts : List Ie) : Option (UInt8 × UInt32 × Bool) := do
  let ies ← decodeIEs (sessionResponse contexts).payload
  let r ← parseCreateSessionResponse { pgwGTPC := .v4 0xc0000209 } (sessionResponse contexts) 1 2
  some (r.ebi, r.pgwUserTEID, FromOneContext ies r)

example : bearerOf [defaultBearer 5] = some (5, 0x201, true) := by decide +kernel

def defaultResult : CreateSessionResult :=
  { paa := 0x0a000001, pgwControlTEID := 0x101, pgwUserTEID := 0x201, localControlTEID := 1
    localUserTEID := 2, ebi := 5, pgwControlIP := some (.v4 0xc0000209), pgwUserIP := 0xc0000209 }

end Runs
end Epdg.S2b
