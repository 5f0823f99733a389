import Epdg.S2b.Responses
import Mathlib.Data.List.Perm.Basic

/-!
The order of the elements in a Bearer Context of a Create Bearer Request. The parser keeps, for each
type of element that it reads, the last one; it looks at neither the instance nor, for an F-TEID,
the interface.
-/
namespace Epdg.S2b
variable {type : UInt8} {x y : Ie} {children : List Ie}

section Note
variable {ctx : CreateBearerContext} {x : Ie}

end Note

section Request
variable {req req' : Message} {ies ies' before after : List Ie} {top top' : Ie}
  {children children' : List Ie}

section
variable (htype : top.type = ieBearerContext)
include htype

end

end Request

section Runs

def bearerRequest (children : List Ie) : Message :=
  { type := msgCreateBearerReq, teid := 0x301, hasTEID := true, sequence := 7
    payload := encodeIEs [{ type := ieEBI, payload := [5] }, bearerContextIE children] }

end Runs
end Epdg.S2b
