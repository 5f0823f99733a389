import Epdg.Lib.Bytes

/-!
Diameter AVPs as the SWm client reads them (`internal/diameter/message.go`):
decoding of an AVP list and the lookups on it.
-/
namespace Epdg.Diameter
open Bytes

def flagVendorAVP : UInt8 := 0x80

def avpUserName : UInt32 := 1
def avpResultCode : UInt32 := 268
def avpExperimentalResult : UInt32 := 297
def avpExperimentalResultCode : UInt32 := 298
def avpEAPPayload : UInt32 := 462
def avpEAPMasterSessionKey : UInt32 := 464
def avpServiceSelection : UInt32 := 493
def avpMaxRequestedBandwidthDL : UInt32 := 515
def avpMaxRequestedBandwidthUL : UInt32 := 516
def avpAPNConfiguration : UInt32 := 1430
def avpAMBR : UInt32 := 1435
def avpNon3GPPUserData : UInt32 := 1500
def vendor3GPP : UInt32 := 10415

structure AVP where
  code : UInt32
  vendorID : UInt32
  flags : UInt8
  data : Bytes
  deriving DecidableEq, Repr

def pad4 (n : Nat) : Nat := if n % 4 ≠ 0 then n + 4 - n % 4 else n

def decodeAVPsLoop : Nat → Bytes → Option (List AVP)
  | _, [] => some []
  | 0, _ :: _ => none
  | fuel + 1, data =>
    match data with
    | c0 :: c1 :: c2 :: c3 :: flags :: l0 :: l1 :: l2 :: _ =>
      let code := be32 [c0, c1, c2, c3]
      let length := be24 l0 l1 l2
      let vendor := flags &&& flagVendorAVP ≠ 0
      let headerSize := if vendor then 12 else 8
      let vendorID := if vendor then be32 (data.drop 8) else 0
      if vendor ∧ data.length < headerSize then none
      else if vendor ∧ vendorID = 0 then none
      else if length < headerSize ∨ data.length < length then none
      else if data.length < pad4 length then none
      else
        (decodeAVPsLoop fuel (data.drop (pad4 length))).map
          ({ code, vendorID, flags, data := (data.take length).drop headerSize } :: ·)
    | _ => none

def decodeAVPs (data : Bytes) : Option (List AVP) := decodeAVPsLoop data.length data

def findAVP (avps : List AVP) (code vendor : UInt32) : Option AVP :=
  avps.find? fun a => a.code = code && a.vendorID = vendor

def avpString (avps : List AVP) (code vendor : UInt32) : Bytes :=
  ((findAVP avps code vendor).map AVP.data).getD []

def avpUint32 (avps : List AVP) (code vendor : UInt32) : Option UInt32 :=
  match findAVP avps code vendor with
  | some a => if a.data.length < 4 then none else some (be32 a.data)
  | none => none

def experimentalResultCode (avps : List AVP) : Option UInt32 :=
  match findAVP avps avpExperimentalResult 0 with
  | some a =>
    match decodeAVPs a.data with
    | some children => avpUint32 children avpExperimentalResultCode 0
    | none => none
  | none => none

end Epdg.Diameter
