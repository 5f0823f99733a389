import Epdg.Net

/-!
The configuration file and its validation (`internal/config/config.go`, `validate.go`).

Of the configuration the fields are kept that `Validate` checks or that the Create Session Request
is made of. Texts are byte strings, as in the source, which indexes them by byte.
-/
namespace Epdg.Configuration
open Bytes

structure EPDGConfig where
  name : Bytes
  realm : Bytes
  mcc : Bytes
  mnc : Bytes
  mncLength : Int
  deriving DecidableEq, Repr

structure SWMConfig where
  localAddr : Bytes
  peerAddr : Bytes
  peerPort : Int
  proto : Bytes
  originHost : Bytes
  originRealm : Bytes
  destinationRealm : Bytes
  watchdogIntervalSeconds : Int
  watchdogTimeoutSeconds : Int
  deriving DecidableEq, Repr

structure BPFConfig where
  xdpAttachMode : Bytes
  xdpInterface : Bytes
  mapMaxEntries : Int
  deriving DecidableEq, Repr

structure GTPConfig where
  localGTPC : Bytes
  localGTPU : Bytes
  localPort : Int
  pgwGTPC : Bytes
  mtu : Int
  bpf : BPFConfig
  deriving DecidableEq, Repr

structure PCOConfig where
  enabled : Bool := false
  requestDNSv4 : Bool := false
  requestDNSv6 : Bool := false
  requestPCSCFv4 : Bool := false
  requestPCSCFv6 : Bool := false
  includeAPCO : Bool := false
  deriving DecidableEq, Repr

structure APIConfig where
  enabled : Bool := false
  listenAddress : Bytes := []
  listenPort : Int := 0
  deriving DecidableEq, Repr

structure Config where
  epdg : EPDGConfig
  loggingLevel : Bytes
  swm : SWMConfig
  gtp : GTPConfig
  apnDefault : Bytes
  pco : PCOConfig := {}
  shutdownTimeoutSeconds : Int
  api : APIConfig := {}
  deriving DecidableEq, Repr

structure FieldError where
  field : String
  problem : String
  deriving DecidableEq, Repr

def FieldError.text (e : FieldError) : String := e.field ++ " " ++ e.problem

def check (ok : Prop) [Decidable ok] (field problem : String) : List FieldError :=
  if ok then [] else [⟨field, problem⟩]

def require (value : Bytes) (name : String) : List FieldError :=
  check (value ≠ []) name "is required"

def requireIP (parseIP : Bytes → Option IP) (value : Bytes) (name : String) : List FieldError :=
  require value name ++
    check (value = [] ∨ (parseIP value).isSome) name "must be an IP address"

def requirePort (value : Int) (name : String) : List FieldError :=
  check (0 < value ∧ value ≤ 65535) name "must be between 1 and 65535"

def requirePositive (value : Int) (name : String) : List FieldError :=
  check (0 < value) name "must be greater than 0"

def toLower (b : UInt8) : UInt8 := if 0x41 ≤ b ∧ b ≤ 0x5a then b + 0x20 else b

def EPDGConfig.validate (c : EPDGConfig) : List FieldError :=
  require c.name "epdg.name" ++ require c.realm "epdg.realm" ++ require c.mcc "epdg.mcc" ++
    require c.mnc "epdg.mnc" ++
    check (c.mncLength = 2 ∨ c.mncLength = 3) "epdg.mnc_length" "must be 2 or 3"

def validateLogging (level : Bytes) : List FieldError :=
  check (level ∈ ["debug", "info", "warn", "warning", "error"].map ascii) "logging.level"
    "must be one of debug, info, warn, error"

def SWMConfig.validate (parseIP : Bytes → Option IP) (c : SWMConfig) : List FieldError :=
  requireIP parseIP c.localAddr "swm.local_addr" ++ requireIP parseIP c.peerAddr "swm.peer_addr" ++
    requirePort c.peerPort "swm.peer_port" ++
    check (c.proto.map toLower ∈ ["tcp", "sctp"].map ascii) "swm.proto" "must be tcp or sctp" ++
    requirePositive c.watchdogIntervalSeconds "swm.watchdog_interval_seconds" ++
    requirePositive c.watchdogTimeoutSeconds "swm.watchdog_timeout_seconds" ++
    require c.originHost "swm.origin_host" ++ require c.originRealm "swm.origin_realm" ++
    require c.destinationRealm "swm.destination_realm"

def GTPConfig.validate (parseIP : Bytes → Option IP) (c : GTPConfig) : List FieldError :=
  requireIP parseIP c.localGTPC "gtp.local_gtpc" ++
    requireIP parseIP c.localGTPU "gtp.local_gtpu" ++ requirePort c.localPort "gtp.local_port" ++
    requireIP parseIP c.pgwGTPC "gtp.pgw_gtpc" ++
    check (576 ≤ c.mtu ∧ c.mtu ≤ 9000) "gtp.mtu" "must be between 576 and 9000"

def BPFConfig.validate (c : BPFConfig) : List FieldError :=
  check (c.xdpAttachMode ∈ ["generic", "native", "offload"].map ascii) "bpf.xdp_attach_mode"
      "must be generic, native, or offload" ++
    requirePositive c.mapMaxEntries "bpf.map_max_entries" ++
    require c.xdpInterface "bpf.xdp_interface"

def APIConfig.validate (parseIP : Bytes → Option IP) (c : APIConfig) : List FieldError :=
  if c.enabled then
    requireIP parseIP c.listenAddress "api.listen_address" ++
      requirePort c.listenPort "api.listen_port"
  else []

def Config.validate (parseIP : Bytes → Option IP) (c : Config) : List FieldError :=
  c.epdg.validate ++ validateLogging c.loggingLevel ++ c.swm.validate parseIP ++
    c.gtp.validate parseIP ++ require c.apnDefault "apn.default" ++
    requirePositive c.shutdownTimeoutSeconds "shutdown.timeout_seconds" ++ c.gtp.bpf.validate ++
    c.api.validate parseIP

structure Accepted (parseIP : Bytes → Option IP) where
  config : Config
  valid : config.validate parseIP = []

theorem check_eq_nil_iff {ok : Prop} [Decidable ok] {field problem : String} :
    check ok field problem = [] ↔ ok := by
  unfold check
  simp_all

theorem require_eq_nil_iff {value : Bytes} {name : String} :
    require value name = [] ↔ value ≠ [] := check_eq_nil_iff

def Accepted.withPLMN {parseIP : Bytes → Option IP} (cfg : Accepted parseIP) (mcc mnc : Bytes)
    (hmcc : mcc ≠ []) (hmnc : mnc ≠ []) : Accepted parseIP where
  config := { cfg.config with epdg := { cfg.config.epdg with mcc, mnc } }
  valid := by
    have h := cfg.valid
    simp only [Config.validate, EPDGConfig.validate, List.append_eq_nil_iff, require_eq_nil_iff]
      at h ⊢
    grind

end Epdg.Configuration
