import Epdg.Net

/-!
Discovery of the PGW's control address (`internal/pgwdiscovery/discovery.go`).

The answers of the DNS are parameters: the records of the NAPTR query, and what the lookups of hosts
and services return. `sort.Slice` promises a sorted permutation and nothing about records of the
same order and preference.
-/
namespace Epdg.PgwDiscovery
open Bytes

inductive Method where
  | static | dnsS2B | dnsS5S8
  deriving DecidableEq, Repr

structure Config where
  dnsEnabled : Bool
  allowS5S8Fallback : Bool
  staticPGWC : Bytes
  mcc : Bytes
  mnc : Bytes
  deriving DecidableEq, Repr

structure NaptrRecord where
  order : UInt16
  preference : UInt16
  flags : Bytes
  service : Bytes
  replacement : Bytes
  deriving DecidableEq, Repr

inductive Rr where
  | naptr (order preference : UInt16) (flags service replacement : Bytes)
  | other
  deriving DecidableEq, Repr

inductive DiscoveryError where
  | query
  | noMatch (fqdn : Bytes) (s5s8Fallback : Bool)
  deriving DecidableEq, Repr

structure Resolver where
  lookupHost : Bytes → Option (List Bytes)
  lookupSRV : Bytes → Option (List Bytes)
  parseIP : Bytes → Option IP

def apnFQDN (apn mcc mnc : Bytes) : Bytes :=
  apn ++ ascii ".apn.epc.mnc" ++ mnc ++ ascii ".mcc" ++ mcc ++ ascii ".3gppnetwork.org"

def contains (s sub : Bytes) : Bool :=
  (List.range (s.length + 1)).any fun i => sub.isPrefixOf (s.drop i)

def isS2BService (svc : Bytes) : Bool :=
  contains svc (ascii "x-3gpp-pgw") && contains svc (ascii "x-s2b-gtp")

def isS5S8Service (svc : Bytes) : Bool :=
  contains svc (ascii "x-3gpp-pgw") &&
    (contains svc (ascii "x-s5-gtp") || contains svc (ascii "x-s8-gtp"))

def trimDot (s : Bytes) : Bytes := if s.getLast? = some 0x2e then s.dropLast else s

def trimQuotes (s : Bytes) : Bytes :=
  ((s.dropWhile (· == 0x22)).reverse.dropWhile (· == 0x22)).reverse

def toLower (c : UInt8) : UInt8 := if 0x41 ≤ c && c ≤ 0x5a then c + 0x20 else c

def naptrRecords (answer : List Rr) : List NaptrRecord :=
  answer.filterMap fun
    | .naptr order preference flags service replacement =>
      some { order, preference, flags := (trimQuotes flags).map toLower, service
             replacement := trimDot replacement }
    | .other => none

def firstIPv4 (R : Resolver) (addrs : List Bytes) : Option IP :=
  addrs.findSome? fun s => (R.parseIP s).bind IP.to4

def resolveNAPTR (R : Resolver) (r : NaptrRecord) : Option IP :=
  if r.flags = ascii "a" then (R.lookupHost r.replacement).bind (firstIPv4 R)
  else if r.flags = ascii "s" then
    (R.lookupSRV r.replacement).bind fun targets =>
      targets.findSome? fun target => (R.lookupHost (trimDot target)).bind (firstIPv4 R)
  else none

def NaptrRecord.less (a b : NaptrRecord) : Bool :=
  if a.order ≠ b.order then a.order < b.order else a.preference < b.preference

structure Sorter where
  sort : List NaptrRecord → List NaptrRecord
  perm : ∀ records, (sort records).Perm records
  sorted : ∀ records, (sort records).Pairwise fun a b => b.less a = false

def firstResolved (R : Resolver) (service : Bytes → Bool) (records : List NaptrRecord) :
    Option IP :=
  records.findSome? fun r => if service r.service then resolveNAPTR R r else none

def discoverViaDNS (srt : Sorter) (R : Resolver) (cfg : Config) (fqdn : Bytes)
    (answer : Option (List Rr)) : Except DiscoveryError (IP × Method) :=
  match answer with
  | none => .error .query
  | some answer =>
    let records := srt.sort (naptrRecords answer)
    match firstResolved R isS2BService records with
    | some ip => .ok (ip, .dnsS2B)
    | none =>
      match if cfg.allowS5S8Fallback then firstResolved R isS5S8Service records else none with
      | some ip => .ok (ip, .dnsS5S8)
      | none => .error (.noMatch fqdn cfg.allowS5S8Fallback)

def discover (srt : Sorter) (R : Resolver) (cfg : Config) (query : Bytes → Option (List Rr))
    (apn : Bytes) : Option IP :=
  if cfg.dnsEnabled = false then R.parseIP cfg.staticPGWC
  else
    let fqdn := apnFQDN apn cfg.mcc cfg.mnc
    match discoverViaDNS srt R cfg fqdn (query fqdn) with
    | .ok (ip, _) => some ip
    | .error _ => R.parseIP cfg.staticPGWC

end Epdg.PgwDiscovery
