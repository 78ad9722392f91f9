import Nightjar.Correlator.FlowDrops
import Nightjar.Hubble.Labels

namespace Nightjar.Hubble

open Lib

inductive Verdict where
  | unknown
  | forwarded
  | dropped
  | error
  | audit
  | redirected
  | traced
  | translated
deriving DecidableEq, Repr

inductive DropReasonDesc where
  | policyDenied
  | policyDeny
  | authRequired
  | invalidIdentity
  | ctNoMapFound
  | fibLookupFailed
  | invalidSourceIP
  | invalidPacketDropped
  | ttlExceeded
  | proxyRedirectionNotSupportedForProtocol
  | other (code : Int)
deriving DecidableEq, Repr

def parseDropReason : DropReasonDesc → DropReason
  | .policyDenied | .policyDeny => .policy
  | .authRequired | .invalidIdentity => .policyAuth
  | .ctNoMapFound | .fibLookupFailed => .noMapping
  | .invalidSourceIP | .invalidPacketDropped => .invalidPacket
  | .ttlExceeded => .ttlExceeded
  | .proxyRedirectionNotSupportedForProtocol => .proxyRedirect
  | .other _ => .unknown

structure TCPFlags where
  syn : Bool
  ack : Bool
  fin : Bool
  rst : Bool
deriving DecidableEq, Repr

structure IPInfo where
  source : String := ""
  destination : String := ""
deriving DecidableEq, Repr

/-- A `flowpb.Endpoint`. The workloads are pointers, of which some may be nil. -/
structure FlowEndpoint where
  identity : UInt32
  ns : String
  podName : String
  labels : List String
  workloads : List (Option WorkloadRef)

inductive Layer4 where
  | tcp (sourcePort destinationPort : UInt32) (flags : Option TCPFlags)
  | udp (sourcePort destinationPort : UInt32)
  | icmpv4
  | icmpv6
  | other

/-- What `convertFlow` reads of a `flowpb.Flow`. -/
structure Flow where
  verdict : Verdict
  uuid : String
  dropReasonDesc : DropReasonDesc
  time : Option Int
  source : Option FlowEndpoint
  destination : Option FlowEndpoint
  ip : Option IPInfo
  l4 : Option Layer4

inductive Protocol where
  | unset
  | tcp
  | udp
  | icmp
  | unknown
deriving DecidableEq, Repr

def Protocol.text : Protocol → String
  | unset => ""
  | tcp => "TCP"
  | udp => "UDP"
  | icmp => "ICMP"
  | unknown => "UNKNOWN"

structure Endpoint where
  identity : UInt32 := 0
  ns : String := ""
  podName : String := ""
  labels : Option (Table String String) := none
  workloads : List WorkloadRef := []

structure L4Info where
  protocol : Protocol := .unset
  sourcePort : UInt32 := 0
  destinationPort : UInt32 := 0
  tcp : Option TCPFlags := none

structure FlowDrop where
  time : Int
  source : Endpoint
  destination : Endpoint
  ip : IPInfo
  l4 : L4Info
  dropReason : DropReason
  policyName : String := ""
  traceID : String

def convertEndpoint : Option FlowEndpoint → Endpoint
  | none => {}
  | some e =>
      { identity := e.identity
        ns := e.ns
        podName := e.podName
        labels := parseLabels e.labels
        workloads := e.workloads.filterMap id }

def convertL4 : Option Layer4 → L4Info
  | none => {}
  | some (.tcp sourcePort destinationPort flags) => ⟨.tcp, sourcePort, destinationPort, flags⟩
  | some (.udp sourcePort destinationPort) => ⟨.udp, sourcePort, destinationPort, none⟩
  | some .icmpv4 | some .icmpv6 => { protocol := .icmp }
  | some .other => { protocol := .unknown }

/-- `convertFlow`, given the time of the call. -/
def convertFlow (f : Flow) (now : Int) : Option FlowDrop :=
  if f.verdict ≠ .dropped then none
  else
    some {
      traceID := f.uuid
      dropReason := parseDropReason f.dropReasonDesc
      time := f.time.getD now
      source := convertEndpoint f.source
      destination := convertEndpoint f.destination
      ip := f.ip.getD {}
      l4 := convertL4 f.l4 }

def Endpoint.seen (e : Endpoint) : Nightjar.Endpoint where
  ns := e.ns
  podName := e.podName
  labels := (e.labels.getD ∅).bindings
  workloads := e.workloads

def FlowDrop.seen (d : FlowDrop) : Nightjar.FlowDrop where
  source := d.source.seen
  destination := d.destination.seen
  protocol := d.l4.protocol.text
  destinationPort := d.l4.destinationPort
  dropReason := d.dropReason

def DropReasonDesc.isPolicy : DropReasonDesc → Bool
  | .policyDenied | .policyDeny | .authRequired | .invalidIdentity => true
  | _ => false

theorem isPolicyDrop_parseDropReason (r : DropReasonDesc) : (parseDropReason r).isPolicyDrop = r.isPolicy := by
  cases r <;> rfl

theorem convertFlow_eq_some {f : Flow} {now : Int} {d : FlowDrop} (h : convertFlow f now = some d) :
    f.verdict = .dropped ∧ d.dropReason = parseDropReason f.dropReasonDesc ∧ d.source = convertEndpoint f.source ∧
      d.destination = convertEndpoint f.destination ∧ d.l4 = convertL4 f.l4 ∧ d.traceID = f.uuid := by
  unfold convertFlow at h
  split at h
  · cases h
  · rename_i hverdict
    cases h
    exact ⟨not_not.mp hverdict, rfl, rfl, rfl, rfl, rfl⟩

end Nightjar.Hubble
