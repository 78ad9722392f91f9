import Nightjar.Correlator

namespace Nightjar

open Lib

structure WorkloadRef where
  kind : String
  name : String
deriving DecidableEq, Repr

/-- What the correlator reads of a `hubble.Endpoint`. -/
structure Endpoint where
  ns : String
  podName : String
  labels : List (String × String) := []
  workloads : List WorkloadRef := []
deriving DecidableEq, Repr

inductive DropReason where
  | policy
  | policyL3
  | policyL4
  | policyL7
  | policyAuth
  | noNetworkPolicy
  | ingressDenied
  | egressDenied
  | invalidPacket
  | ttlExceeded
  | noMapping
  | invalidHeader
  | proxyRedirect
  | hostUnreachable
  | unknown
  | other (name : String)
deriving DecidableEq, Repr

def DropReason.isPolicyDrop : DropReason → Bool
  | policy | policyL3 | policyL4 | policyL7 | policyAuth | noNetworkPolicy | ingressDenied | egressDenied => true
  | _ => false

/-- What the correlator reads of a `hubble.FlowDrop`. -/
structure FlowDrop where
  source : Endpoint
  destination : Endpoint
  protocol : String
  destinationPort : UInt32
  dropReason : DropReason
deriving DecidableEq, Repr

structure FlowDropNotification where
  flowDrop : FlowDrop
  constraint : Constraint
  sourceNamespace : String
  sourcePodName : String
  sourceWorkload : String
  sourceLabels : List (String × String)
  destNamespace : String
  destPodName : String
  destWorkload : String
  destLabels : List (String × String)
  destPort : UInt32
  protocol : String

namespace Correlator

/-- The namespaces in which `handleFlowDrop` correlates a drop. `allowed` is the answer of
the limiter, which is asked for policy drops only. -/
def flowNamespaces (drop : FlowDrop) (allowed : Bool) : List String :=
  if !drop.dropReason.isPolicyDrop then []
  else if !allowed then []
  else
    (if drop.source.ns ≠ "" then [drop.source.ns] else []) ++
      if drop.destination.ns ≠ "" ∧ drop.destination.ns ≠ drop.source.ns then [drop.destination.ns] else []

def matchLabels (drop : FlowDrop) (ns : String) : List (String × String) :=
  if ns = drop.source.ns then drop.source.labels else drop.destination.labels

def correlates [LabelSelectors] (drop : FlowDrop) (ns : String) (c : Constraint) : Bool :=
  (decide (c.constraintType = .networkIngress) || decide (c.constraintType = .networkEgress)) &&
    Util.matchesLabelSelector c.workloadSelector (matchLabels drop ns)

def flowKey (drop : FlowDrop) (c : Constraint) : DedupeKey where
  eventUID := "flow:" ++ drop.source.podName ++ ":" ++ drop.destination.podName ++ ":" ++ drop.protocol ++ ":" ++
    toString drop.destinationPort
  constraintUID := c.uid

def firstWorkload (workloads : List WorkloadRef) : String :=
  match workloads with
  | [] => ""
  | w :: _ => w.name

def flowDropNotification (drop : FlowDrop) (c : Constraint) : FlowDropNotification where
  flowDrop := drop
  constraint := c
  sourceNamespace := drop.source.ns
  sourcePodName := drop.source.podName
  sourceWorkload := firstWorkload drop.source.workloads
  sourceLabels := drop.source.labels
  destNamespace := drop.destination.ns
  destPodName := drop.destination.podName
  destWorkload := firstWorkload drop.destination.workloads
  destLabels := drop.destination.labels
  destPort := drop.destinationPort
  protocol := drop.protocol

end Correlator

end Nightjar
