import Nightjar.Indexer
import Nightjar.Lib.SlidingWindow

namespace Nightjar

open Lib

structure ObjectReference where
  apiVersion : String := ""
  kind : String
  name : String
  ns : String
  uid : UID := ""
deriving DecidableEq, Repr

/-- What the program reads and sets of a `corev1.Event`. Maps are lists of their
bindings, times the texts they are written as. -/
structure Event where
  uid : UID := ""
  generateName : String := ""
  ns : String
  labels : List (String × String) := []
  annotations : List (String × String) := []
  involvedObject : ObjectReference
  reason : String := ""
  message : String := ""
  type : String
  component : String := ""
  firstTimestamp : String := ""
  lastTimestamp : String := ""
  count : Nat := 0
  reportingController : String := ""
  reportingInstance : String := ""
deriving DecidableEq, Repr

structure CorrelatedNotification where
  event : Event
  constraint : Constraint
  ns : String
  workloadName : String
  workloadKind : String

namespace Correlator

def dedupeWindow : Int := 5 * 60 * 1000000000

def notificationBuffer : Nat := 1000

structure DedupeKey where
  eventUID : String
  constraintUID : String
deriving DecidableEq, Repr

def dedupe : Dedupe where
  window := dedupeWindow
  cutoff now := now - dedupeWindow
  cutoff_le _ := le_refl _

def tryMarkSeen (seenPairs : Dedupe.Cache DedupeKey) (key : DedupeKey) (now : Int) : Bool × Dedupe.Cache DedupeKey :=
  dedupe.tryMark seenPairs key now

def cleanupDedupeCache (seenPairs : Dedupe.Cache DedupeKey) (now : Int) : Dedupe.Cache DedupeKey :=
  dedupe.sweep seenPairs now

/-- The constraints `handleEvent` goes through, up to the order of the index. -/
def candidates (allowed : Bool) (idx : Indexer) (event : Event) : List Constraint :=
  if !allowed ∨ event.involvedObject.ns = "" then [] else idx.byNamespace event.involvedObject.ns

def key (event : Event) (c : Constraint) : DedupeKey := ⟨event.uid, c.uid⟩

def notification (event : Event) (c : Constraint) : CorrelatedNotification where
  event := event
  constraint := c
  ns := event.involvedObject.ns
  workloadName := event.involvedObject.name
  workloadKind := event.involvedObject.kind

def send (channel : List CorrelatedNotification) (n : CorrelatedNotification) : List CorrelatedNotification :=
  if channel.length < notificationBuffer then channel ++ [n] else channel

end Correlator

end Nightjar
