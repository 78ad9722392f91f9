import Nightjar.Correlator.FlowCorrelation

namespace Nightjar.Correlator

open Lib Lib.Strings

def isHexDigit (c : Char) : Bool :=
  c.isDigit || decide ('a' ≤ c ∧ c ≤ 'f') || decide ('A' ≤ c ∧ c ≤ 'F')

def isUUID (s : String) : Bool :=
  decide (s.toList.length = 36) &&
    s.toList.zipIdx.all (fun p => if p.2 ∈ [8, 13, 18, 23] then decide (p.1 = '-') else isHexDigit p.1)

/-- What the names in the key of a flow must not hold for the key to be read back. -/
structure NoColons (drop : FlowDrop) : Prop where
  sourcePod : ':' ∉ drop.source.podName.toList
  destPod : ':' ∉ drop.destination.podName.toList
  protocol : ':' ∉ drop.protocol.toList

def DistinctFlows (d d' : FlowDrop) : Prop :=
  d.source.ns ≠ d'.source.ns ∨ d.source.podName ≠ d'.source.podName ∨
    d.destination.ns ≠ d'.destination.ns ∨ d.destination.podName ≠ d'.destination.podName ∨
    d.protocol ≠ d'.protocol ∨ d.destinationPort ≠ d'.destinationPort

/-- The flows agree in everything that goes into the key. -/
structure SameKeyParts (d d' : FlowDrop) : Prop where
  sourcePod : d.source.podName = d'.source.podName
  destPod : d.destination.podName = d'.destination.podName
  protocol : d.protocol = d'.protocol
  destPort : d.destinationPort = d'.destinationPort

theorem toString_port_inj {m n : UInt32} (h : toString m = toString n) : m = n :=
  UInt32.toNat_inj.mp (repr_injective h)

theorem flowKey_eq_iff {d d' : FlowDrop} (hd : NoColons d) (hd' : NoColons d') {c c' : Constraint} :
    flowKey d c = flowKey d' c' ↔ SameKeyParts d d' ∧ c.uid = c'.uid := by
  constructor
  · intro h
    have hsplit {a b s t : String} (ha : ':' ∉ a.toList) (hb : ':' ∉ b.toList) :
        a ++ (":" ++ s) = b ++ (":" ++ t) ↔ a = b ∧ s = t := by
      have hcolon : (":" : String).toList = [':'] := rfl
      rw [← append_sep_inj hcolon ha hb, String.append_assoc, String.append_assoc]
    rw [flowKey, flowKey, DedupeKey.mk.injEq] at h
    simp only [String.append_assoc, String.append_right_inj] at h
    obtain ⟨htext, huid⟩ := h
    rw [hsplit hd.sourcePod hd'.sourcePod, hsplit hd.destPod hd'.destPod, hsplit hd.protocol hd'.protocol] at htext
    obtain ⟨hsource, hdest, hprotocol, hport⟩ := htext
    exact ⟨⟨hsource, hdest, hprotocol, toString_port_inj hport⟩, huid⟩
  · rintro ⟨h, huid⟩
    rw [flowKey, flowKey, h.sourcePod, h.destPod, h.protocol, h.destPort, huid]

theorem isUUID_flowKey (d : FlowDrop) (c : Constraint) : isUUID (flowKey d c).eventUID = false := by
  obtain ⟨rest, hrest⟩ : ∃ rest, (flowKey d c).eventUID.toList = 'f' :: 'l' :: rest := by
    refine ⟨"ow:".toList ++ (d.source.podName ++ ":" ++ d.destination.podName ++ ":" ++ d.protocol ++ ":" ++
      toString d.destinationPort).toList, ?_⟩
    simp [flowKey]
  have hl : isHexDigit 'l' = false := by decide
  rw [isUUID, hrest]
  simp [List.zipIdx_cons, hl]

theorem flowKey_ne_key (d : FlowDrop) (c : Constraint) {event : Event} (c' : Constraint)
    (huuid : isUUID event.uid = true) : flowKey d c ≠ key event c' := by
  intro h
  have huid : (flowKey d c).eventUID = event.uid := congrArg DedupeKey.eventUID h
  rw [← huid, isUUID_flowKey] at huuid
  cases huuid

section Calls
variable [LabelSelectors] {first second : FlowCall} {seenPairs : Dedupe.Cache DedupeKey} {c : Constraint}

namespace FlowCall

/-- Where the constraint matches, it was not notified for the flow less than a window ago. -/
def FreshFor (call : FlowCall) (seenPairs : Dedupe.Cache DedupeKey) (c : Constraint) : Prop :=
  ∀ p ∈ call.places, p.2.constraint = c → correlates call.drop p.1 c = true →
    (tryMarkSeen seenPairs (flowKey call.drop c) p.2.now).1 = true

def LetThrough (call : FlowCall) (seenPairs : Dedupe.Cache DedupeKey) (c : Constraint) : Prop :=
  ∃ p ∈ call.places, p.2.constraint = c ∧ correlates call.drop p.1 c = true ∧
    (tryMarkSeen seenPairs (flowKey call.drop c) p.2.now).1 = true

end FlowCall

theorem lookup_handleFlowDrop (hdone : first.Completes) {k : DedupeKey}
    (hk : ∀ c', flowKey first.drop c' = k → ¬ first.LetThrough seenPairs c') :
    (first.handleFlowDrop seenPairs).seenPairs.lookup k = seenPairs.lookup k := by
  rw [handleFlowDrop_eq hdone]
  rcases lookup_or_marked first.drop ⟨seenPairs, []⟩ first.places k with hsame | ⟨⟨p, hp, hc, rfl, hok⟩, -⟩
  · exact hsame
  · exact absurd ⟨p, hp, rfl, hc, hok⟩ (hk p.2.constraint rfl)

theorem freshFor_after (hdone : first.Completes) (hfresh : second.FreshFor seenPairs c)
    (hk : ∀ c', flowKey first.drop c' = flowKey second.drop c → ¬ first.LetThrough seenPairs c') :
    second.FreshFor (first.handleFlowDrop seenPairs).seenPairs c := by
  intro p hp hpc hc
  have hlookup := lookup_handleFlowDrop hdone hk
  exact (Dedupe.tryMark_fst_congr dedupe _ _ p.2.now hlookup).trans (hfresh p hp hpc hc)

theorem notified_of_freshFor (hsent : second.Sends) (hfresh : second.FreshFor seenPairs c) (hc : second.Matches c) :
    flowDropNotification second.drop c ∈ (second.handleFlowDrop seenPairs).emitted := by
  obtain ⟨p, hp, rfl, hcorrelates⟩ := hc
  exact notified_of_fresh hsent hp hcorrelates (hfresh p hp rfl hcorrelates)

theorem not_freshFor_after (hdone : first.Completes) (hlet : first.LetThrough seenPairs c) (hc : second.Matches c)
    (hk : flowKey second.drop c = flowKey first.drop c)
    (hwindow : ∀ p ∈ first.places, ∀ q ∈ second.places, q.2.now - p.2.now < dedupeWindow) :
    ¬ second.FreshFor (first.handleFlowDrop seenPairs).seenPairs c := by
  obtain ⟨p, hp, rfl, hcorrelates, hok⟩ := hlet
  obtain ⟨r, hr, hmarks⟩ := marked_of_fresh (s := ⟨seenPairs, []⟩) hp hcorrelates hok
  obtain ⟨q, hq, hqc, hqcorrelates⟩ := hc
  intro hfresh
  have hagain := hfresh q hq hqc hqcorrelates
  have hlookup := hmarks.lookup
  rw [← handleFlowDrop_eq hdone, ← hk] at hlookup
  have hgap : dedupeWindow ≤ q.2.now - r.2.now := (Dedupe.tryMark_fst _ _ _ _).mp hagain _ hlookup
  have hin := hwindow r hr q hq
  omega

theorem letThrough_of_uid {c' : Constraint} (hindex : c ∈ first.index.all) (huid : c'.uid = c.uid)
    (h : first.LetThrough seenPairs c') : first.LetThrough seenPairs c := by
  obtain ⟨p, hp, rfl, hcorrelates, hok⟩ := h
  have hlookup := Indexer.mem_all.mp (FlowCall.mem_all_of_mem_places hp)
  rw [huid, Indexer.mem_all.mp hindex] at hlookup
  obtain rfl := Option.some.inj hlookup
  exact ⟨p, hp, rfl, hcorrelates, hok⟩

/-- The key of a flow names the pods but not their namespaces. -/
theorem distinct_flows_iff (first second : FlowCall) (seenPairs : Dedupe.Cache DedupeKey) (c : Constraint)
    (hcolons : NoColons first.drop) (hcolons' : NoColons second.drop) (hdone : first.Completes)
    (hfresh : second.FreshFor seenPairs c) (hc : first.Matches c) (hc' : second.Matches c)
    (hwindow : ∀ p ∈ first.places, ∀ q ∈ second.places, q.2.now - p.2.now < dedupeWindow) :
    ((DistinctFlows first.drop second.drop →
        second.FreshFor (first.handleFlowDrop seenPairs).seenPairs c ∧
        (second.Sends → flowDropNotification second.drop c ∈
          (second.handleFlowDrop (first.handleFlowDrop seenPairs).seenPairs).emitted)) ∧
      ∀ (event : Event) (c' : Constraint), isUUID event.uid = true →
        flowKey first.drop c ≠ key event c' ∧ flowKey second.drop c ≠ key event c') ↔
    ¬ (SameKeyParts first.drop second.drop ∧
      (first.drop.source.ns ≠ second.drop.source.ns ∨ first.drop.destination.ns ≠ second.drop.destination.ns) ∧
      first.LetThrough seenPairs c) := by
  constructor
  · rintro ⟨hnotified, -⟩ ⟨hsame, hns, hlet⟩
    have hkey : flowKey second.drop c = flowKey first.drop c :=
      ((flowKey_eq_iff hcolons hcolons').mpr ⟨hsame, rfl⟩).symm
    apply not_freshFor_after hdone hlet hc' hkey hwindow
    have hdistinct : DistinctFlows first.drop second.drop := by
      rcases hns with hns | hns
      · exact .inl hns
      · exact .inr (.inr (.inl hns))
    exact (hnotified hdistinct).1
  · intro hcond
    refine ⟨fun hdistinct => ?_, fun event c'' huuid => ⟨flowKey_ne_key _ _ _ huuid, flowKey_ne_key _ _ _ huuid⟩⟩
    have hafter : second.FreshFor (first.handleFlowDrop seenPairs).seenPairs c := by
      apply freshFor_after hdone hfresh
      intro c'' hkey hlet
      obtain ⟨hsame, huid⟩ := (flowKey_eq_iff hcolons hcolons').mp hkey
      obtain ⟨p, hp, rfl, -⟩ := hc
      apply hcond
      refine ⟨hsame, ?_, letThrough_of_uid (FlowCall.mem_all_of_mem_places hp) huid hlet⟩
      rcases hdistinct with h | h | h | h | h | h
      · exact .inl h
      · exact absurd hsame.sourcePod h
      · exact .inr h
      · exact absurd hsame.destPod h
      · exact absurd hsame.protocol h
      · exact absurd hsame.destPort h
    exact ⟨hafter, fun hsent => notified_of_freshFor hsent hafter hc'⟩

end Calls

section Sample
attribute [local instance] LabelSelectors.model

def clusterEgress : Constraint where
  uid := "c-egress"
  source := ⟨"cilium.io", "v2", "ciliumclusterwidenetworkpolicies"⟩
  name := "egress"
  ns := ""
  constraintType := .networkEgress
  effect := "restrict"
  severity := .warning
  summary := "CiliumClusterwideNetworkPolicy egress restricts egress to 1 rule(s)"

def egressIndex : Indexer := Indexer.new.applyAll [.upsert clusterEgress]

def statefulDrop (ns : String) (port : UInt32) : FlowDrop where
  source := { ns := ns, podName := "web-0" }
  destination := { ns := "db", podName := "db-0" }
  protocol := "TCP"
  destinationPort := port
  dropReason := .policy

def flowAt (drop : FlowDrop) (now : Int) : FlowCall := .instant egressIndex drop now

theorem stateful_drops_merged :
    DistinctFlows (statefulDrop "team-a" 5432) (statefulDrop "team-b" 5432) ∧
      ((flowAt (statefulDrop "team-a" 5432) 0).handleFlowDrop ∅).emitted.length = 1 ∧
      ((flowAt (statefulDrop "team-b" 5432) 1000000000).handleFlowDrop ∅).emitted.length = 1 ∧
      ((flowAt (statefulDrop "team-b" 5432) 1000000000).handleFlowDrop
        ((flowAt (statefulDrop "team-a" 5432) 0).handleFlowDrop ∅).seenPairs).emitted.length = 0 := by
  refine ⟨.inl (by decide), ?_, ?_, ?_⟩ <;> decide +kernel

theorem noColons_statefulDrop (ns : String) (port : UInt32) : NoColons (statefulDrop ns port) where
  sourcePod := show ':' ∉ "web-0".toList by decide
  destPod := show ':' ∉ "db-0".toList by decide
  protocol := show ':' ∉ "TCP".toList by decide

theorem matches_flowAt (port : UInt32) (now : Int) : (flowAt (statefulDrop "team-a" port) now).Matches clusterEgress :=
  ⟨("team-a", ⟨clusterEgress, now, .sent⟩), List.mem_cons_self, rfl, rfl⟩

theorem distinct_ports_notified :
    flowDropNotification (statefulDrop "team-a" 5433) clusterEgress ∈
      ((flowAt (statefulDrop "team-a" 5433) 1000000000).handleFlowDrop
        ((flowAt (statefulDrop "team-a" 5432) 0).handleFlowDrop ∅).seenPairs).emitted := by
  have hwindow : ∀ p ∈ (flowAt (statefulDrop "team-a" 5432) 0).places,
      ∀ q ∈ (flowAt (statefulDrop "team-a" 5433) 1000000000).places, q.2.now - p.2.now < dedupeWindow := by
    intro p hp q hq
    rw [(visit_of_mem_instant hp).1, (visit_of_mem_instant hq).1]
    decide
  have hnotified := (distinct_flows_iff (flowAt (statefulDrop "team-a" 5432) 0)
    (flowAt (statefulDrop "team-a" 5433) 1000000000) ∅ clusterEgress (noColons_statefulDrop _ _)
    (noColons_statefulDrop _ _) (sends_instant _ _ _).completes (fun _ _ _ _ => rfl) (matches_flowAt _ _)
    (matches_flowAt _ _) hwindow).mpr (fun h => absurd h.1.destPort (by decide))
  exact (hnotified.1 (.inr (.inr (.inr (.inr (.inr (by decide))))))).2 (sends_instant _ _ _)

end Sample

end Nightjar.Correlator
