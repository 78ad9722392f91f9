import Nightjar.Correlator.FlowCorrelation
import Nightjar.Hubble.Client

namespace Nightjar.Correlator

open Lib Hubble

/-- The endpoint is a pod with the labels: the flow names them in any order, each with any source
before it. -/
structure Describes (e : FlowEndpoint) (labels : Table String String) : Prop where
  texts : ∃ source es, e.labels = labelTexts source es ∧ (es.map (fun b => ⟨b.1, b.2⟩)).Perm labels.entries ∧
    ∀ b ∈ es, ':' ∉ (source b.1).toList ∧ '=' ∉ b.1.toList

theorem lookup_convertEndpoint {e : FlowEndpoint} {labels : Table String String} (h : Describes e labels)
    (k : String) : (convertEndpoint (some e)).seen.labels.lookup k = labels.lookup k := by
  obtain ⟨source, es, htexts, hperm, hlabels⟩ := h
  have hseen : (convertEndpoint (some e)).seen.labels = ((parseLabels e.labels).getD ∅).bindings := rfl
  rw [hseen, Table.lookup_bindings, htexts]
  by_cases hne : es = []
  · subst hne
    have hempty : labels = ∅ := AList.ext (List.nil_perm.mp hperm)
    rw [hempty]
    rfl
  · rw [parseLabels_labelTexts hne hlabels]
    exact Table.lookup_foldl_insert_perm hperm k

def isNetwork (c : Constraint) : Bool :=
  decide (c.constraintType = .networkIngress) || decide (c.constraintType = .networkEgress)

section Notices
variable [LabelSelectors] {call : FlowCall} {seenPairs : Dedupe.Cache DedupeKey}

theorem emitted_in_namespace {drop : FlowDrop} {ns : String} {vs : List FlowVisit} {s : FlowState}
    {n : FlowDropNotification} (h : n ∈ (correlateFlowDropInNamespace drop ns vs s).emitted) :
    n ∈ s.emitted ∨ ∃ v ∈ vs, correlates drop ns v.constraint = true ∧ n = flowDropNotification drop v.constraint := by
  induction vs generalizing s with
  | nil => exact .inl h
  | cons v vs ih =>
      have hlater {t : FlowState} (ht : n ∈ (correlateFlowDropInNamespace drop ns vs t).emitted) :
          n ∈ t.emitted ∨ ∃ w ∈ v :: vs, correlates drop ns w.constraint = true ∧
            n = flowDropNotification drop w.constraint :=
        (ih ht).imp_right fun ⟨w, hw, hn⟩ => ⟨w, List.mem_cons_of_mem _ hw, hn⟩
      rw [correlateFlowDropInNamespace] at h
      cases hc : correlates drop ns v.constraint with
      | false =>
          rw [hc] at h
          exact hlater h
      | true =>
          rw [hc] at h
          simp only [Bool.not_true, Bool.false_eq_true, if_false] at h
          split at h
          · exact hlater h
          · split at h
            · rcases hlater h with h | h
              · rcases List.mem_append.mp h with h | h
                · exact .inl h
                · exact .inr ⟨v, List.mem_cons_self, hc, List.mem_singleton.mp h⟩
              · exact .inr h
            · have hkept := hlater h
              exact hkept
            · exact .inl h

theorem emitted_in_namespaces {nss : List String} {s : FlowState} {n : FlowDropNotification}
    (h : n ∈ (nss.foldl (fun s ns => correlateFlowDropInNamespace call.drop ns (call.visits ns) s) s).emitted) :
    n ∈ s.emitted ∨ ∃ ns ∈ nss, ∃ v ∈ call.visits ns, correlates call.drop ns v.constraint = true ∧
      n = flowDropNotification call.drop v.constraint := by
  induction nss generalizing s with
  | nil => exact .inl h
  | cons ns nss ih =>
      rcases ih h with h | ⟨ns', hns', hv⟩
      · exact (emitted_in_namespace h).imp_right fun hv => ⟨ns, List.mem_cons_self, hv⟩
      · exact .inr ⟨ns', List.mem_cons_of_mem _ hns', hv⟩

theorem emitted_sound {n : FlowDropNotification} (h : n ∈ (call.handleFlowDrop seenPairs).emitted) :
    ∃ ns ∈ flowNamespaces call.drop call.allowed, ∃ c ∈ call.index.byNamespace ns,
      correlates call.drop ns c = true ∧ n = flowDropNotification call.drop c := by
  rcases emitted_in_namespaces h with h | ⟨ns, hns, v, hv, hc, hn⟩
  · cases h
  · exact ⟨ns, hns, v.constraint, (call.perm ns).mem_iff.mp (List.mem_map_of_mem hv), hc, hn⟩

theorem mem_emitted_iff (hfresh : call.FreshIn seenPairs) (hsent : call.Sends) (c : Constraint) :
    flowDropNotification call.drop c ∈ (call.handleFlowDrop seenPairs).emitted ↔
      ∃ ns ∈ flowNamespaces call.drop call.allowed, c ∈ call.index.byNamespace ns ∧
        correlates call.drop ns c = true := by
  constructor
  · intro h
    obtain ⟨ns, hns, c', hc', hmatch, hn⟩ := emitted_sound h
    obtain rfl : c = c' := congrArg FlowDropNotification.constraint hn
    exact ⟨ns, hns, hc', hmatch⟩
  · rintro ⟨ns, hns, hc, hmatch⟩
    exact notified_in_namespace hsent hfresh hns hc hmatch

omit [LabelSelectors] in
theorem mem_flowNamespaces {drop : FlowDrop} {ns : String} : ns ∈ flowNamespaces drop true ↔
    drop.dropReason.isPolicyDrop = true ∧ ns ≠ "" ∧ (ns = drop.source.ns ∨ ns = drop.destination.ns) := by
  unfold flowNamespaces
  cases drop.dropReason.isPolicyDrop with
  | false => simp
  | true =>
      by_cases hsource : drop.source.ns = "" <;> by_cases hdest : drop.destination.ns = "" <;>
        by_cases hsame : drop.destination.ns = drop.source.ns <;> aesop

section Ends
variable {f : Flow} {now : Int} {src dst : FlowEndpoint} {srcLabels dstLabels : Table String String}
  {d : Hubble.FlowDrop}

omit [LabelSelectors] in
theorem ns_seen (hsrc : f.source = some src) (hdst : f.destination = some dst) (hd : convertFlow f now = some d) :
    d.seen.source.ns = src.ns ∧ d.seen.destination.ns = dst.ns := by
  obtain ⟨-, -, hsource, hdestination, -⟩ := convertFlow_eq_some hd
  rw [FlowDrop.seen, hsource, hdestination, hsrc, hdst]
  exact ⟨rfl, rfl⟩

omit [LabelSelectors] in
theorem isPolicyDrop_seen (hd : convertFlow f now = some d) :
    d.seen.dropReason.isPolicyDrop = f.dropReasonDesc.isPolicy := by
  obtain ⟨-, hreason, -⟩ := convertFlow_eq_some hd
  rw [← isPolicyDrop_parseDropReason, ← hreason]
  rfl

theorem correlates_seen [LabelSelectors.Lawful] (hsrc : f.source = some src) (hdst : f.destination = some dst)
    (hsrcLabels : Describes src srcLabels) (hdstLabels : Describes dst dstLabels) (hd : convertFlow f now = some d)
    (ns : String) (c : Constraint) : correlates d.seen ns c = true ↔ isNetwork c = true ∧
      Util.matchesLabelSelector c.workloadSelector (if ns = src.ns then srcLabels else dstLabels).bindings = true := by
  obtain ⟨-, -, hsource, hdestination, -⟩ := convertFlow_eq_some hd
  have hsrcMatch : Util.matchesLabelSelector c.workloadSelector d.seen.source.labels =
      Util.matchesLabelSelector c.workloadSelector srcLabels.bindings := by
    apply Util.matchesLabelSelector_congr
    intro k
    rw [FlowDrop.seen, hsource, hsrc, lookup_convertEndpoint hsrcLabels, Table.lookup_bindings]
  have hdstMatch : Util.matchesLabelSelector c.workloadSelector d.seen.destination.labels =
      Util.matchesLabelSelector c.workloadSelector dstLabels.bindings := by
    apply Util.matchesLabelSelector_congr
    intro k
    rw [FlowDrop.seen, hdestination, hdst, lookup_convertEndpoint hdstLabels, Table.lookup_bindings]
  rw [correlates, Bool.and_eq_true, matchLabels, (ns_seen hsrc hdst hd).1]
  split
  · rw [hsrcMatch]
    rfl
  · rw [hdstMatch]
    rfl

end Ends

/-- Which constraints a flow that Hubble reports leads to, when the limiter admits it, its keys are
fresh and the channel has room: those on network traffic that the index lists for the source's
namespace and that select the source pod by its labels, and for another namespace of the
destination those that select the destination pod, if the verdict is a drop of a policy. -/
theorem flow_notifies_iff [LabelSelectors.Lawful] {f : Flow} {now : Int} {src dst : FlowEndpoint}
    {srcLabels dstLabels : Table String String} (hsrc : f.source = some src) (hdst : f.destination = some dst)
    (hsrcLabels : Describes src srcLabels) (hdstLabels : Describes dst dstLabels)
    {d : Hubble.FlowDrop} (hd : convertFlow f now = some d) (hcall : call.drop = d.seen)
    (hallowed : call.allowed = true) (hfresh : call.FreshIn seenPairs) (hsent : call.Sends) (c : Constraint) :
    flowDropNotification call.drop c ∈ (call.handleFlowDrop seenPairs).emitted ↔
      f.dropReasonDesc.isPolicy = true ∧ isNetwork c = true ∧
        (src.ns ≠ "" ∧ c ∈ call.index.byNamespace src.ns ∧
            Util.matchesLabelSelector c.workloadSelector srcLabels.bindings = true ∨
          dst.ns ≠ "" ∧ dst.ns ≠ src.ns ∧ c ∈ call.index.byNamespace dst.ns ∧
            Util.matchesLabelSelector c.workloadSelector dstLabels.bindings = true) := by
  obtain ⟨hsrcNs, hdstNs⟩ := ns_seen hsrc hdst hd
  rw [mem_emitted_iff hfresh hsent, hallowed, hcall]
  simp only [mem_flowNamespaces, isPolicyDrop_seen hd, hsrcNs, hdstNs,
    correlates_seen hsrc hdst hsrcLabels hdstLabels hd]
  constructor
  · rintro ⟨ns, ⟨hp, hne, hns⟩, hc, hnetwork, hmatch⟩
    refine ⟨hp, hnetwork, ?_⟩
    by_cases hsame : ns = src.ns
    · rw [if_pos hsame] at hmatch
      exact .inl ⟨hsame ▸ hne, hsame ▸ hc, hmatch⟩
    · rw [if_neg hsame] at hmatch
      obtain rfl := hns.resolve_left hsame
      exact .inr ⟨hne, hsame, hc, hmatch⟩
  · rintro ⟨hp, hnetwork, ⟨hne, hc, hmatch⟩ | ⟨hne, hother, hc, hmatch⟩⟩
    · exact ⟨src.ns, ⟨hp, hne, .inl rfl⟩, hc, hnetwork, by rwa [if_pos rfl]⟩
    · exact ⟨dst.ns, ⟨hp, hne, .inr rfl⟩, hc, hnetwork, by rwa [if_neg hother]⟩

/-- No notification without a flow: what the correlator makes of the drops it has read from the
client, with any cache and any answers of the limiter and its channel, is about flows that the
relay has sent as dropped by a policy, and about constraints on network traffic that the index
lists for the namespace of one end. -/
theorem notification_has_flow {s : ClientRun} (h : ClientRun.system.Reachable s) {d : Hubble.FlowDrop}
    (hd : d ∈ s.drops.received) (hcall : call.drop = d.seen) {n : FlowDropNotification}
    (hn : n ∈ (call.handleFlowDrop seenPairs).emitted) :
    (∃ f now, (some f, now) ∈ s.responses ∧ f.verdict = .dropped ∧ f.dropReasonDesc.isPolicy = true ∧
        convertFlow f now = some d ∧ n.flowDrop = d.seen) ∧
      isNetwork n.constraint = true ∧
      ∃ ns, ns ≠ "" ∧ (ns = d.source.ns ∨ ns = d.destination.ns) ∧ n.constraint ∈ call.index.byNamespace ns := by
  obtain ⟨ns, hns, c, hc, hmatch, rfl⟩ := emitted_sound hn
  have hallowed : call.allowed = true := by
    by_contra hnot
    simp [flowNamespaces, hnot] at hns
  rw [hallowed, mem_flowNamespaces, hcall] at hns
  obtain ⟨hpolicy, hne, hend⟩ := hns
  have hconverted : d ∈ s.converted := by
    have hsublist := (ClientRun.sound_of_reaches h).delivers.settled
    obtain ⟨settled, hsettled, hsub, -⟩ := hsublist
    rw [hsettled]
    apply List.mem_append_left
    apply hsub.subset
    rw [s.drops.conserved]
    exact List.mem_append_left _ hd
  obtain ⟨⟨flow, now⟩, hresponse, hdrop⟩ := List.mem_filterMap.mp hconverted
  obtain ⟨f, rfl, hf⟩ := Option.bind_eq_some_iff.mp hdrop
  obtain ⟨hverdict, hreason, -⟩ := convertFlow_eq_some hf
  refine ⟨⟨f, now, hresponse, hverdict, ?_, hf, hcall⟩, ?_, ns, hne, hend, hc⟩
  · rw [← isPolicyDrop_parseDropReason, ← hreason]
    exact hpolicy
  · rw [correlates, Bool.and_eq_true] at hmatch
    exact hmatch.1

end Notices

section Sample
attribute [local instance] LabelSelectors.model

def webFlowDrop : Hubble.FlowDrop := (convertFlow (ClientRun.webDrop "a") 0).get rfl

def webCall : FlowCall := .instant webIndex webFlowDrop.seen 0

theorem describes_app (source app : String) (hsource : ':' ∉ source.toList) (identity : UInt32) (ns podName : String)
    (workloads : List (Option WorkloadRef)) :
    Describes ⟨identity, ns, podName, [source ++ ":" ++ ("app" ++ "=" ++ app)], workloads⟩
      (AList.insert "app" app ∅) := by
  refine ⟨fun _ => source, [("app", app)], rfl, List.Perm.refl _, ?_⟩
  simp [hsource]

theorem webIngress_mem : webIngress ∈ webIndex.byNamespace "shared" :=
  Indexer.mem_byNamespace.mpr ⟨Indexer.mem_all.mpr rfl, by decide⟩

theorem web_ingress_notified :
    flowDropNotification webCall.drop webIngress ∈ (webCall.handleFlowDrop ∅).emitted := by
  have := LabelSelectors.lawful_model
  have hdrop : convertFlow (ClientRun.webDrop "a") 0 = some webFlowDrop := (Option.some_get _).symm
  refine (flow_notifies_iff rfl rfl
    (describes_app "k8s" "client" (by decide) _ _ _ _) (describes_app "k8s" "web" (by decide) _ _ _ _)
    hdrop rfl rfl (freshIn_empty _) (sends_instant _ _ _) webIngress).mpr ?_
  exact ⟨rfl, rfl, .inr ⟨by decide, by decide, webIngress_mem, by decide +kernel⟩⟩

theorem web_notification_has_flow :
    (∃ f now, (some f, now) ∈ ClientRun.hungUpRun.responses ∧ f.verdict = .dropped ∧
        f.dropReasonDesc.isPolicy = true ∧ convertFlow f now = some webFlowDrop) ∧
      webIngress ∈ webIndex.byNamespace "shared" := by
  have hread : webFlowDrop ∈ ClientRun.hungUpRun.drops.received := List.mem_cons_self
  have hns : "shared" ∈ flowNamespaces webCall.drop webCall.allowed := by decide
  have hemitted : flowDropNotification webCall.drop webIngress ∈ (webCall.handleFlowDrop ∅).emitted :=
    notified_in_namespace (sends_instant _ _ _) (freshIn_empty _) hns webIngress_mem (by decide +kernel)
  obtain ⟨⟨f, now, hresponse, hverdict, hpolicy, hf, -⟩, -⟩ :=
    notification_has_flow ClientRun.reachable_hungUpRun hread rfl hemitted
  exact ⟨⟨f, now, hresponse, hverdict, hpolicy, hf⟩, webIngress_mem⟩

end Sample

end Nightjar.Correlator
