import Nightjar.Correlator.FlowNotices
import Nightjar.Discovery.ClusterMirror
import Nightjar.SelectorForm

namespace Nightjar.Correlator

open Lib Lib.Strings Apimachinery Hubble Adapters Discovery

inductive Direction where
  | ingress
  | egress
deriving DecidableEq, Repr

def Direction.text : Direction → String
  | ingress => "Ingress"
  | egress => "Egress"

structure PolicySpec where
  podSelector : LabelSelector
  policyTypes : List Direction := []
  ingress : List Any := []
  egress : List Any := []

namespace PolicySpec

/-- The spec as it stands in an API object. -/
def object (s : PolicySpec) : Obj :=
  [("podSelector", .map s.podSelector.object)] ++ omittedSlice "ingress" s.ingress ++ omittedSlice "egress" s.egress ++
    omittedSlice "policyTypes" (s.policyTypes.map (fun d => .str d.text))

/-- The pods that the policy selects are isolated in the direction. Where it does not say for which, it is
for ingress, and for egress too if it has egress rules. -/
def Isolates (s : PolicySpec) (d : Direction) : Prop :=
  d ∈ s.policyTypes ∨ s.policyTypes = [] ∧ (d = .ingress ∨ s.egress ≠ [])

section Parse
variable [Apimachinery] {s : PolicySpec}

theorem extractPolicyTypes_object (s : PolicySpec) :
    NetworkPolicy.extractPolicyTypes s.object = s.policyTypes.map Direction.text := by
  have hfield : field s.object ["policyTypes"] =
      if s.policyTypes = [] then none else some (.slice ((s.policyTypes.map Direction.text).map .str)) := by
    simp [field, walk, object, omittedSlice, List.lookup_cons, List.lookup_append, lookup_omitempty, Function.comp_def]
  have hfound (xs : List String) : Util.safe nestedStringSlice (some s.object) ["policyTypes"] = some xs ↔
      field s.object ["policyTypes"] = some (.slice (xs.map .str)) :=
    Util.safe_eq_some.trans (nestedStringSlice_found _ _ xs)
  rw [NetworkPolicy.extractPolicyTypes, Util.safeNestedStringSlice, Util.omitted_of_found hfound hfield,
    Util.getD_omitted_list]

theorem podSelector_object (h : (s.podSelector.matchLabels.map Prod.fst).Nodup) :
    Util.safeNestedLabelSelector (some s.object) ["podSelector"] = some s.podSelector :=
  Util.safeNestedLabelSelector_object h rfl

variable [Unicode] {obj : Unstructured}

theorem parse_object (hspec : field obj.object ["spec"] = some (.map s.object)) :
    ∃ cs, NetworkPolicy.parse obj = .ok cs ∧ cs ≠ [] := by
  have hread : Util.safeNestedMap (some obj.object) ["spec"] = some s.object := Util.safeNestedMap_eq_some.mpr hspec
  rw [NetworkPolicy.parse, hread]
  refine ⟨_, rfl, ?_⟩
  rw [extractPolicyTypes_object, NetworkPolicy.containsPolicyType, NetworkPolicy.containsPolicyType]
  rcases s.policyTypes with _ | ⟨_ | _, ds⟩ <;> simp [Direction.text]

theorem of_mem_parse (hspec : field obj.object ["spec"] = some (.map s.object))
    (hkeys : (s.podSelector.matchLabels.map Prod.fst).Nodup) {cs : List Constraint}
    (h : NetworkPolicy.parse obj = .ok cs) {c : Constraint} (hc : c ∈ cs) :
    c.uid = getUID obj ∧ c.ns = getNamespace obj ∧ c.name = getName obj ∧ c.workloadSelector = some s.podSelector ∧
      isNetwork c = true := by
  have hread : Util.safeNestedMap (some obj.object) ["spec"] = some s.object := Util.safeNestedMap_eq_some.mpr hspec
  have hselector := podSelector_object hkeys
  rw [NetworkPolicy.parse, hread] at h
  cases h
  rcases List.mem_append.mp hc with hc | hc
  · split at hc
    · cases List.mem_singleton.mp hc
      exact ⟨rfl, rfl, rfl, hselector, rfl⟩
    · cases hc
  · split at hc
    · cases List.mem_singleton.mp hc
      exact ⟨rfl, rfl, rfl, hselector, rfl⟩
    · cases hc

end Parse

end PolicySpec

section Cause
variable [Apimachinery] [Unicode] {hs : List (Arrival Builtin)} {a : Arrival Builtin} {u : UID} {s : PolicySpec}

theorem exists_of_policy (hw : ∀ a ∈ hs, a.gvr ∈ a.engine.watchedGVRs)
    (huuid : ∀ a ∈ hs, isUUID a.uid = true) (hlive : (Arrival.live hs).lookup u = some a)
    (hroute : a.engine.route a.order a.gvr = .adapter .networkPolicy)
    (hspec : field a.event.object.object ["spec"] = some (.map s.object))
    (hkeys : (s.podSelector.matchLabels.map Prod.fst).Nodup) :
    ∃ c ∈ (Arrival.follow .new hs).byNamespace (getNamespace a.event.object), c.uid = u ∧
      c.name = getName a.event.object ∧ c.ns = getNamespace a.event.object ∧
      c.workloadSelector = some s.podSelector ∧ isNetwork c = true := by
  obtain ⟨cs, hparse, hne⟩ := PolicySpec.parse_object hspec
  have hparsed : a.engine.parseObject a.order a.gvr a.event.object = .ok cs := by
    rw [Engine.parseObject, hroute]
    exact hparse
  have hconstraints : a.constraints = cs := by
    rw [Arrival.constraints, Engine.parsed, hparsed]
  obtain ⟨c₀, hc₀⟩ := List.exists_mem_of_ne_nil cs hne
  rw [← hconstraints] at hc₀
  obtain ⟨c, hc, huid, hall⟩ := Arrival.exists_of_live hw huuid hlive (List.mem_map_of_mem hc₀)
  rw [hconstraints] at hc
  obtain ⟨hcuid, hns, hname, hselector, hnetwork⟩ := PolicySpec.of_mem_parse hspec hkeys hparse hc
  have hu : a.uid = u := KeyedStore.key_of_lookup hlive
  refine ⟨c, ?_, hcuid.trans hu, hname, hns, hselector, hnetwork⟩
  rw [Indexer.mem_byNamespace]
  refine ⟨hall, ?_⟩
  simp [matchesNamespace, hns]

variable [LabelSelectors]

omit [Apimachinery] [Unicode] in
/-- The policy of a namespace can have caused that the flow was dropped: it isolates the source for egress,
or the destination for ingress. -/
def MayDrop (s : PolicySpec) (ns : String) (src dst : FlowEndpoint) (srcLabels dstLabels : Table String String) :
    Prop :=
  src.ns = ns ∧ Util.matchesLabelSelector s.podSelector srcLabels.bindings = true ∧ s.Isolates .egress ∨
    dst.ns = ns ∧ Util.matchesLabelSelector s.podSelector dstLabels.bindings = true ∧ s.Isolates .ingress

/-- From the cluster and the relay to the notification: of a flow between two namespaces that a policy
dropped, every NetworkPolicy of the cluster that can have caused it is notified, when the limiter admits
the drop, its keys are fresh and the channel has room. That the constraints of the two directions of a
policy have one UID, so that the index keeps one of them, does not matter here. -/
theorem causing_policy_notified [LabelSelectors.Lawful] (hw : ∀ a ∈ hs, a.gvr ∈ a.engine.watchedGVRs)
    (huuid : ∀ a ∈ hs, isUUID a.uid = true) (hlive : (Arrival.live hs).lookup u = some a)
    (hroute : a.engine.route a.order a.gvr = .adapter .networkPolicy)
    (hspec : field a.event.object.object ["spec"] = some (.map s.object))
    (hkeys : (s.podSelector.matchLabels.map Prod.fst).Nodup) (hns : getNamespace a.event.object ≠ "")
    {f : Flow} {now : Int} {src dst : FlowEndpoint} {srcLabels dstLabels : Table String String}
    (hsrc : f.source = some src) (hdst : f.destination = some dst) (hsrcLabels : Describes src srcLabels)
    (hdstLabels : Describes dst dstLabels) (hapart : dst.ns ≠ src.ns) {d : Hubble.FlowDrop}
    (hd : convertFlow f now = some d) (hpolicy : f.dropReasonDesc.isPolicy = true)
    (hcause : MayDrop s (getNamespace a.event.object) src dst srcLabels dstLabels) {call : FlowCall}
    {seenPairs : Dedupe.Cache DedupeKey} (hcall : call.drop = d.seen) (hindex : call.index = Arrival.follow .new hs)
    (hallowed : call.allowed = true) (hfresh : call.FreshIn seenPairs) (hsent : call.Sends) :
    ∃ n ∈ (call.handleFlowDrop seenPairs).emitted, n.flowDrop = d.seen ∧ n.constraint.uid = u ∧
      n.constraint.name = getName a.event.object ∧ n.constraint.ns = getNamespace a.event.object := by
  obtain ⟨c, hc, huid, hname, hcns, hselector, hnetwork⟩ := exists_of_policy hw huuid hlive hroute hspec hkeys
  obtain ⟨hsrcNs, hdstNs⟩ := ns_seen hsrc hdst hd
  rw [MayDrop, ← hselector] at hcause
  refine ⟨flowDropNotification call.drop c, (mem_emitted_iff hfresh hsent c).mpr ?_, hcall, huid, hname, hcns⟩
  refine ⟨getNamespace a.event.object, ?_, hindex ▸ hc, ?_⟩
  · rw [hallowed, hcall, mem_flowNamespaces, isPolicyDrop_seen hd, hsrcNs, hdstNs]
    exact ⟨hpolicy, hns, hcause.imp (fun h => h.1.symm) (fun h => h.1.symm)⟩
  · rw [hcall, correlates_seen hsrc hdst hsrcLabels hdstLabels hd]
    refine ⟨hnetwork, ?_⟩
    rcases hcause with ⟨hat, hmatch, -⟩ | ⟨hat, hmatch, -⟩
    · rw [if_pos hat.symm]
      exact hmatch
    · rw [if_neg (hat ▸ hapart)]
      exact hmatch

end Cause

section Sample
attribute [local instance] Apimachinery.model asciiTables LabelSelectors.model

def webPolicy : PolicySpec where
  podSelector := ⟨[("app", "web")], []⟩
  policyTypes := [.ingress, .egress]

def webPolicyObject : Unstructured :=
  ⟨[("metadata", .map [("name", .str "web"), ("namespace", .str "shared"),
      ("uid", .str "7d1f0b52-8c3e-4f6a-9b27-e4a5c6d80f13")]), ("spec", .map webPolicy.object)]⟩

def webArrival : Arrival Builtin := .of NetworkPolicy.gvr (.added webPolicyObject)

def policyCall : FlowCall := .instant (Arrival.follow .new [webArrival]) webFlowDrop.seen 0

theorem causing_policy_notified_web :
    ∃ n ∈ (policyCall.handleFlowDrop ∅).emitted, n.flowDrop = webFlowDrop.seen ∧
      n.constraint.uid = "7d1f0b52-8c3e-4f6a-9b27-e4a5c6d80f13" ∧ n.constraint.name = "web" ∧
      n.constraint.ns = "shared" := by
  have := LabelSelectors.lawful_model
  have hw : ∀ a ∈ [webArrival], a.gvr ∈ a.engine.watchedGVRs := by
    simp [webArrival, Arrival.of, mem_watching]
  have huuid : ∀ a ∈ [webArrival], isUUID a.uid = true := by
    rw [List.forall_mem_singleton]
    decide
  have hlive : (Arrival.live [webArrival]).lookup "7d1f0b52-8c3e-4f6a-9b27-e4a5c6d80f13" = some webArrival := rfl
  have hdrop : convertFlow (ClientRun.webDrop "a") 0 = some webFlowDrop := (Option.some_get _).symm
  have hspec : field webArrival.event.object.object ["spec"] = some (.map webPolicy.object) := rfl
  exact causing_policy_notified hw huuid hlive rfl hspec (by decide) (by decide) rfl rfl
    (describes_app "k8s" "client" (by decide) _ _ _ _) (describes_app "k8s" "web" (by decide) _ _ _ _) (by decide)
    hdrop rfl (.inr ⟨rfl, by decide +kernel, .inl (by decide)⟩) rfl rfl rfl (freshIn_empty _) (sends_instant _ _ _)

end Sample

end Nightjar.Correlator
