import Nightjar.Discovery.Engine

namespace Nightjar.Discovery

open Adapters Lib.Strings

def Covers (b : Builtin) (g : GVR) : Prop :=
  g ∈ b.handles ∨ ∃ h ∈ b.handles, h.group = g.group ∧ h.resource = "*"

def groupOwner (group : String) : Option Builtin :=
  Builtin.registered.find? (fun b => decide (group ∈ b.handles.map GVR.group))

def gvrOwner (g : GVR) : Option Builtin := Builtin.registered.find? (fun b => decide (g ∈ b.handles))

theorem gvrOwner_eq_some {g : GVR} {b : Builtin} (h : gvrOwner g = some b) :
    b ∈ Builtin.registered ∧ g ∈ b.handles :=
  ⟨List.mem_of_find?_eq_some h, by simpa using List.find?_some h⟩

theorem gvrOwner_eq_none {g : GVR} : gvrOwner g = none ↔ ∀ b ∈ Builtin.registered, g ∉ b.handles := by
  simp [gvrOwner, List.find?_eq_none]

theorem wildcard_iff (b : Builtin) (group : String) :
    (∃ h ∈ b.handles, h.group = group ∧ h.resource = "*") ↔
      b = .gatekeeper ∧ group = Gatekeeper.gatekeeperConstraintGroup := by
  cases b <;>
    simp [Builtin.handles, NetworkPolicy.handles, NetworkPolicy.gvr, Cilium.handles, Cilium.gvrCNP,
      Cilium.gvrCCNP, ResourceQuota.handles, ResourceQuota.gvr, LimitRange.handles, LimitRange.gvr,
      WebhookConfig.handles, WebhookConfig.validatingGVR, WebhookConfig.mutatingGVR, Gatekeeper.handles,
      Kyverno.handles, Kyverno.gvrClusterPolicy, Kyverno.gvrPolicy, Generic.handles, eq_comm]

theorem groupOwner_eq (group : String) : groupOwner group =
    if group = "networking.k8s.io" then some .networkPolicy
    else if group = "" then some .resourceQuota
    else if group = "admissionregistration.k8s.io" then some .webhookConfig
    else if group = "constraints.gatekeeper.sh" then some .gatekeeper
    else if group = "kyverno.io" then some .kyverno
    else none := by
  by_cases hnetwork : group = "networking.k8s.io"
  · rw [hnetwork]
    decide
  by_cases hcore : group = ""
  · rw [hcore]
    decide
  by_cases hadmission : group = "admissionregistration.k8s.io"
  · rw [hadmission]
    decide
  by_cases hgatekeeper : group = "constraints.gatekeeper.sh"
  · rw [hgatekeeper]
    decide
  by_cases hkyverno : group = "kyverno.io"
  · rw [hkyverno]
    decide
  rw [if_neg hnetwork, if_neg hcore, if_neg hadmission, if_neg hgatekeeper, if_neg hkyverno]
  simp [groupOwner, Builtin.registered, Builtin.handles, NetworkPolicy.handles, NetworkPolicy.gvr,
    ResourceQuota.handles, ResourceQuota.gvr, LimitRange.handles, LimitRange.gvr,
    WebhookConfig.handles, WebhookConfig.validatingGVR, WebhookConfig.mutatingGVR, Gatekeeper.handles,
    Gatekeeper.gatekeeperConstraintGroup, Kyverno.handles, Kyverno.gvrClusterPolicy, Kyverno.gvrPolicy,
    hcore, Ne.symm hnetwork, Ne.symm hadmission, Ne.symm hgatekeeper, Ne.symm hkyverno]

section Controller
variable [Apimachinery] [Unicode]

def controllerEngine : Engine Builtin :=
  .new (match Builtin.controllerRegistry with
    | .ok registry => registry
    | .error _ => .new) true

theorem controllerRegistry_ok : Builtin.controllerRegistry = .ok controllerEngine.registry := rfl

theorem route_controller {e : Engine Builtin} (hreg : Builtin.controllerRegistry = .ok e.registry)
    (hprof : e.profiles = ∅) (order : e.Order) (g : GVR) :
    e.route order g = match (gvrOwner g).or (groupOwner g.group) with
      | some b => .adapter b
      | none => .generic := by
  obtain ⟨hgvr, hgroup⟩ := Registry.registerAll_ok hreg
  have howner : e.registry.forGVR g = gvrOwner g := hgvr g
  have hgroupOwner : e.registry.forGroup g.group = groupOwner g.group := hgroup g.group
  have hnil : e.profileStates = [] := by simp [Engine.profileStates, hprof]
  have horder : order.states = [] := List.perm_nil.mp (hnil ▸ order.perm)
  have hcfg : e.profileFor order g = none := by rw [Engine.profileFor, horder, List.find?_nil]
  simp only [Engine.route, hcfg, Engine.namedAdapter, Option.none_or, howner, hgroupOwner]
  cases (gvrOwner g).or (groupOwner g.group) <;> rfl

/-- The intended routing at `g`: a registered adapter sees only what it claims,
and what nobody claims goes to the generic adapter. -/
def RoutesSoundly (e : Engine Builtin) (g : GVR) : Prop :=
  ∀ order : e.Order, (∀ b, e.route order g = .adapter b → Covers b g) ∧
    ((∀ b ∈ Builtin.registered, ¬ Covers b g) →
      ∀ obj, e.parseObject order g obj = Generic.parseWithGVR obj g)

/-- Routing goes wrong at exactly the unclaimed resources of the groups in which
some adapter handles single resources. -/
theorem routesSoundly_iff {e : Engine Builtin} (hreg : Builtin.controllerRegistry = .ok e.registry)
    (hprof : e.profiles = ∅) (g : GVR) :
    RoutesSoundly e g ↔ (∃ b ∈ Builtin.registered, g ∈ b.handles) ∨
      g.group = "constraints.gatekeeper.sh" ∨
      g.group ∉ ["networking.k8s.io", "", "admissionregistration.k8s.io", "kyverno.io"] := by
  cases hg : gvrOwner g with
  | some b =>
      obtain ⟨hb, hm⟩ := gvrOwner_eq_some hg
      refine iff_of_true ?_ (.inl ⟨b, hb, hm⟩)
      intro order
      rw [route_controller hreg hprof, hg]
      refine ⟨?_, fun hnone => absurd (.inl hm) (hnone b hb)⟩
      rintro b' ⟨⟩
      exact .inl hm
  | none =>
      have hexact := gvrOwner_eq_none.mp hg
      have hcovers {b : Builtin} (hb : b ∈ Builtin.registered) :
          Covers b g ↔ b = .gatekeeper ∧ g.group = "constraints.gatekeeper.sh" := by
        rw [Covers, or_iff_right (hexact b hb), wildcard_iff]
        rfl
      rw [or_iff_right (by rintro ⟨b, hb, hm⟩; exact hexact b hb hm)]
      simp only [RoutesSoundly, Engine.parseObject, route_controller hreg hprof, hg, Option.none_or]
      have howner := groupOwner_eq g.group
      cases ho : groupOwner g.group with
      | none =>
          rw [ho] at howner
          refine iff_of_true (fun _ => ⟨nofun, fun _ _ => rfl⟩) ?_
          grind
      | some b =>
          have hb : b ∈ Builtin.registered := List.mem_of_find?_eq_some ho
          rw [ho] at howner
          have hcond : Covers b g ↔ g.group = "constraints.gatekeeper.sh" ∨
              g.group ∉ ["networking.k8s.io", "", "admissionregistration.k8s.io", "kyverno.io"] := by
            rw [hcovers hb]
            grind
          rw [← hcond]
          constructor
          · intro hsound
            exact (hsound default).1 b rfl
          · intro hc _
            refine ⟨?_, fun hnone => absurd hc (hnone b hb)⟩
            rintro b' ⟨⟩
            exact hc

end Controller

section Ingress
attribute [local instance] Apimachinery.model asciiTables

def ingressesGVR : GVR := ⟨"networking.k8s.io", "v1", "ingresses"⟩

theorem routesSoundly_iff_ingresses :
    Builtin.controllerRegistry = .ok controllerEngine.registry ∧ controllerEngine.profiles = ∅ ∧
      (RoutesSoundly controllerEngine ingressesGVR ↔ (∃ b ∈ Builtin.registered, ingressesGVR ∈ b.handles) ∨
        ingressesGVR.group = "constraints.gatekeeper.sh" ∨
        ingressesGVR.group ∉ ["networking.k8s.io", "", "admissionregistration.k8s.io", "kyverno.io"]) :=
  ⟨controllerRegistry_ok, rfl, routesSoundly_iff controllerRegistry_ok rfl ingressesGVR⟩

theorem ingresses_not_routed_soundly :
    Builtin.controllerRegistry = .ok controllerEngine.registry ∧ controllerEngine.profiles = ∅ ∧
      ¬ RoutesSoundly controllerEngine ingressesGVR ∧
      ∀ obj, controllerEngine.parseObject default ingressesGVR obj = NetworkPolicy.parse obj := by
  have huncovered : ¬ Covers .networkPolicy ingressesGVR := by
    rw [Covers, wildcard_iff]
    simp [Builtin.handles, NetworkPolicy.handles, NetworkPolicy.gvr, ingressesGVR]
  have hroute : controllerEngine.route default ingressesGVR = .adapter .networkPolicy := rfl
  refine ⟨controllerRegistry_ok, rfl, fun h => huncovered ((h default).1 .networkPolicy hroute), ?_⟩
  intro obj
  rw [Engine.parseObject, hroute]
  rfl

end Ingress

end Nightjar.Discovery
