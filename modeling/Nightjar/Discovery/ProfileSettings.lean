import Nightjar.Adapters.Settings
import Nightjar.Discovery.Ingestion
import Nightjar.Discovery.Lifecycle

namespace Nightjar.Discovery

open Adapters Lib.Strings Apimachinery

/-- What the generic adapter is told by the profile. -/
def ProfileState.config (ps : ProfileState) : Generic.ParseConfig := ⟨ps.fieldPaths, ps.severity⟩

def ProfileState.enabledFor (gvr : GVR) (ps : ProfileState) : Bool := ps.enabled && decide (ps.gvr = gvr)

namespace Engine

variable {α : Type}

/-- The adapter found for the profile and the GVR: by the profile's name for it, by the
GVR, or by the group. -/
def selected (e : Engine α) (profileCfg : Option ProfileState) (gvr : GVR) : Option α :=
  ((e.namedAdapter profileCfg).or (e.registry.forGVR gvr)).or (e.registry.forGroup gvr.group)

theorem route_of_selected {e : Engine α} {order : e.Order} {gvr : GVR} {a : α}
    (h : e.selected (e.profileFor order gvr) gvr = some a) : e.route order gvr = .adapter a := by
  rw [selected] at h
  rw [route, h]

theorem route_of_unselected {e : Engine α} {order : e.Order} {gvr : GVR} {ps : ProfileState}
    (hps : e.profileFor order gvr = some ps) (h : e.selected (some ps) gvr = none) :
    e.route order gvr = .genericWith ps.config := by
  rw [selected] at h
  rw [route, hps, h]
  rfl

theorem profileFor_eq_head? (e : Engine α) (order : e.Order) (gvr : GVR) :
    e.profileFor order gvr = (order.states.filter (ProfileState.enabledFor gvr)).head? :=
  List.head?_filter.symm

theorem profileFor_of_sole {e : Engine α} {gvr : GVR} {ps : ProfileState}
    (hsole : e.profileStates.filter (ProfileState.enabledFor gvr) = [ps]) (order : e.Order) :
    e.profileFor order gvr = some ps := by
  have hperm := order.perm.filter (ProfileState.enabledFor gvr)
  rw [hsole] at hperm
  rw [profileFor_eq_head?, List.perm_singleton.mp hperm, List.head?_cons]

/-- The order that visits the given profile first. -/
def orderFrom (e : Engine α) {ps : ProfileState} (h : ps ∈ e.profileStates) : e.Order :=
  ⟨ps :: e.profileStates.erase ps, (List.perm_cons_erase h).symm⟩

theorem profileFor_orderFrom {e : Engine α} {gvr : GVR} {ps : ProfileState} (h : ps ∈ e.profileStates)
    (henabled : ps.enabledFor gvr = true) : e.profileFor (e.orderFrom h) gvr = some ps := by
  rw [profileFor_eq_head?, orderFrom, List.filter_cons_of_pos henabled, List.head?_cons]

theorem mem_of_profileFor {e : Engine α} {gvr : GVR} {order : e.Order} {ps : ProfileState}
    (h : e.profileFor order gvr = some ps) : ps ∈ e.profileStates ∧ ps.enabledFor gvr = true := by
  refine ⟨order.perm.mem_iff.mp (List.mem_of_find?_eq_some h), ?_⟩
  exact List.find?_some h

theorem profileFor_eq_none_iff {e : Engine α} {gvr : GVR} (order : e.Order) :
    e.profileFor order gvr = none ↔ ∀ ps ∈ e.profileStates, ps.enabledFor gvr = false := by
  rw [profileFor, List.find?_eq_none]
  simp only [order.perm.mem_iff, ProfileState.enabledFor, Bool.not_eq_true]

section Severity
variable [Apimachinery] [Unicode]

theorem parsed_of_selected {e : Engine Builtin} {order : e.Order} {gvr : GVR} {b : Builtin}
    (h : e.selected (e.profileFor order gvr) gvr = some b) (obj : Unstructured) :
    (∀ c ∈ e.parsed order gvr obj, c.source = b.sourceOf obj) ∧
      (e.parsed order gvr obj).map Constraint.severity = b.severities obj := by
  have hsets := b.sets_parse obj
  have hparse : e.parseObject order gvr obj = b.parse obj := by
    rw [parseObject, route_of_selected h]
    rfl
  rw [parsed, hparse]
  cases hb : b.parse obj with
  | error err =>
      rw [hb] at hsets
      exact ⟨by simp, hsets.symm⟩
  | ok cs =>
      rw [hb] at hsets
      exact hsets

theorem severity_parseWithConfig {obj : Unstructured} (gvr : GVR) {cfg : Generic.ParseConfig} {s : Severity}
    (hcfg : cfg.severityOverride = s.text) (hs : s ∈ [Severity.critical, .warning, .info])
    (hann : (getAnnotations obj).lookup Generic.annotationSeverity = none) :
    ∃ c, Generic.parseWithConfig obj gvr cfg = .ok [c] ∧ c.severity = s := by
  refine ⟨Generic.applyConfig obj cfg (Generic.genericConstraint obj gvr), rfl, ?_⟩
  have hoverride (t : Severity) : Generic.overrideSeverity t s.text = s := by
    simp only [List.mem_cons, List.not_mem_nil, or_false] at hs
    rcases hs with rfl | rfl | rfl <;> rfl
  have hempty : Generic.getAnnotation (getAnnotations obj) Generic.annotationSeverity = "" := by
    rw [Generic.getAnnotation, hann]
    rfl
  rw [Generic.applyConfig]
  cases cfg.fieldPaths <;> simp [Generic.applyFieldPaths, hempty, hcfg, hoverride]

/-- The profile's severity reaches the constraints only through the generic adapter. With
another adapter it is met where the adapter's own rules lead to it. -/
theorem profile_severity_iff (e : Engine Builtin) (gvr : GVR) (ps : ProfileState)
    (hsole : e.profileStates.filter (ProfileState.enabledFor gvr) = [ps]) (s : Severity)
    (hs : s ∈ [Severity.critical, .warning, .info]) (hps : ps.severity = s.text) (obj : Unstructured)
    (hann : (getAnnotations obj).lookup Generic.annotationSeverity = none) (order : e.Order) :
    (∀ c ∈ e.parsed order gvr obj, c.severity = s) ↔
      ∀ b, e.selected (some ps) gvr = some b → ∀ t ∈ b.severities obj, t = s := by
  have hcfg := profileFor_of_sole hsole order
  cases hsel : e.selected (some ps) gvr with
  | none =>
      obtain ⟨c, hparse, hc⟩ := severity_parseWithConfig gvr (show ps.config.severityOverride = s.text from hps) hs hann
      have hparsed : e.parsed order gvr obj = [c] := by
        rw [parsed, parseObject, route_of_unselected hcfg hsel, Route.parse, hparse]
      simp [hparsed, hc]
  | some b =>
      have hseverities := (parsed_of_selected (by rw [hcfg, hsel]) obj).2
      constructor
      · intro hall b' hb' t ht
        cases hb'
        rw [← hseverities] at ht
        obtain ⟨c, hc, rfl⟩ := List.mem_map.mp ht
        exact hall c hc
      · intro hrules c hc
        apply hrules b rfl
        rw [← hseverities]
        exact List.mem_map_of_mem hc

end Severity

section Quotas
attribute [local instance] Apimachinery.model asciiTables

def criticalQuotas : ConstraintProfile where
  name := "critical-quotas"
  gvr := ResourceQuota.gvr
  adapter := "resourcequota"
  enabled := true
  severity := "Critical"

def podQuota : Unstructured :=
  ⟨[("apiVersion", .str "v1"), ("kind", .str "ResourceQuota"),
    ("metadata", .map [("name", .str "compute"), ("namespace", .str "team-a"), ("uid", .str "q1")]),
    ("spec", .map [("hard", .map [("pods", .str "10")])])]⟩

theorem criticalQuotas_ignored :
    (controllerEngine.registerProfile criticalQuotas true).profileStates.filter
        (ProfileState.enabledFor ResourceQuota.gvr) = [criticalQuotas.state (some 0)] ∧
      (getAnnotations podQuota).lookup Generic.annotationSeverity = none ∧
      ((controllerEngine.registerProfile criticalQuotas true).parsed default ResourceQuota.gvr podQuota).map
        Constraint.severity = [.info] := by
  decide +kernel

def criticalZones : ConstraintProfile where
  name := "critical-zones"
  gvr := ⟨"security.mycompany.com", "v1", "networkzones"⟩
  adapter := "generic"
  enabled := true
  severity := "Critical"

theorem criticalZones_applied :
    ((controllerEngine.registerProfile criticalZones true).parsed default criticalZones.gvr podQuota).length = 1 ∧
      ∀ c ∈ (controllerEngine.registerProfile criticalZones true).parsed default criticalZones.gvr podQuota,
        c.severity = .critical := by
  refine ⟨by decide +kernel, ?_⟩
  apply (profile_severity_iff (controllerEngine.registerProfile criticalZones true) criticalZones.gvr
    (criticalZones.state (some 0)) (by decide +kernel) .critical (by decide) rfl podQuota (by decide +kernel)
    default).mpr
  intro b hb
  have hnone : (controllerEngine.registerProfile criticalZones true).selected (some (criticalZones.state (some 0)))
      criticalZones.gvr = none := by
    decide +kernel
  rw [hnone] at hb
  cases hb

end Quotas

section Order
variable [Apimachinery] [Unicode] {obj : Unstructured}

/-- What reads an object under a profile: an adapter with rules of its own, or the generic one, which
files the object under a GVR and takes some fields as the settings tell it. -/
inductive Reader where
  | adapter (b : Builtin)
  | generic (gvr : GVR) (reading : Generic.Reading)

def reader (e : Engine Builtin) (gvr : GVR) (obj : Unstructured) (ps : ProfileState) : Reader :=
  match e.selected (some ps) gvr with
  | none => .generic gvr (Generic.reading obj ps.config)
  | some .generic => .generic (Builtin.generic.sourceOf obj) (Generic.reading obj ⟨none, ""⟩)
  | some b => .adapter b

/-- Two readers agree on the object: the adapters are the same, or neither has a place in the object to
make a constraint of; or both are the generic one and read the same. -/
def Reader.Agree (obj : Unstructured) : Reader → Reader → Prop
  | .adapter b, .adapter b' => b = b' ∨ b.slots obj = [] ∧ b'.slots obj = []
  | .generic gvr reading, .generic gvr' reading' => gvr = gvr' ∧ reading = reading'
  | _, _ => False

omit [Apimachinery] [Unicode] in
def accepted : Except String (List Constraint) → List Constraint
  | .ok constraints => constraints
  | .error _ => []

theorem accepted_eq_nil_iff (b : Builtin) : accepted (b.parse obj) = [] ↔ b.slots obj = [] := by
  have hfiled := b.filedIn_parse obj
  cases h : b.parse obj with
  | error err =>
      rw [h] at hfiled
      exact iff_of_true rfl hfiled
  | ok cs =>
      rw [h] at hfiled
      rw [← List.map_eq_nil_iff (f := Slot.uid (getUID obj)), ← hfiled.1, List.map_eq_nil_iff]
      rfl

theorem hint_of_mem_accepted {b : Builtin} {c : Constraint} (hc : c ∈ accepted (b.parse obj)) :
    b.hint.toList <+: c.remediationHint.toList := by
  have hhints := b.hints_parse obj
  cases h : b.parse obj with
  | error err =>
      rw [h] at hc
      cases hc
  | ok cs =>
      rw [h] at hc hhints
      exact hhints c hc

namespace Reader

def constraints (obj : Unstructured) : Reader → List Constraint
  | adapter b => accepted (b.parse obj)
  | generic gvr reading => [Generic.constraintAs obj gvr reading]

theorem adapter_eq_iff (b b' : Builtin) :
    (adapter b).constraints obj = (adapter b').constraints obj ↔ (adapter b).Agree obj (adapter b') := by
  constructor
  · intro h
    rw [constraints, constraints] at h
    cases hcs : accepted (b.parse obj) with
    | nil => exact .inr ⟨(accepted_eq_nil_iff b).mp hcs, (accepted_eq_nil_iff b').mp (h.symm.trans hcs)⟩
    | cons c cs =>
        have hc : c ∈ accepted (b.parse obj) := hcs ▸ List.mem_cons_self
        exact .inl (Builtin.hint_inj (hint_of_mem_accepted hc) (hint_of_mem_accepted (h ▸ hc)))
  · rintro (rfl | ⟨hb, hb'⟩)
    · rfl
    · exact ((accepted_eq_nil_iff b).mpr hb).trans ((accepted_eq_nil_iff b').mpr hb').symm

theorem adapter_ne_generic {b : Builtin} (hb : b ≠ .generic) (gvr : GVR) (reading : Generic.Reading) :
    (adapter b).constraints obj ≠ (generic gvr reading).constraints obj := by
  intro h
  rw [constraints, constraints] at h
  have hc : Generic.constraintAs obj gvr reading ∈ accepted (b.parse obj) := h ▸ List.mem_singleton_self _
  exact hb (Builtin.hint_inj (hint_of_mem_accepted hc) (List.prefix_refl _))

theorem constraints_eq_iff {r r' : Reader} (hr : r ≠ adapter .generic) (hr' : r' ≠ adapter .generic) :
    r.constraints obj = r'.constraints obj ↔ r.Agree obj r' := by
  cases r with
  | adapter b =>
      have hb : b ≠ .generic := fun h => hr (h ▸ rfl)
      cases r' with
      | adapter b' => exact adapter_eq_iff b b'
      | generic gvr' reading' => exact iff_of_false (adapter_ne_generic hb gvr' reading') id
  | generic gvr reading =>
      cases r' with
      | adapter b' =>
          have hb' : b' ≠ .generic := fun h => hr' (h ▸ rfl)
          exact iff_of_false (Ne.symm (adapter_ne_generic hb' gvr reading)) id
      | generic gvr' reading' =>
          rw [constraints, constraints, List.singleton_inj]
          exact Generic.constraintAs_inj

end Reader

variable {e : Engine Builtin} {gvr : GVR}

theorem reader_ne (ps : ProfileState) : e.reader gvr obj ps ≠ .adapter .generic := by
  rw [reader]
  split
  · exact Reader.noConfusion
  · exact Reader.noConfusion
  · rename_i b hb hsel
    intro h
    cases h
    exact hb rfl

theorem parsed_eq_reader {order : e.Order} {ps : ProfileState} (hps : e.profileFor order gvr = some ps) :
    e.parsed order gvr obj = (e.reader gvr obj ps).constraints obj := by
  rw [parsed, parseObject, reader]
  cases hsel : e.selected (some ps) gvr with
  | none =>
      rw [route_of_unselected hps hsel, Route.parse, Generic.parseWithConfig_eq]
      rfl
  | some b =>
      rw [route_of_selected (hps ▸ hsel)]
      cases b with
      | generic =>
          rw [show (Route.adapter Builtin.generic).parse gvr obj = Generic.parse obj from rfl, Generic.parse_eq]
          rfl
      | _ => rfl

/-- What is parsed of an object does not depend on the order of the profiles if and only if those that are
enabled for its GVR lead to readers that agree on it. -/
theorem parsed_order_independent_iff (e : Engine Builtin) (gvr : GVR) (obj : Unstructured) :
    (∀ order order' : e.Order, e.parsed order gvr obj = e.parsed order' gvr obj) ↔
      ∀ ps ∈ e.profileStates, ∀ ps' ∈ e.profileStates, ps.enabledFor gvr = true → ps'.enabledFor gvr = true →
        (e.reader gvr obj ps).Agree obj (e.reader gvr obj ps') := by
  constructor
  · intro hsame ps hmem ps' hmem' henabled henabled'
    rw [← Reader.constraints_eq_iff (reader_ne ps) (reader_ne ps'),
      ← parsed_eq_reader (profileFor_orderFrom hmem henabled),
      ← parsed_eq_reader (profileFor_orderFrom hmem' henabled')]
    exact hsame _ _
  · intro hagree order order'
    cases hps : e.profileFor order gvr with
    | none =>
        have hps' : e.profileFor order' gvr = none :=
          (profileFor_eq_none_iff order').mpr ((profileFor_eq_none_iff order).mp hps)
        rw [parsed, parsed, parseObject, parseObject, route, route, hps, hps']
    | some ps =>
        cases hps' : e.profileFor order' gvr with
        | none =>
            have hnone := (profileFor_eq_none_iff order).mpr ((profileFor_eq_none_iff order').mp hps')
            rw [hps] at hnone
            cases hnone
        | some ps' =>
            obtain ⟨hmem, henabled⟩ := mem_of_profileFor hps
            obtain ⟨hmem', henabled'⟩ := mem_of_profileFor hps'
            rw [parsed_eq_reader hps, parsed_eq_reader hps', Reader.constraints_eq_iff (reader_ne ps) (reader_ne ps')]
            exact hagree ps hmem ps' hmem' henabled henabled'

end Order

section Conflict
attribute [local instance] Apimachinery.model asciiTables

def conflicting : Engine Builtin :=
  (controllerEngine.registerProfile criticalZones true).registerProfile
    { criticalZones with name := "zones", severity := "Info" } true

theorem criticalZones_mem : criticalZones.state (some 0) ∈ conflicting.profileStates := by decide +kernel

theorem zones_mem : { criticalZones.state none with severity := "Info" } ∈ conflicting.profileStates := by
  decide +kernel

theorem conflicting_profiles_flip :
    (conflicting.parsed (conflicting.orderFrom criticalZones_mem) criticalZones.gvr podQuota).map
        Constraint.severity = [.critical] ∧
      (conflicting.parsed (conflicting.orderFrom zones_mem) criticalZones.gvr podQuota).map
        Constraint.severity = [.info] := by
  decide +kernel

end Conflict

end Engine

end Nightjar.Discovery
