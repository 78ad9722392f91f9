import Nightjar.Mcp.Check
import Nightjar.Requirements.Recurrence

namespace Nightjar

open Lib Lib.Strings Apimachinery FirstSeen

namespace Requirements

variable [Apimachinery]

omit [Apimachinery] in
/-- What the rule finds missing in the step, whether or not it is emitted. -/
def Event.found : Event → List Constraint
  | .rule _ _ _ answer => answer.toOption.getD []
  | .cleanup _ => []

namespace Evaluator

variable {e : Evaluator} {ev : Event} {events : List Event}

@[simp] theorem rules_run (e : Evaluator) (events : List Event) : (e.run events).rules = e.rules := by
  rw [run_eq]

@[simp] theorem duration_run (e : Evaluator) (events : List Event) : (e.run events).duration = e.duration := by
  rw [run_eq]

theorem step_snd_sublist (e : Evaluator) (ev : Event) : (e.step ev).2.Sublist ev.found := by
  cases ev with
  | cleanup now => exact List.Sublist.refl _
  | rule workload r now answer =>
      rw [step_rule_snd]
      split
      · exact List.Sublist.refl _
      · exact List.nil_sublist _

theorem report_sublist (e : Evaluator) (events : List Event) :
    (e.report events).Sublist (events.flatMap Event.found) := by
  induction events generalizing e with
  | nil => exact List.Sublist.refl _
  | cons ev events ih =>
      rw [report, List.flatMap_cons]
      exact (step_snd_sublist e ev).append (ih _)

def Aged (e : Evaluator) : Event → Prop
  | .rule workload r now (.ok (_ :: _)) =>
      e.duration ≤ now - (e.firstSeen.lookup (debounceKey (workloadUID workload) r)).getD now
  | _ => True

theorem step_snd_of_aged (h : e.Aged ev) : (e.step ev).2 = ev.found := by
  rcases ev with ⟨workload, r, now, _ | _ | ⟨c, cs⟩⟩ | now
  · rfl
  · rfl
  · exact if_pos h
  · rfl

theorem report_of_aged (h : ∀ early ev late, events = early ++ ev :: late → (e.run early).Aged ev) :
    e.report events = events.flatMap Event.found := by
  induction events generalizing e with
  | nil => rfl
  | cons ev events ih =>
      have hrest : (e.step ev).1.report events = events.flatMap Event.found := by
        apply ih
        rintro early ev' late rfl
        exact h (ev :: early) ev' late rfl
      have hhead : e.Aged ev := h [] ev events rfl
      rw [report, List.flatMap_cons, step_snd_of_aged hhead, hrest]

theorem aged_of_zero (hzero : e.duration = 0) {now : Int}
    (hpast : ∀ k t₀, e.firstSeen.lookup k = some t₀ → t₀ ≤ now) {workload : Unstructured} {r : String}
    {answer : RuleAnswer} : e.Aged (.rule workload r now answer) := by
  rcases answer with _ | _ | ⟨c, cs⟩
  · trivial
  · trivial
  · rw [Aged, hzero]
    cases hlookup : e.firstSeen.lookup (debounceKey (workloadUID workload) r) with
    | none => rw [Option.getD_none]; omega
    | some t₀ =>
        have hle := hpast _ t₀ hlookup
        rw [Option.getD_some]
        omega

theorem le_of_lookup_run {rules : List String} {duration now : Int} (hpast : ∀ ev ∈ events, ev.now ≤ now) {k : String}
    {t₀ : Int} (h : ((⟨rules, duration, ∅⟩ : Evaluator).run events).firstSeen.lookup k = some t₀) : t₀ ≤ now := by
  rw [run_eq] at h
  obtain ⟨before, after, heffects, -⟩ := exists_seen_of_lookup h
  have hseen : .seen k t₀ ∈ events.map (Event.effect duration) := by
    rw [heffects]
    exact List.mem_append_right _ List.mem_cons_self
  obtain ⟨ev, hev, heffect⟩ := List.mem_map.mp hseen
  have hnow : ev.now = t₀ := Event.now_of_time (congrArg Effect.time heffect)
  rw [← hnow]
  exact hpast ev hev

theorem evaluate_zero {rules : List String} {now : Int} (hpast : ∀ ev ∈ events, ev.now ≤ now) (workload : Unstructured)
    (answers : String → RuleAnswer) :
    (((⟨rules, 0, ∅⟩ : Evaluator).run events).evaluate (some workload) now answers).2 =
      (ruleEvents rules workload now answers).flatMap Event.found := by
  have hnow {ev : Event} (hev : ev ∈ ruleEvents rules workload now answers) :
      ∃ r answer, ev = .rule workload r now answer := by
    obtain ⟨r, -, rfl⟩ := List.mem_map.mp hev
    exact ⟨r, answers r, rfl⟩
  rw [evaluate_eq_run, rules_run]
  apply report_of_aged
  intro early ev late hsplit
  rw [hsplit] at hnow
  obtain ⟨r, answer, rfl⟩ := hnow (List.mem_append_right _ List.mem_cons_self)
  rw [← run_append]
  apply aged_of_zero
  · rw [duration_run]
  · intro k t₀ hlookup
    refine le_of_lookup_run ?_ hlookup
    intro ev hev
    rcases List.mem_append.mp hev with hev | hev
    · exact hpast ev hev
    · obtain ⟨r', answer', rfl⟩ := hnow (List.mem_append_left _ hev)
      exact Int.le_refl _

theorem lookup_run_of_spared {k : String} {t₀ : Int} (h : e.firstSeen.lookup k = some t₀)
    (hevents : ∀ ev ∈ events, ∃ workload r now answer, ev = .rule workload r now answer ∧
      ev.effect e.duration ≠ .cleared k) : (e.run events).firstSeen.lookup k = some t₀ := by
  rw [run_eq]
  apply lookup_run_of_kept h
  · intro hmem
    obtain ⟨ev, hev, heffect⟩ := List.mem_map.mp hmem
    obtain ⟨workload, r, now, answer, -, hspared⟩ := hevents ev hev
    exact hspared heffect
  · intro before maxAge now after hsplit _
    have hmem : .swept maxAge now ∈ events.map (Event.effect e.duration) := by
      rw [hsplit]
      exact List.mem_append_right _ List.mem_cons_self
    obtain ⟨ev, hev, heffect⟩ := List.mem_map.mp hmem
    obtain ⟨workload, r, now', answer, rfl, -⟩ := hevents ev hev
    cases (Event.effect_eq_swept heffect).1

end Evaluator

/-- A workload of a list, with the time at which it is evaluated and what the rules then answer for it. -/
structure ListedWorkload where
  workload : Unstructured
  now : Int
  answers : String → RuleAnswer

def ListedWorkload.events (item : ListedWorkload) (rules : List String) : List Event :=
  Evaluator.ruleEvents rules item.workload item.now item.answers

omit [Apimachinery] in
def ListedWorkload.found (item : ListedWorkload) (rules : List String) : List Constraint :=
  (item.events rules).flatMap Event.found

section Reports
variable {β γ : Type} (render : ListedWorkload → Constraint → β) {e : Evaluator} {items : List ListedWorkload}

def reports (e : Evaluator) : List ListedWorkload → List β
  | [] => []
  | item :: items =>
      (e.report (item.events e.rules)).map (render item) ++ reports (e.run (item.events e.rules)) items

theorem reports_append (e : Evaluator) (items items' : List ListedWorkload) :
    reports render e (items ++ items') =
      reports render e items ++ reports render (e.run (items.flatMap (·.events e.rules))) items' := by
  induction items generalizing e with
  | nil => rfl
  | cons item items ih =>
      rw [List.cons_append, reports, ih, reports, List.flatMap_cons, Evaluator.run_append, Evaluator.rules_run,
        List.append_assoc]

theorem map_reports (f : β → γ) (e : Evaluator) (items : List ListedWorkload) :
    (reports render e items).map f = reports (fun item c => f (render item c)) e items := by
  induction items generalizing e with
  | nil => rfl
  | cons item items ih =>
      rw [reports, reports, List.map_append, ih, List.map_map]
      rfl

theorem reports_sublist (e : Evaluator) (items : List ListedWorkload) :
    (reports render e items).Sublist (items.flatMap (fun item => (item.found e.rules).map (render item))) := by
  induction items generalizing e with
  | nil => exact List.Sublist.refl _
  | cons item items ih =>
      have hrest := ih (e.run (item.events e.rules))
      rw [Evaluator.rules_run] at hrest
      rw [reports, List.flatMap_cons]
      exact ((Evaluator.report_sublist e _).map _).append hrest

/-- What is missing for a workload has been known for the debounce window. -/
def Known (e : Evaluator) (item : ListedWorkload) : Prop :=
  ∀ r ∈ e.rules, ∀ c cs, item.answers r = .ok (c :: cs) →
    ∃ t₀, e.firstSeen.lookup (debounceKey (workloadUID item.workload) r) = some t₀ ∧ e.duration ≤ item.now - t₀

/-- The API server has assigned the workload its UID. -/
def ListedWorkload.Identified (item : ListedWorkload) : Prop :=
  getUID item.workload ≠ "" ∧ ':' ∉ (getUID item.workload).toList

theorem spared_events {item item' : ListedWorkload} (hid : item.Identified) (hid' : item'.Identified)
    (hsame : getUID item'.workload = getUID item.workload → item' = item) {rules : List String} {r : String}
    {c : Constraint} {cs : List Constraint} (hanswer : item.answers r = .ok (c :: cs)) (duration : Int) :
    ∀ ev ∈ item'.events rules, ∃ workload r' now answer, ev = .rule workload r' now answer ∧
      ev.effect duration ≠ .cleared (debounceKey (workloadUID item.workload) r) := by
  intro ev hev
  obtain ⟨r', -, rfl⟩ := List.mem_map.mp hev
  refine ⟨_, _, _, _, rfl, ?_⟩
  intro heffect
  have hthis : (Event.rule item.workload r item.now (item.answers r)).Identified := hid
  have hthat : (Event.rule item'.workload r' item'.now (item'.answers r')).Identified := hid'
  have hpresent := (Event.effect_eq_cleared_iff hthat hthis).mp heffect
  cases hanswer' : item'.answers r' with
  | error err =>
      rw [hanswer'] at hpresent
      exact hpresent
  | ok found =>
      rw [hanswer'] at hpresent
      cases found with
      | cons c' cs' => exact hpresent
      | nil =>
          obtain ⟨huid, rfl⟩ := hpresent
          rw [hsame huid, hanswer] at hanswer'
          cases hanswer'

theorem report_of_known {item : ListedWorkload} (hid : item.Identified) (h : Known e item) :
    e.report (item.events e.rules) = item.found e.rules := by
  apply Evaluator.report_of_aged
  intro early ev late hsplit
  have hev : ev ∈ item.events e.rules := by
    rw [hsplit]
    exact List.mem_append_right _ List.mem_cons_self
  obtain ⟨r, hr, rfl⟩ := List.mem_map.mp hev
  cases hanswer : item.answers r with
  | error err => trivial
  | ok found =>
      cases found with
      | nil => trivial
      | cons c cs =>
          obtain ⟨t₀, hlookup, hold⟩ := h r hr c cs hanswer
          have hspared : ∀ ev ∈ item.events e.rules, ∃ workload r' now answer, ev = .rule workload r' now answer ∧
              ev.effect e.duration ≠ .cleared (debounceKey (workloadUID item.workload) r) :=
            spared_events hid hid (fun _ => rfl) hanswer e.duration
          rw [hsplit] at hspared
          have hkept := Evaluator.lookup_run_of_spared hlookup fun ev hev => hspared ev (List.mem_append_left _ hev)
          rw [Evaluator.Aged, hkept, Evaluator.duration_run]
          exact hold

theorem Known.run {item item' : ListedWorkload} (h : Known e item) (hid : item.Identified) (hid' : item'.Identified)
    (hsame : getUID item'.workload = getUID item.workload → item' = item) :
    Known (e.run (item'.events e.rules)) item := by
  intro r hr c cs hanswer
  rw [Evaluator.rules_run] at hr
  obtain ⟨t₀, hlookup, hold⟩ := h r hr c cs hanswer
  refine ⟨t₀, ?_, ?_⟩
  · exact Evaluator.lookup_run_of_spared hlookup (spared_events hid hid' hsame hanswer e.duration)
  · rw [Evaluator.duration_run]
    exact hold

theorem reports_of_known (hids : ∀ item ∈ items, item.Identified)
    (hdistinct : items.Pairwise (fun item item' => getUID item.workload ≠ getUID item'.workload))
    (hknown : ∀ item ∈ items, Known e item) :
    reports render e items = items.flatMap (fun item => (item.found e.rules).map (render item)) := by
  induction items generalizing e with
  | nil => rfl
  | cons item items ih =>
      obtain ⟨hapart, hrest⟩ := List.pairwise_cons.mp hdistinct
      obtain ⟨hid, hids⟩ := List.forall_mem_cons.mp hids
      obtain ⟨hthis, hothers⟩ := List.forall_mem_cons.mp hknown
      have hstill : ∀ item' ∈ items, Known (e.run (item.events e.rules)) item' := by
        intro item' hmem
        exact (hothers item' hmem).run (hids item' hmem) hid fun huid => absurd huid (hapart item' hmem)
      rw [reports, report_of_known hid hthis, ih hids hrest hstill, List.flatMap_cons, Evaluator.rules_run]

end Reports

end Requirements

namespace Notifier

open Requirements

def maxWorkloadsPerReconcile : Nat := 100

section Missing
variable [Apimachinery]

/-- The loop of `evaluateMissingResources` over a list. `Evaluate` returns no error. -/
def evaluateItems (e : Evaluator) :
    List ListedWorkload → Evaluator × List (Unstructured × Except String (List Constraint))
  | [] => (e, [])
  | item :: items =>
      let next := e.evaluate (some item.workload) item.now item.answers
      let rest := evaluateItems next.1 items
      (rest.1, (item.workload, .ok next.2) :: rest.2)

/-- The loop over the kinds of workloads. A list has at most so many items, and none is asked for again. -/
def evaluateLists (e : Evaluator) : List (Except String (List ListedWorkload)) → Evaluator × List WorkloadList
  | [] => (e, [])
  | .error err :: lists =>
      let rest := evaluateLists e lists
      (rest.1, .error err :: rest.2)
  | .ok items :: lists =>
      let next := evaluateItems e (items.take maxWorkloadsPerReconcile)
      let rest := evaluateLists next.1 lists
      (rest.1, .ok next.2 :: rest.2)

omit [Apimachinery] in
def listed (lists : List (Except String (List ListedWorkload))) : List ListedWorkload :=
  lists.flatMap (fun list => (list.toOption.getD []).take maxWorkloadsPerReconcile)

variable [Unicode] (opts : ReportReconcilerOptions)

def missingEntry (item : ListedWorkload) (c : Constraint) : MissingResourceEntry :=
  ReportStatus.constraintToMissingResourceEntry opts c item.workload

omit [Unicode] in
theorem evaluateItems_fst (e : Evaluator) (items : List ListedWorkload) :
    (evaluateItems e items).1 = e.run (items.flatMap (·.events e.rules)) := by
  induction items generalizing e with
  | nil => rfl
  | cons item items ih =>
      rw [evaluateItems, Evaluator.evaluate_eq_run, ih, Evaluator.rules_run, List.flatMap_cons, Evaluator.run_append]
      rfl

theorem entries_of_items (e : Evaluator) (items : List ListedWorkload) :
    ReportStatus.evaluateMissingResources opts (some [.ok (evaluateItems e items).2]) =
      reports (missingEntry opts) e items := by
  induction items generalizing e with
  | nil => rfl
  | cons item items ih =>
      have hrest := ih (e.run (item.events e.rules))
      simp only [ReportStatus.evaluateMissingResources, Option.getD_some, List.flatMap_singleton] at hrest ⊢
      rw [evaluateItems, Evaluator.evaluate_eq_run, reports, List.flatMap_cons]
      exact congrArg _ hrest

theorem evaluateMissingResources_cons (list : WorkloadList) (lists : List WorkloadList) :
    ReportStatus.evaluateMissingResources opts (some (list :: lists)) =
      ReportStatus.evaluateMissingResources opts (some [list]) ++
        ReportStatus.evaluateMissingResources opts (some lists) := by
  simp [ReportStatus.evaluateMissingResources]

theorem entries_of_lists (e : Evaluator) (lists : List (Except String (List ListedWorkload))) :
    ReportStatus.evaluateMissingResources opts (some (evaluateLists e lists).2) =
      reports (missingEntry opts) e (listed lists) := by
  induction lists generalizing e with
  | nil => rfl
  | cons list lists ih =>
      cases list with
      | error err => exact ih e
      | ok items =>
          have hlisted : listed (.ok items :: lists) = items.take maxWorkloadsPerReconcile ++ listed lists := rfl
          rw [evaluateLists, evaluateMissingResources_cons, entries_of_items, ih, evaluateItems_fst, hlisted,
            reports_append]

end Missing

end Notifier

namespace Mcp

open Notifier Requirements

def MissingResource.ofEntry (ns : String) (entry : MissingResourceEntry) : MissingResource where
  expectedKind := entry.expectedKind
  expectedAPIVersion := entry.expectedAPIVersion
  reason := entry.reason
  severity := entry.severity
  forWorkload := ns ++ "/" ++ entry.forWorkload.kind ++ "/" ++ entry.forWorkload.name
  remediation := ⟨entry.remediation.summary, entry.remediation.steps.map toolStep⟩

section Agreement
variable [Apimachinery] [Unicode] {opts : ReportReconcilerOptions}

theorem ofEntry_missingEntry {ns : String} (hns : ns ≠ "") {item : ListedWorkload}
    (hitem : getNamespace item.workload = ns) (c : Constraint) :
    .ofEntry ns (missingEntry opts item c) =
      constraintToMissingResource (ReportStatus.remediationBuilder opts) item.workload c := by
  subst hitem
  rw [constraintToMissingResource, if_neg hns]
  rfl

variable [LabelSelectors] [Yaml]

theorem missing_of_handleCheck {rb : RemediationBuilder} {level : DetailLevel} {now text : String} {idx : Indexer}
    {evaluate : Unstructured → List Constraint} {workload : Unstructured} {result : CheckResult}
    (hmanifest : Yaml.unmarshal text = .ok ⟨workload.object⟩)
    (h : handleCheck rb level now (some evaluate) (some ⟨text⟩) idx = .ok result) :
    result.missingPrerequisites = (evaluate workload).map (constraintToMissingResource rb workload) := by
  rw [handleCheck] at h
  split at h
  · cases h
  · simp only [hmanifest] at h
    cases h
    rfl

/-- The MCP server's evaluator, without a window, after some calls. -/
def precheck (rules : List String) (past : List Requirements.Event) (item : ListedWorkload) (workload : Unstructured) :
    List Constraint :=
  (((⟨rules, 0, ∅⟩ : Evaluator).run past).evaluate (some workload) item.now item.answers).2

/-- The missing resources of a report are some of those that checks of the manifests of the same
workloads list, in the same order and with the same remediation; they are all of them once everything
that is missing has been known for the debounce window. Workloads beyond the first hundred of a kind
are not in the report. -/
theorem report_missing_agrees {e : Evaluator} {lists : List (Except String (List ListedWorkload))} {ns : String}
    (hns : ns ≠ "") (hlisted : ∀ item ∈ listed lists, getNamespace item.workload = ns)
    {past : ListedWorkload → List Requirements.Event}
    (hpast : ∀ item ∈ listed lists, ∀ ev ∈ past item, ev.now ≤ item.now)
    {text : ListedWorkload → String} {level : DetailLevel} {now : String} {idx : Indexer}
    (hmanifest : ∀ item ∈ listed lists, Yaml.unmarshal (text item) = .ok ⟨item.workload.object⟩)
    {check : ListedWorkload → CheckResult}
    (hcheck : ∀ item ∈ listed lists, handleCheck (ReportStatus.remediationBuilder opts) level now
      (some (precheck e.rules (past item) item)) (some ⟨text item⟩) idx = .ok (check item)) :
    ((ReportStatus.evaluateMissingResources opts (some (evaluateLists e lists).2)).map (.ofEntry ns)).Sublist
        ((listed lists).flatMap (fun item => (check item).missingPrerequisites)) ∧
      ((∀ item ∈ listed lists, item.Identified ∧ Known e item) →
        (listed lists).Pairwise (fun item item' => getUID item.workload ≠ getUID item'.workload) →
        (ReportStatus.evaluateMissingResources opts (some (evaluateLists e lists).2)).map (.ofEntry ns) =
          (listed lists).flatMap (fun item => (check item).missingPrerequisites)) := by
  have hchecks : (listed lists).flatMap (fun item => (check item).missingPrerequisites) =
      (listed lists).flatMap (fun item =>
        (item.found e.rules).map (fun c => .ofEntry ns (missingEntry opts item c))) := by
    apply List.flatMap_congr
    intro item hitem
    rw [missing_of_handleCheck (hmanifest item hitem) (hcheck item hitem), precheck,
      Evaluator.evaluate_zero (hpast item hitem)]
    apply List.map_congr_left
    intro c _
    exact (ofEntry_missingEntry hns (hlisted item hitem) c).symm
  rw [hchecks, entries_of_lists, map_reports]
  refine ⟨reports_sublist _ e _, fun hknown hdistinct => ?_⟩
  exact reports_of_known _ (fun item hitem => (hknown item hitem).1) hdistinct fun item hitem => (hknown item hitem).2

end Agreement

section Monitor
attribute [local instance] Apimachinery.model asciiTables LabelSelectors.model

open Evaluator (app prometheus missingAt monitorMissing)

def appText : String :=
  "apiVersion: apps/v1\nkind: Deployment\nmetadata:\n  name: my-app\n  namespace: team\n" ++
    "  uid: 3f2a77e0-5c3b-4a0e-9c61-0d7f0a4c9b12\n"

@[reducible] def appYaml : Yaml where
  unmarshal text := if text = appText then .ok ⟨app.object⟩ else .error "error unmarshaling JSON"

attribute [local instance] appYaml

def appListed : ListedWorkload := ⟨app, 120000000000, fun _ => .ok [monitorMissing]⟩

def appLists : List (Except String (List ListedWorkload)) := [.ok [appListed], .error "timeout", .ok []]

def appCheck (_ : ListedWorkload) : CheckResult where
  wouldBlock := false
  blockingConstraints := []
  missingPrerequisites := [constraintToMissingResource (ReportStatus.remediationBuilder {}) app monitorMissing]
  warnings := []

theorem report_missing_agrees_app :
    (ReportStatus.evaluateMissingResources {} (some (evaluateLists (prometheus.run [missingAt 0]) appLists).2)).map
        (.ofEntry "team") = [constraintToMissingResource (ReportStatus.remediationBuilder {}) app monitorMissing] := by
  have hitem : ∀ item ∈ listed appLists, item = appListed := fun item h => List.mem_singleton.mp h
  have hns : ∀ item ∈ listed appLists, getNamespace item.workload = "team" := by
    rintro item hmem
    rw [hitem item hmem]
    rfl
  have hpast : ∀ item ∈ listed appLists, ∀ ev ∈ ([] : List Requirements.Event), ev.now ≤ item.now := by simp
  have hmanifest : ∀ item ∈ listed appLists, Yaml.unmarshal appText = .ok ⟨item.workload.object⟩ := by
    rintro item hmem
    rw [hitem item hmem]
    rfl
  have hcheck : ∀ item ∈ listed appLists, handleCheck (ReportStatus.remediationBuilder {}) .summary "t"
      (some (precheck prometheus.rules [] item)) (some ⟨appText⟩) .new = .ok (appCheck item) := by
    rintro item hmem
    rw [hitem item hmem]
    rfl
  have hknown : ∀ item ∈ listed appLists, item.Identified ∧ Known (prometheus.run [missingAt 0]) item := by
    rintro item hmem
    rw [hitem item hmem]
    refine ⟨⟨by decide, by decide⟩, ?_⟩
    rintro r hr c cs -
    cases List.mem_singleton.mp hr
    exact ⟨0, by decide, by decide⟩
  exact (@report_missing_agrees _ _ {} _ _ (prometheus.run [missingAt 0]) appLists "team" (by decide) hns
    (fun _ => []) hpast (fun _ => appText) .summary "t" .new hmanifest appCheck hcheck).2 hknown
    (List.pairwise_singleton _ _)

end Monitor

end Mcp

end Nightjar
