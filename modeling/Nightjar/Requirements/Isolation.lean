import Nightjar.Lib.Noninterference
import Nightjar.Requirements.Evaluator

namespace Nightjar.Requirements

open Lib Lib.Strings Apimachinery FirstSeen

/-- What a workload is for its users, with or without a UID. -/
structure WorkloadID where
  kind : String
  ns : String
  name : String
deriving DecidableEq, Repr

/-- A call of `Evaluate`, with what the rules answer, or of `CleanupStaleEntries`. -/
inductive Call where
  | evaluate (workload : Unstructured) (now : Int) (answers : String → RuleAnswer)
  | cleanup (now : Int)

namespace Call

def now : Call → Int
  | evaluate _ now _ => now
  | cleanup now => now

def Within (P : Unstructured → Prop) : Call → Prop
  | evaluate workload _ _ => P workload
  | cleanup _ => True

end Call

namespace Evaluator

section Calls
variable [Apimachinery]

def call (e : Evaluator) : Call → Evaluator × List Constraint
  | .evaluate workload now answers => e.evaluate (some workload) now answers
  | .cleanup now => (e.cleanupStaleEntries now, [])

/-- The constraints that a list of steps appends to the result. -/
def report (e : Evaluator) : List Event → List Constraint
  | [] => []
  | ev :: events => (e.step ev).2 ++ (e.step ev).1.report events

def ruleEvents (rules : List String) (workload : Unstructured) (now : Int) (answers : String → RuleAnswer) :
    List Event :=
  rules.map (fun rule => Event.rule workload rule now (answers rule))

theorem evaluate_eq_run (e : Evaluator) (workload : Unstructured) (now : Int) (answers : String → RuleAnswer) :
    e.evaluate (some workload) now answers =
      (e.run (ruleEvents e.rules workload now answers), e.report (ruleEvents e.rules workload now answers)) := by
  rw [evaluate_eq]
  have hfold (events : List Event) (e : Evaluator) (result : List Constraint) :
      events.foldl (fun acc ev => ((acc.1.step ev).1, acc.2 ++ (acc.1.step ev).2)) (e, result) =
        (e.run events, result ++ e.report events) := by
    induction events generalizing e result with
    | nil => rw [report, List.append_nil]; rfl
    | cons ev events ih =>
        rw [List.foldl_cons, ih, report, List.append_assoc]
        rfl
  exact hfold ..

theorem step_rule_snd (e : Evaluator) (workload : Unstructured) (r : String) (now : Int) (answer : RuleAnswer) :
    (e.step (.rule workload r now answer)).2 =
      if now - (e.firstSeen.lookup (debounceKey (workloadUID workload) r)).getD now ≥ e.duration
      then answer.toOption.getD [] else [] := by
  rcases answer with _ | _ | ⟨c, cs⟩
  · exact (ite_self _).symm
  · exact (ite_self _).symm
  · rfl

theorem run_ruleEvents_cons (e : Evaluator) (r : String) (rules : List String) (workload : Unstructured) (now : Int)
    (answers : String → RuleAnswer) : e.run (ruleEvents (r :: rules) workload now answers) =
      (e.step (.rule workload r now (answers r))).1.run (ruleEvents rules workload now answers) := rfl

theorem report_ruleEvents_cons (e : Evaluator) (r : String) (rules : List String) (workload : Unstructured) (now : Int)
    (answers : String → RuleAnswer) : e.report (ruleEvents (r :: rules) workload now answers) =
      (e.step (.rule workload r now (answers r))).2 ++
        (e.step (.rule workload r now (answers r))).1.report (ruleEvents rules workload now answers) := rfl

end Calls

end Evaluator

section Isolation
variable [Apimachinery]

def identity (workload : Unstructured) : WorkloadID :=
  ⟨getKind workload, getNamespace workload, getName workload⟩

/-- What the observer of a workload knows: the calls for it, and the cleanups. -/
def Call.concerns (w : WorkloadID) : Call → Bool
  | .evaluate workload _ _ => decide (identity workload = w)
  | .cleanup _ => true

/-- An evaluator that is called for workloads among `P` only. Its rules and its window
are set before the first call; the output is what each evaluation returns, with the
workload it is for. -/
def evaluations (rules : List String) (duration : Int) (P : Unstructured → Prop) :
    Machine (FirstSeen String) {c : Call // c.Within P} (WorkloadID × List Constraint) where
  step firstSeen c :=
    let next := (⟨rules, duration, firstSeen⟩ : Evaluator).call c.1
    (next.1.firstSeen,
      match c.1 with
      | .evaluate workload _ _ => [(identity workload, next.2)]
      | .cleanup _ => [])

def InOrder {P : Unstructured → Prop} (calls : List {c : Call // c.Within P}) : Prop :=
  calls.Pairwise (fun c c' => c.1.now ≤ c'.1.now)

/-- Two runs with the same calls for a workload and the same cleanups return the same
constraints for it, whatever the other calls are. -/
def PerWorkload (rules : List String) (duration : Int) (P : Unstructured → Prop) : Prop :=
  ∀ (w : WorkloadID) (calls calls' : List {c : Call // c.Within P}), InOrder calls → InOrder calls' →
    calls.filter (fun c => c.1.concerns w) = calls'.filter (fun c => c.1.concerns w) →
    (((evaluations rules duration P).run ∅ calls).2.filter (fun out => decide (out.1 = w))) =
      ((evaluations rules duration P).run ∅ calls').2.filter (fun out => decide (out.1 = w))

/-- No two different workloads have a debounce key in common. -/
def KeysApart (rules : List String) (P : Unstructured → Prop) : Prop :=
  ∀ workload workload', P workload → P workload' → identity workload ≠ identity workload' →
    ∀ r ∈ rules, ∀ r' ∈ rules, debounceKey (workloadUID workload) r ≠ debounceKey (workloadUID workload') r'

/-- The keys under which the evaluator keeps what it has seen of a workload. -/
def OwnKey (rules : List String) (P : Unstructured → Prop) (w : WorkloadID) (k : String) : Prop :=
  ∃ workload, P workload ∧ identity workload = w ∧ ∃ r ∈ rules, k = debounceKey (workloadUID workload) r

def Event.Keyed (K : String → Prop) : Event → Prop
  | .rule workload r _ _ => K (debounceKey (workloadUID workload) r)
  | .cleanup _ => True

def AgreeOn (K : String → Prop) (e e' : Evaluator) : Prop :=
  e.duration = e'.duration ∧ ∀ k, K k → e.firstSeen.lookup k = e'.firstSeen.lookup k

variable {K : String → Prop} {e e' : Evaluator}

theorem AgreeOn.step (h : AgreeOn K e e') (ev : Event) : AgreeOn K (e.step ev).1 (e'.step ev).1 := by
  rw [Evaluator.step_fst, Evaluator.step_fst]
  refine ⟨h.1, fun k hk => ?_⟩
  rw [lookup_apply_eq, lookup_apply_eq, h.1, h.2 k hk]

theorem AgreeOn.step_snd (h : AgreeOn K e e') {ev : Event} (hev : ev.Keyed K) : (e.step ev).2 = (e'.step ev).2 := by
  cases ev with
  | rule workload r now answer => rw [Evaluator.step_rule_snd, Evaluator.step_rule_snd, h.1, h.2 _ hev]
  | cleanup now => rfl

theorem AgreeOn.run (h : AgreeOn K e e') {events : List Event} (hevents : ∀ ev ∈ events, ev.Keyed K) :
    AgreeOn K (e.run events) (e'.run events) ∧ e.report events = e'.report events := by
  induction events generalizing e e' with
  | nil => exact ⟨h, rfl⟩
  | cons ev events ih =>
      obtain ⟨hrun, hreport⟩ := ih (h.step ev) (fun ev' hev' => hevents ev' (List.mem_cons_of_mem _ hev'))
      refine ⟨hrun, ?_⟩
      rw [Evaluator.report, Evaluator.report, h.step_snd (hevents ev List.mem_cons_self), hreport]

theorem agreeOn_step_of_other (e : Evaluator) {workload : Unstructured} {r : String} {now : Int} {answer : RuleAnswer}
    (hother : ¬ K (debounceKey (workloadUID workload) r)) : AgreeOn K (e.step (.rule workload r now answer)).1 e := by
  rw [Evaluator.step_fst]
  refine ⟨rfl, fun k hk => ?_⟩
  have hne : k ≠ debounceKey (workloadUID workload) r := by
    rintro rfl
    exact hother hk
  rw [lookup_apply_eq]
  rcases answer with _ | _ | ⟨c, cs⟩
  · rfl
  · exact if_neg hne
  · exact if_neg hne

omit [Apimachinery] in
theorem AgreeOn.trans {e'' : Evaluator} (h : AgreeOn K e e') (h' : AgreeOn K e' e'') : AgreeOn K e e'' :=
  ⟨h.1.trans h'.1, fun k hk => (h.2 k hk).trans (h'.2 k hk)⟩

theorem agreeOn_run_of_other (e : Evaluator) {workload : Unstructured} {now : Int} {answers : String → RuleAnswer}
    {rules : List String} (hother : ∀ r ∈ rules, ¬ K (debounceKey (workloadUID workload) r)) :
    AgreeOn K (e.run (Evaluator.ruleEvents rules workload now answers)) e := by
  induction rules generalizing e with
  | nil => exact ⟨rfl, fun _ _ => rfl⟩
  | cons r rules ih =>
      have hrest := ih (e.step (.rule workload r now (answers r))).1
        (fun r' hr' => hother r' (List.mem_cons_of_mem _ hr'))
      exact hrest.trans (agreeOn_step_of_other e (hother r List.mem_cons_self))

section Runs
variable {rules : List String} {duration : Int} {P : Unstructured → Prop} {w : WorkloadID} {m m' : FirstSeen String}
  {workload : Unstructured}

theorem evaluations_evaluate {workload : Unstructured} {now : Int} {answers : String → RuleAnswer}
    (hP : (Call.evaluate workload now answers).Within P) :
    (evaluations rules duration P).step m ⟨.evaluate workload now answers, hP⟩ =
      let e : Evaluator := ⟨rules, duration, m⟩
      let events := Evaluator.ruleEvents rules workload now answers
      ((e.run events).firstSeen, [(identity workload, e.report events)]) := by
  have heq := Evaluator.evaluate_eq_run ⟨rules, duration, m⟩ workload now answers
  exact congrArg (fun next : Evaluator × List Constraint => (next.1.firstSeen, [(identity workload, next.2)])) heq

omit [Apimachinery] in
theorem agreeOn_iff : AgreeOn K ⟨rules, duration, m⟩ ⟨rules, duration, m'⟩ ↔
    (fun k : {k // K k} => m.lookup k.1) = fun k : {k // K k} => m'.lookup k.1 := by
  refine ⟨fun h => funext fun k => h.2 k.1 k.2, fun h => ⟨rfl, fun k hk => ?_⟩⟩
  exact congrFun h ⟨k, hk⟩

theorem keyed_ruleEvents {workload : Unstructured} {now : Int} {answers : String → RuleAnswer} (hP : P workload) :
    ∀ ev ∈ Evaluator.ruleEvents rules workload now answers, ev.Keyed (OwnKey rules P (identity workload)) := by
  intro ev hev
  obtain ⟨r, hr, rfl⟩ := List.mem_map.mp hev
  exact ⟨workload, hP, rfl, r, hr, rfl⟩

theorem not_ownKey_of_keysApart (hkeys : KeysApart rules P) {workload : Unstructured} (hP : P workload)
    (hw : identity workload ≠ w) {r : String} (hr : r ∈ rules) :
    ¬ OwnKey rules P w (debounceKey (workloadUID workload) r) := by
  rintro ⟨workload', hP', rfl, r', hr', heq⟩
  exact hkeys workload workload' hP hP' hw r hr r' hr' heq

theorem AgreeOn.call (h : AgreeOn (OwnKey rules P w) ⟨rules, duration, m⟩ ⟨rules, duration, m'⟩)
    (c : {c : Call // c.Within P}) (hc : c.1.concerns w = true) :
    AgreeOn (OwnKey rules P w) ((⟨rules, duration, m⟩ : Evaluator).call c.1).1
        ((⟨rules, duration, m'⟩ : Evaluator).call c.1).1 ∧
      ((⟨rules, duration, m⟩ : Evaluator).call c.1).2 = ((⟨rules, duration, m'⟩ : Evaluator).call c.1).2 := by
  obtain ⟨⟨workload, now, answers⟩ | now, hP⟩ := c
  · obtain rfl : identity workload = w := of_decide_eq_true hc
    rw [Evaluator.call, Evaluator.call, Evaluator.evaluate_eq_run, Evaluator.evaluate_eq_run]
    exact h.run (keyed_ruleEvents hP)
  · exact ⟨h.step (.cleanup now), rfl⟩

theorem agreeOn_call_of_other (hkeys : KeysApart rules P) (c : {c : Call // c.Within P})
    (hc : c.1.concerns w = false) :
    AgreeOn (OwnKey rules P w) ((⟨rules, duration, m⟩ : Evaluator).call c.1).1 ⟨rules, duration, m⟩ := by
  obtain ⟨⟨workload, now, answers⟩ | now, hP⟩ := c
  · have hw : identity workload ≠ w := of_decide_eq_false hc
    rw [Evaluator.call, Evaluator.evaluate_eq_run]
    exact agreeOn_run_of_other _ (fun r hr => not_ownKey_of_keysApart hkeys hP hw hr)
  · cases hc

theorem unwinding_of_keysApart (hkeys : KeysApart rules P) (w : WorkloadID) :
    (evaluations rules duration P).Unwinding
      (fun firstSeen => fun k : {k // OwnKey rules P w k} => firstSeen.lookup k.1)
      (fun c => c.1.concerns w) (fun out => decide (out.1 = w)) where
  view_hidden m c hc := funext fun k => (agreeOn_call_of_other hkeys c hc).2 k.1 k.2
  output_hidden m c hc := by
    obtain ⟨⟨workload, now, answers⟩ | now, hP⟩ := c
    · exact List.filter_cons_of_neg (by simpa [Call.concerns] using hc)
    · cases hc
  view_shown {m m' c} hc hview := by
    have hagree : AgreeOn (OwnKey rules P w) ⟨rules, duration, m⟩ ⟨rules, duration, m'⟩ := agreeOn_iff.mpr hview
    exact funext fun k => (hagree.call c hc).1.2 k.1 k.2
  output_shown {m m' c} hc hview := by
    have hagree : AgreeOn (OwnKey rules P w) ⟨rules, duration, m⟩ ⟨rules, duration, m'⟩ := agreeOn_iff.mpr hview
    have houtput := (hagree.call c hc).2
    obtain ⟨⟨workload, now, answers⟩ | now, hP⟩ := c
    · rw [evaluations]
      dsimp only at houtput ⊢
      rw [houtput]
    · rfl

theorem perWorkload_of_keysApart (hkeys : KeysApart rules P) : PerWorkload rules duration P :=
  fun w _ _ _ _ hconcerns => (unwinding_of_keysApart hkeys w).output_eq ∅ hconcerns

def reported (rules : List String) (answers : String → RuleAnswer) : List Constraint :=
  rules.flatMap (fun r => (answers r).toOption.getD [])

def NotAfter (m : FirstSeen String) (t : Int) : Prop := ∀ k t₀, m.lookup k = some t₀ → t₀ ≤ t

theorem notAfter_step (e : Evaluator) {t : Int} (hm : NotAfter e.firstSeen t) (ev : Event)
    (hev : ∀ workload r now answer, ev = .rule workload r now answer → now = t) :
    NotAfter (e.step ev).1.firstSeen t := by
  rw [Evaluator.step_fst]
  intro k t₀ hlookup
  rcases lookup_apply hlookup with ⟨hseen, -⟩ | ⟨hold, -⟩
  · obtain ⟨workload, r, c, cs, rfl, -⟩ := Event.effect_eq_seen hseen
    exact (hev workload r t₀ _ rfl).le
  · exact hm k t₀ hold

theorem report_of_nonpos (e : Evaluator) (rules : List String) (workload : Unstructured) {t : Int}
    (answers : String → RuleAnswer) (hduration : e.duration ≤ 0) (hm : NotAfter e.firstSeen t) :
    e.report (Evaluator.ruleEvents rules workload t answers) = reported rules answers ∧
      NotAfter (e.run (Evaluator.ruleEvents rules workload t answers)).firstSeen t := by
  induction rules generalizing e with
  | nil => exact ⟨rfl, hm⟩
  | cons r rules ih =>
      have hnext : NotAfter (e.step (.rule workload r t (answers r))).1.firstSeen t := by
        refine notAfter_step e hm _ ?_
        rintro _ _ _ _ ⟨⟩
        rfl
      have hduration' : (e.step (.rule workload r t (answers r))).1.duration ≤ 0 := by
        rw [Evaluator.step_fst]
        exact hduration
      obtain ⟨hreport, hrun⟩ := ih _ hduration' hnext
      refine ⟨?_, hrun⟩
      have hwindow : t - (e.firstSeen.lookup (debounceKey (workloadUID workload) r)).getD t ≥ e.duration := by
        cases hlookup : e.firstSeen.lookup (debounceKey (workloadUID workload) r) with
        | none => simpa using hduration
        | some t₀ =>
            have := hm _ _ hlookup
            rw [Option.getD_some]
            omega
      rw [Evaluator.report_ruleEvents_cons, hreport, Evaluator.step_rule_snd, if_pos hwindow]
      rfl

def Call.output (rules : List String) : Call → List (WorkloadID × List Constraint)
  | .evaluate workload _ answers => [(identity workload, reported rules answers)]
  | .cleanup _ => []

theorem step_of_nonpos (hduration : duration ≤ 0) (c : {c : Call // c.Within P}) (hm : NotAfter m c.1.now) :
    ((evaluations rules duration P).step m c).2 = c.1.output rules ∧
      NotAfter ((evaluations rules duration P).step m c).1 c.1.now := by
  obtain ⟨⟨workload, now, answers⟩ | now, hP⟩ := c
  · obtain ⟨hreport, hrun⟩ := report_of_nonpos ⟨rules, duration, m⟩ rules workload answers hduration hm
    rw [evaluations_evaluate]
    exact ⟨congrArg (fun result => [(identity workload, result)]) hreport, hrun⟩
  · exact ⟨rfl, notAfter_step ⟨rules, duration, m⟩ hm (.cleanup now) nofun⟩

theorem run_of_nonpos (hduration : duration ≤ 0) {calls : List {c : Call // c.Within P}} (hcalls : InOrder calls)
    (hm : ∀ c ∈ calls, NotAfter m c.1.now) :
    ((evaluations rules duration P).run m calls).2 = calls.flatMap (fun c => c.1.output rules) := by
  induction calls generalizing m with
  | nil => rfl
  | cons c calls ih =>
      obtain ⟨hfirst, hrest⟩ := List.pairwise_cons.mp hcalls
      obtain ⟨houtput, hnext⟩ := step_of_nonpos hduration c (hm c List.mem_cons_self)
      rw [Machine.run, List.flatMap_cons, houtput]
      refine congrArg _ (ih hrest fun c' hc' k t₀ hlookup => ?_)
      exact (hnext k t₀ hlookup).trans (hfirst c' hc')

omit [Apimachinery] in
theorem notAfter_empty (t : Int) : NotAfter ∅ t := by
  intro k t₀ hlookup
  cases hlookup

theorem filter_output (w : WorkloadID) (calls : List {c : Call // c.Within P}) :
    (calls.flatMap (fun c => c.1.output rules)).filter (fun out => decide (out.1 = w)) =
      (calls.filter (fun c => c.1.concerns w)).flatMap (fun c => c.1.output rules) := by
  induction calls with
  | nil => rfl
  | cons c calls ih =>
      rw [List.flatMap_cons, List.filter_append, ih]
      obtain ⟨⟨workload, now, answers⟩ | now, hP⟩ := c
      · by_cases hw : identity workload = w
        · rw [List.filter_cons_of_pos (by simpa [Call.concerns] using hw), List.flatMap_cons]
          exact congrArg (· ++ _) (List.filter_cons_of_pos (decide_eq_true hw))
        · rw [List.filter_cons_of_neg (by simpa [Call.concerns] using hw)]
          exact congrArg (· ++ _) (List.filter_cons_of_neg (by simpa using hw))
      · rfl

theorem perWorkload_of_nonpos (hduration : duration ≤ 0) : PerWorkload rules duration P := by
  intro w calls calls' hcalls hcalls' hconcerns
  rw [run_of_nonpos hduration hcalls (fun c _ => notAfter_empty c.1.now),
    run_of_nonpos hduration hcalls' (fun c _ => notAfter_empty c.1.now), filter_output, filter_output, hconcerns]

def onlyMissing (r : String) (c : Constraint) (r' : String) : RuleAnswer :=
  if r' = r then .ok [c] else .error "rule failed"

theorem step_onlyMissing_of_ne (e : Evaluator) {workload : Unstructured} {now : Int} {r r' : String} {c : Constraint}
    (hr : r' ≠ r) : e.step (.rule workload r' now (onlyMissing r c r')) = (e, []) := by
  rw [onlyMissing, if_neg hr]
  rfl

theorem lookup_step_onlyMissing (e : Evaluator) (workload : Unstructured) (now : Int) (r : String) (c : Constraint) :
    (e.step (.rule workload r now (onlyMissing r c r))).1.firstSeen.lookup (debounceKey (workloadUID workload) r) =
      some ((e.firstSeen.lookup (debounceKey (workloadUID workload) r)).getD now) := by
  rw [Evaluator.step_fst, onlyMissing, if_pos rfl]
  exact lookup_seen ..

theorem lookup_run_onlyMissing (e : Evaluator) (rules : List String) (workload : Unstructured) (now : Int) (r : String)
    (c : Constraint) :
    (e.run (Evaluator.ruleEvents rules workload now (onlyMissing r c))).firstSeen.lookup
        (debounceKey (workloadUID workload) r) =
      if r ∈ rules then some ((e.firstSeen.lookup (debounceKey (workloadUID workload) r)).getD now)
      else e.firstSeen.lookup (debounceKey (workloadUID workload) r) := by
  induction rules generalizing e with
  | nil => rfl
  | cons r' rules ih =>
      rw [Evaluator.run_ruleEvents_cons, ih]
      by_cases hr : r' = r
      · subst hr
        rw [lookup_step_onlyMissing, if_pos List.mem_cons_self]
        exact ite_self _
      · rw [step_onlyMissing_of_ne e hr]
        simp only [List.mem_cons, Ne.symm hr, false_or]

theorem report_onlyMissing (e : Evaluator) (rules : List String) (workload : Unstructured) (now : Int) (r : String)
    (c : Constraint) :
    e.report (Evaluator.ruleEvents rules workload now (onlyMissing r c)) =
      if now - (e.firstSeen.lookup (debounceKey (workloadUID workload) r)).getD now ≥ e.duration
      then List.replicate (rules.count r) c else [] := by
  induction rules generalizing e with
  | nil => exact (ite_self _).symm
  | cons r' rules ih =>
      rw [Evaluator.report_ruleEvents_cons, ih]
      by_cases hr : r' = r
      · subst hr
        rw [Evaluator.step_rule_snd, lookup_step_onlyMissing, Evaluator.step_fst, Option.getD_some,
          List.count_cons_self, List.replicate_succ, onlyMissing, if_pos rfl]
        split <;> rfl
      · rw [step_onlyMissing_of_ne e hr, List.count_cons_of_ne hr, List.nil_append]

theorem evaluations_onlyMissing (rules : List String) (duration : Int) (hP : P workload) (m : FirstSeen String)
    (now : Int) (r : String) (c : Constraint) :
    let key := debounceKey (workloadUID workload) r
    let next := (evaluations rules duration P).step m ⟨.evaluate workload now (onlyMissing r c), hP⟩
    next.2 = [(identity workload,
      if now - (m.lookup key).getD now ≥ duration then List.replicate (rules.count r) c else [])] ∧
    next.1.lookup key = if r ∈ rules then some ((m.lookup key).getD now) else m.lookup key := by
  intro key next
  have hnext : next = _ := evaluations_evaluate hP
  rw [hnext]
  refine ⟨?_, lookup_run_onlyMissing ..⟩
  exact congrArg (fun result => [(identity workload, result)]) (report_onlyMissing ..)

theorem not_perWorkload_of_shared (hduration : 0 < duration) {workload' : Unstructured} {r r' : String}
    (hP : P workload) (hP' : P workload') (hid : identity workload ≠ identity workload') (hr : r ∈ rules)
    (hr' : r' ∈ rules) (hkey : debounceKey (workloadUID workload) r = debounceKey (workloadUID workload') r') :
    ¬ PerWorkload rules duration P := by
  intro h
  let c := Evaluator.monitorMissing
  let other : {c : Call // c.Within P} := ⟨.evaluate workload' 0 (onlyMissing r' c), hP'⟩
  let own : {c : Call // c.Within P} := ⟨.evaluate workload duration (onlyMissing r c), hP⟩
  have hsame := h (identity workload) [own] [other, own] (List.pairwise_singleton _ _)
    (List.pairwise_pair.mpr hduration.le) (by simp [other, own, Call.concerns, hid.symm])
  simp only [Machine.run, List.append_nil, List.filter_append] at hsame
  obtain ⟨halone, -⟩ := evaluations_onlyMissing rules duration hP ∅ duration r c
  rw [AList.lookup_empty, Option.getD_none, if_neg (by omega)] at halone
  obtain ⟨hother, hentry⟩ := evaluations_onlyMissing rules duration hP' ∅ 0 r' c
  rw [AList.lookup_empty, Option.getD_none, if_pos hr'] at hentry
  obtain ⟨hafter, -⟩ := evaluations_onlyMissing rules duration hP ((evaluations rules duration P).step ∅ other).1
    duration r c
  rw [hkey, hentry, Option.getD_some, if_pos (by omega)] at hafter
  have hcount : 0 < rules.count r := List.count_pos_iff.mpr hr
  rw [halone, hother, hafter] at hsame
  simp [hid.symm] at hsame
  omega

end Runs

/-- The debounce state is per workload exactly when there is no window, or no two
workloads share a key. -/
theorem perWorkload_iff (rules : List String) (duration : Int) (P : Unstructured → Prop) :
    PerWorkload rules duration P ↔ duration ≤ 0 ∨ KeysApart rules P := by
  constructor
  · intro h
    by_contra hcontra
    obtain ⟨hduration, hshared⟩ := not_or.mp hcontra
    refine hshared fun workload workload' hP hP' hid r hr r' hr' hkey => ?_
    exact not_perWorkload_of_shared (not_le.mp hduration) hP hP' hid hr hr' hkey h
  · rintro (hduration | hkeys)
    · exact perWorkload_of_nonpos hduration
    · exact perWorkload_of_keysApart hkeys

end Isolation

section Manifests
attribute [local instance] Apimachinery.model

def manifestOf (kind : String) : Unstructured :=
  ⟨[("kind", .str kind), ("metadata", .map [("name", .str "web"), ("namespace", .str "team")])]⟩

def manifestCall (kind : String) (seconds : Int) : {c : Call // c.Within (fun _ => True)} :=
  ⟨.evaluate (manifestOf kind) (seconds * 1000000000) (onlyMissing "prometheus-monitor" Evaluator.monitorMissing),
    trivial⟩

theorem statefulSet_ends_window :
    let evaluator := evaluations ["prometheus-monitor"] defaultDebounceDuration (fun _ => True)
    let deployment : WorkloadID := ⟨"Deployment", "team", "web"⟩
    let alone := [manifestCall "Deployment" 120]
    let after := [manifestCall "StatefulSet" 0, manifestCall "Deployment" 120]
    InOrder alone ∧ InOrder after ∧
    alone.filter (fun c => c.1.concerns deployment) = after.filter (fun c => c.1.concerns deployment) ∧
    ((evaluator.run ∅ alone).2.filter (fun out => decide (out.1 = deployment))).map (fun out => out.2.length) = [0] ∧
    ((evaluator.run ∅ after).2.filter (fun out => decide (out.1 = deployment))).map
      (fun out => out.2.length) = [1] := by
  intro evaluator deployment alone after
  refine ⟨List.pairwise_singleton _ _, List.pairwise_pair.mpr (by decide), rfl, by decide +kernel, by decide +kernel⟩

end Manifests

end Nightjar.Requirements
