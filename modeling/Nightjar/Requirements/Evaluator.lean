import Nightjar.Unstructured
import Nightjar.Lib.FirstSeen

namespace Nightjar.Requirements

open Lib Lib.Strings Apimachinery FirstSeen

def defaultDebounceDuration : Int := 120 * 1000000000

/-- The evaluator. Its rules are known by their names; what they answer changes from
call to call. -/
structure Evaluator where
  rules : List String
  duration : Int := defaultDebounceDuration
  firstSeen : FirstSeen String := ∅

/-- What a rule answers for a workload: the constraints for what is missing, none when
nothing is, or an error. -/
abbrev RuleAnswer := Except String (List Constraint)

def debounceKey (workloadUID rule : String) : String := workloadUID ++ ":" ++ rule

section Evaluate
variable [Apimachinery]

def workloadUID (workload : Unstructured) : String :=
  if getUID workload = "" then getNamespace workload ++ "/" ++ getName workload else getUID workload

namespace Evaluator

def evaluateRule (e : Evaluator) (workload : Unstructured) (now : Int) (rule : String) (answer : RuleAnswer) :
    Evaluator × List Constraint :=
  let key := debounceKey (workloadUID workload) rule
  match answer with
  | .error _ => (e, [])
  | .ok [] => ({ e with firstSeen := e.firstSeen.erase key }, [])
  | .ok constraints =>
      let firstSeen := (e.firstSeen.lookup key).getD now
      ({ e with firstSeen := if (e.firstSeen.lookup key).isSome then e.firstSeen else e.firstSeen.insert key now },
        if now - firstSeen ≥ e.duration then constraints else [])

def evaluate (e : Evaluator) (workload : Option Unstructured) (now : Int) (answers : String → RuleAnswer) :
    Evaluator × List Constraint :=
  match workload with
  | none => (e, [])
  | some workload => e.rules.foldl (fun (e, result) rule =>
      let next := e.evaluateRule workload now rule (answers rule)
      (next.1, result ++ next.2)) (e, [])

omit [Apimachinery] in
def cleanupStaleEntries (e : Evaluator) (now : Int) : Evaluator :=
  { e with firstSeen := e.firstSeen.restrict (fun _ firstSeen => !decide (now - firstSeen > 2 * e.duration)) }

end Evaluator

/-- The steps of calls of `Evaluate` and `CleanupStaleEntries`. A cleanup may come
between any two rules. -/
inductive Event where
  | rule (workload : Unstructured) (rule : String) (now : Int) (answer : RuleAnswer)
  | cleanup (now : Int)

namespace Event

/-- The rule found nothing missing for the workload. -/
def Present (uid rule : String) : Event → Prop
  | .rule workload r _ (.ok []) => getUID workload = uid ∧ r = rule
  | _ => False

/-- The workload has a UID like those the API server assigns. -/
def Identified : Event → Prop
  | .rule workload _ _ _ => getUID workload ≠ "" ∧ ':' ∉ (getUID workload).toList
  | .cleanup _ => True

instance : DecidablePred Identified
  | .rule workload _ _ _ => inferInstanceAs (Decidable (getUID workload ≠ "" ∧ ':' ∉ (getUID workload).toList))
  | .cleanup _ => isTrue trivial

def effect (duration : Int) : Event → Effect String
  | .rule _ _ _ (.error _) => .nothing
  | .rule workload r _ (.ok []) => .cleared (debounceKey (workloadUID workload) r)
  | .rule workload r now (.ok (_ :: _)) => .seen (debounceKey (workloadUID workload) r) now
  | .cleanup now => .swept (2 * duration) now

end Event

namespace Evaluator

def step (e : Evaluator) : Event → Evaluator × List Constraint
  | .rule workload rule now answer => e.evaluateRule workload now rule answer
  | .cleanup now => (e.cleanupStaleEntries now, [])

def run (e : Evaluator) (events : List Event) : Evaluator := events.foldl (fun e ev => (e.step ev).1) e

theorem evaluate_eq (e : Evaluator) (workload : Unstructured) (now : Int) (answers : String → RuleAnswer) :
    e.evaluate (some workload) now answers =
      (e.rules.map (fun rule => Event.rule workload rule now (answers rule))).foldl
        (fun (e, result) ev => ((e.step ev).1, result ++ (e.step ev).2)) (e, []) := by
  rw [evaluate, List.foldl_map]
  rfl

theorem step_fst (e : Evaluator) (ev : Event) :
    (e.step ev).1 = { e with firstSeen := e.firstSeen.apply (ev.effect e.duration) } := by
  rcases ev with ⟨workload, rule, now, _ | _ | _⟩ | now <;> rfl

theorem run_append (e : Evaluator) (events events' : List Event) :
    e.run (events ++ events') = (e.run events).run events' := List.foldl_append

theorem run_eq (e : Evaluator) (events : List Event) :
    e.run events = { e with firstSeen := e.firstSeen.run (events.map (Event.effect e.duration)) } := by
  induction events using List.reverseRecOn with
  | nil => rfl
  | append_singleton events ev ih =>
      rw [run_append, ih, List.map_append, List.map_singleton, FirstSeen.run_concat]
      exact step_fst ..

end Evaluator

omit [Apimachinery] in
theorem debounceKey_inj {uid uid' rule rule' : String} (huid : ':' ∉ uid.toList) (huid' : ':' ∉ uid'.toList) :
    debounceKey uid rule = debounceKey uid' rule' ↔ uid = uid' ∧ rule = rule' :=
  append_sep_inj (by decide) huid huid'

namespace Event

variable {workload workload' : Unstructured} {r r' : String} {now now' duration : Int} {answer answer' : RuleAnswer}

theorem Identified.workloadUID (h : (Event.rule workload r now answer).Identified) :
    workloadUID workload = getUID workload :=
  if_neg h.1

theorem Identified.key_inj (h : (Event.rule workload r now answer).Identified)
    (h' : (Event.rule workload' r' now' answer').Identified) :
    debounceKey (Requirements.workloadUID workload) r = debounceKey (Requirements.workloadUID workload') r' ↔
      getUID workload = getUID workload' ∧ r = r' := by
  rw [h.workloadUID, h'.workloadUID]
  exact debounceKey_inj h.2 h'.2

theorem effect_eq_seen {ev : Event} {k : String} {t : Int} (h : ev.effect duration = .seen k t) :
    ∃ workload r c cs, ev = .rule workload r t (.ok (c :: cs)) ∧
      k = debounceKey (Requirements.workloadUID workload) r := by
  rcases ev with ⟨workload, r, now, _ | _ | ⟨c, cs⟩⟩ | now
  · cases h
  · cases h
  · cases h
    exact ⟨workload, r, c, cs, rfl, rfl⟩
  · cases h

theorem effect_eq_cleared_iff {ev : Event} (hev : ev.Identified) (hw : (Event.rule workload r now answer).Identified) :
    ev.effect duration = .cleared (debounceKey (Requirements.workloadUID workload) r) ↔
      ev.Present (getUID workload) r := by
  rcases ev with ⟨workload', r', now', _ | _ | ⟨c, cs⟩⟩ | now'
  · exact iff_of_false nofun id
  · rw [effect, Effect.cleared.injEq]
    exact hev.key_inj hw
  · exact iff_of_false nofun id
  · exact iff_of_false nofun id

theorem effect_eq_swept {ev : Event} {maxAge : Int} (h : ev.effect duration = .swept maxAge now) :
    ev = .cleanup now ∧ maxAge = 2 * duration := by
  rcases ev with ⟨workload', r', now', _ | _ | ⟨c, cs⟩⟩ | now'
  · cases h
  · cases h
  · cases h
  · cases h
    exact ⟨rfl, rfl⟩

end Event

namespace Evaluator

variable {e : Evaluator} {before : List Event} {workload : Unstructured} {r : String} {t : Int}
  {cs : List Constraint}

theorem emitted {answer : RuleAnswer} (h : (e.step (.rule workload r t answer)).2 ≠ []) :
    ∃ c cs, answer = .ok (c :: cs) ∧
      e.duration ≤ t - (e.firstSeen.lookup (debounceKey (workloadUID workload) r)).getD t := by
  rcases answer with _ | _ | ⟨c, cs⟩
  · exact absurd rfl h
  · exact absurd rfl h
  · refine ⟨c, cs, rfl, ?_⟩
    by_contra hlt
    exact h (if_neg hlt)

/-- An evaluation emits the constraints of a rule only after the rule has reported them
missing at least the debounce window before, with no report that they are present
since. -/
theorem debounce_sound {rules : List String} {duration : Int} {answer : RuleAnswer}
    (hids : ∀ ev ∈ before ++ [Event.rule workload r t answer], ev.Identified)
    (hemit : (((⟨rules, duration, ∅⟩ : Evaluator).run before).step (.rule workload r t answer)).2 ≠ []) :
    ∃ earlier w t₀ cs later, before ++ [Event.rule workload r t answer] =
        earlier ++ .rule w r t₀ (.ok cs) :: later ∧
      getUID w = getUID workload ∧ cs ≠ [] ∧ t₀ ≤ t - duration ∧
      ∀ ev ∈ later, ¬ ev.Present (getUID workload) r := by
  obtain ⟨c, cs, rfl, hwindow⟩ := emitted hemit
  rw [run_eq] at hwindow
  dsimp only at hwindow
  have hthis : (Event.rule workload r t (.ok (c :: cs))).Identified :=
    hids _ (List.mem_append_right _ List.mem_cons_self)
  cases hlookup : (FirstSeen.run ∅ (before.map (Event.effect duration))).lookup
      (debounceKey (workloadUID workload) r) with
  | none =>
      rw [hlookup, Option.getD_none] at hwindow
      exact ⟨before, workload, t, c :: cs, [], rfl, rfl, List.cons_ne_nil _ _, by omega, nofun⟩
  | some t₀ =>
      rw [hlookup, Option.getD_some] at hwindow
      obtain ⟨effects, effects', hsplit, hcleared⟩ := exists_seen_of_lookup hlookup
      obtain ⟨earlier, rest, rfl, rfl, hrest⟩ := List.map_eq_append_iff.mp hsplit
      obtain ⟨ev, later, rfl, hseen, rfl⟩ := List.map_eq_cons_iff.mp hrest
      obtain ⟨w, r', c', cs', rfl, hkey⟩ := Event.effect_eq_seen hseen
      have hw : (Event.rule w r' t₀ (.ok (c' :: cs'))).Identified := hids _ (by simp)
      obtain ⟨huid, rfl⟩ := (hthis.key_inj hw).mp hkey
      refine ⟨earlier, w, t₀, c' :: cs', later ++ [Event.rule workload r t (.ok (c :: cs))],
        by rw [List.append_assoc, List.cons_append], huid.symm, List.cons_ne_nil _ _, by omega, ?_⟩
      intro ev hev hpresent
      rcases List.mem_append.mp hev with hev | hev
      · have hev' := hids ev (by simp [hev])
        exact hcleared (List.mem_map.mpr ⟨ev, hev, (Event.effect_eq_cleared_iff hev' hthis).mpr hpresent⟩)
      · rw [List.mem_singleton.mp hev] at hpresent
        exact hpresent

def spares (e : Evaluator) (workload : Unstructured) (r : String) : Event → Bool
  | .cleanup now => (e.firstSeen.lookup (debounceKey (workloadUID workload) r)).all
      (fun t₀ => decide (now - t₀ ≤ 2 * e.duration))
  | .rule .. => true

def sparesAll (e : Evaluator) (workload : Unstructured) (r : String) : List Event → Bool
  | [] => true
  | ev :: events => e.spares workload r ev && (e.step ev).1.sparesAll workload r events

theorem sparesAll_append (e : Evaluator) (workload : Unstructured) (r : String) (events events' : List Event) :
    e.sparesAll workload r (events ++ events') =
      (e.sparesAll workload r events && (e.run events).sparesAll workload r events') := by
  induction events generalizing e with
  | nil => rfl
  | cons ev events ih =>
      rw [List.cons_append, sparesAll, sparesAll, ih, Bool.and_assoc]
      rfl

theorem lookup_of_emitted {between : List Event} {answer : RuleAnswer}
    (hids : ∀ ev ∈ Event.rule workload r t answer :: between, ev.Identified)
    (hemit : (e.step (.rule workload r t answer)).2 ≠ [])
    (hpresent : ∀ ev ∈ between, ¬ ev.Present (getUID workload) r)
    (hspares : e.sparesAll workload r (.rule workload r t answer :: between) = true) :
    ∃ t₀, e.duration ≤ t - t₀ ∧ (e.run (.rule workload r t answer :: between)).firstSeen.lookup
      (debounceKey (workloadUID workload) r) = some t₀ := by
  obtain ⟨c, cs, rfl, hwindow⟩ := emitted hemit
  refine ⟨_, hwindow, ?_⟩
  rw [run_eq, List.map_cons, FirstSeen.run, List.foldl_cons]
  refine lookup_run_of_kept (lookup_seen ..) ?_ ?_
  · intro hmem
    obtain ⟨ev, hev, heffect⟩ := List.mem_map.mp hmem
    have hev' := hids ev (List.mem_cons_of_mem _ hev)
    exact hpresent ev hev ((Event.effect_eq_cleared_iff hev' (hids _ List.mem_cons_self)).mp heffect)
  · intro effects maxAge now effects' hsplit hlookup
    obtain ⟨earlier, rest, rfl, rfl, hrest⟩ := List.map_eq_append_iff.mp hsplit
    obtain ⟨ev, later, rfl, hswept, rfl⟩ := List.map_eq_cons_iff.mp hrest
    obtain ⟨rfl, rfl⟩ := Event.effect_eq_swept hswept
    rw [← List.cons_append, sparesAll_append, Bool.and_eq_true] at hspares
    obtain ⟨hspare, -⟩ := Bool.and_eq_true_iff.mp hspares.2
    rw [run_eq, spares, Option.all_eq_true] at hspare
    exact of_decide_eq_true (hspare _ hlookup)

/-- Once reported, a missing resource is reported by every later evaluation until one
finds it present, as long as the cleanups since the report spare the entry of the pair. -/
theorem stays_reported {between : List Event} {answer : RuleAnswer} {workload' : Unstructured} {t' : Int}
    (hids : ∀ ev ∈ before ++ Event.rule workload r t answer :: between ++ [Event.rule workload' r t' (.ok cs)],
      ev.Identified)
    (hspares : (e.run before).sparesAll workload r (.rule workload r t answer :: between) = true)
    (hemit : ((e.run before).step (.rule workload r t answer)).2 ≠ [])
    (hpresent : ∀ ev ∈ between, ¬ ev.Present (getUID workload) r)
    (huid : getUID workload' = getUID workload) (hclock : t ≤ t') :
    ((e.run (before ++ .rule workload r t answer :: between)).step (.rule workload' r t' (.ok cs))).2 = cs := by
  have hthis : (Event.rule workload r t answer).Identified := hids _ (by simp)
  have hthat : (Event.rule workload' r t' (.ok cs)).Identified := hids _ (by simp)
  have hkey := (hthat.key_inj hthis).mpr ⟨huid, rfl⟩
  have hids' : ∀ ev ∈ Event.rule workload r t answer :: between, ev.Identified := fun ev hev =>
    hids ev (List.mem_append_left _ (List.mem_append_right _ hev))
  obtain ⟨t₀, hwindow, hlookup⟩ := lookup_of_emitted hids' hemit hpresent hspares
  rw [run_append]
  have hduration : ((e.run before).run (.rule workload r t answer :: between)).duration = (e.run before).duration := by
    rw [run_eq]
  rcases cs with _ | ⟨c, cs⟩
  · rfl
  · refine if_pos ?_
    rw [hkey, hlookup, hduration, Option.getD_some]
    omega

end Evaluator

end Evaluate

section Prometheus
attribute [local instance] Apimachinery.model

namespace Evaluator

def prometheus : Evaluator where
  rules := ["prometheus-monitor"]

def app : Unstructured :=
  ⟨[("apiVersion", .str "apps/v1"), ("kind", .str "Deployment"),
    ("metadata", .map [("name", .str "my-app"), ("namespace", .str "team"),
      ("uid", .str "3f2a77e0-5c3b-4a0e-9c61-0d7f0a4c9b12")])]⟩

def monitorMissing : Constraint where
  uid := "m"
  source := ⟨"monitoring.coreos.com", "v1", "servicemonitors"⟩
  name := "missing-servicemonitor"
  ns := "team"
  constraintType := .missing
  effect := "missing"
  severity := .warning
  summary := "No ServiceMonitor selects the workload"

def missingAt (seconds : Int) : Event :=
  .rule app "prometheus-monitor" (seconds * 1000000000) (.ok [monitorMissing])

def cleanupAt (seconds : Int) : Event := .cleanup (seconds * 1000000000)

theorem debounce_sound_prometheus :
    ((prometheus.run [missingAt 0, cleanupAt 120]).step (missingAt 120)).2 ≠ [] ∧
    ∃ earlier w t₀ cs later, [missingAt 0, cleanupAt 120] ++ [missingAt 120] =
        earlier ++ .rule w "prometheus-monitor" t₀ (.ok cs) :: later ∧
      getUID w = getUID app ∧ cs ≠ [] ∧ t₀ ≤ 120 * 1000000000 - defaultDebounceDuration ∧
      ∀ ev ∈ later, ¬ ev.Present (getUID app) "prometheus-monitor" := by
  have hemit : ((prometheus.run [missingAt 0, cleanupAt 120]).step (missingAt 120)).2 ≠ [] := by
    have hlength : ((prometheus.run [missingAt 0, cleanupAt 120]).step (missingAt 120)).2.length = 1 := by decide
    intro hnil
    rw [hnil] at hlength
    cases hlength
  exact ⟨hemit, debounce_sound (by decide) hemit⟩

theorem stays_reported_prometheus :
    (prometheus.run [missingAt 0]).sparesAll app "prometheus-monitor" (missingAt 120 :: [cleanupAt 240]) = true ∧
    ((prometheus.run ([missingAt 0] ++ missingAt 120 :: [cleanupAt 240])).step (missingAt 250)).2 =
      [monitorMissing] := by
  have hspares : (prometheus.run [missingAt 0]).sparesAll app "prometheus-monitor"
      (missingAt 120 :: [cleanupAt 240]) = true := by decide
  refine ⟨hspares, stays_reported (by decide) hspares ?_ ?_ rfl (by decide)⟩
  · have hlength : ((prometheus.run [missingAt 0]).step (missingAt 120)).2.length = 1 := by decide
    intro hnil
    rw [show ((prometheus.run [missingAt 0]).step (missingAt 120)).2 = [] from hnil] at hlength
    cases hlength
  · simp [cleanupAt, Event.Present]

theorem cleanup_silences_report :
    (∀ ev ∈ [missingAt 0, cleanupAt 120, missingAt 120, cleanupAt 240, cleanupAt 360, missingAt 360], ev.Identified) ∧
    ((prometheus.run [missingAt 0, cleanupAt 120]).step (missingAt 120)).2.length = 1 ∧
    (∀ ev ∈ [cleanupAt 240, cleanupAt 360], ¬ ev.Present (getUID app) "prometheus-monitor") ∧
    ((prometheus.run [missingAt 0, cleanupAt 120, missingAt 120, cleanupAt 240, cleanupAt 360]).step
      (missingAt 360)).2.length = 0 := by
  exact ⟨by decide, by decide, by simp [cleanupAt, Event.Present], by decide⟩

end Evaluator

end Prometheus

end Nightjar.Requirements
