import Nightjar.Lib.SeenRecurrence
import Nightjar.Requirements.Isolation

namespace Nightjar.Requirements

open Lib Lib.Strings Apimachinery FirstSeen

section Recurrence
variable [Apimachinery]

def Event.now : Event → Int
  | .rule _ _ now _ => now
  | .cleanup now => now

/-- From one time to another, in every stretch of the length, an evaluation of the workload finds that
what the rule requires is missing. -/
def MissingEvery (uid r : String) (gap start stop : Int) (events : List Event) : Prop :=
  ∀ x, start ≤ x → x + gap ≤ stop → ∃ workload t c cs, .rule workload r t (.ok (c :: cs)) ∈ events ∧
    getUID workload = uid ∧ x ≤ t ∧ t < x + gap

theorem Event.now_of_time {ev : Event} {duration t : Int} (h : (ev.effect duration).time = some t) : ev.now = t := by
  rcases ev with ⟨workload, r, now, _ | _ | ⟨c, cs⟩⟩ | now
  · cases h
  · cases h
  · exact Option.some.inj h
  · exact Option.some.inj h

theorem inOrder_effects {events : List Event} (hclock : events.Pairwise (fun ev ev' => ev.now ≤ ev'.now))
    (duration : Int) : FirstSeen.InOrder (events.map (Event.effect duration)) := by
  rw [FirstSeen.InOrder, List.pairwise_map]
  refine hclock.imp ?_
  intro ev ev' hle t ht t' ht'
  rwa [← Event.now_of_time ht, ← Event.now_of_time ht']

namespace Evaluator

/-- A resource that stays missing is reported again and again, whenever the cleanups come and whatever
else is evaluated: if it is evaluated in every stretch of a length within the debounce window, then it
is reported in every stretch of the window and three times that length. -/
theorem lasting_gap_recurs {rules : List String} {duration gap start stop x : Int} {before during : List Event}
    {uid r : String} (hids : ∀ ev ∈ before ++ during, ev.Identified)
    (hclock : (before ++ during).Pairwise (fun ev ev' => ev.now ≤ ev'.now))
    (hlasting : ∀ ev ∈ during, ¬ ev.Present uid r) (hmissing : MissingEvery uid r gap start stop during)
    (hpos : 0 < gap) (hgap : gap ≤ duration) (hstart : start ≤ x) (hstop : x + duration + 3 * gap ≤ stop) :
    ∃ early workload t cs late, during = early ++ .rule workload r t (.ok cs) :: late ∧ getUID workload = uid ∧
      x ≤ t ∧ t < x + duration + 3 * gap ∧ cs ≠ [] ∧
      (((⟨rules, duration, ∅⟩ : Evaluator).run (before ++ early)).step (.rule workload r t (.ok cs))).2 = cs := by
  have hids' {ev : Event} (hev : ev ∈ during) : ev.Identified := hids ev (List.mem_append_right _ hev)
  obtain ⟨w, tw, cw, csw, hw, rfl, -⟩ := hmissing x hstart (by omega)
  have horder := inOrder_effects hclock duration
  rw [List.map_append] at horder
  have hseen : SeenEvery (debounceKey (workloadUID w) r) gap start stop (during.map (Event.effect duration)) := by
    intro y hy hy'
    obtain ⟨w', t, c, cs, hmem, huid, hlow, hhigh⟩ := hmissing y hy hy'
    refine ⟨t, List.mem_map.mpr ⟨_, hmem, ?_⟩, hlow, hhigh⟩
    rw [Event.effect, ((hids' hmem).key_inj (hids' hw)).mpr ⟨huid, rfl⟩]
  have hcleared : .cleared (debounceKey (workloadUID w) r) ∉ during.map (Event.effect duration) := by
    intro hmem
    obtain ⟨ev, hev, heffect⟩ := List.mem_map.mp hmem
    exact hlasting ev hev ((Event.effect_eq_cleared_iff (hids' hev) (hids' hw)).mp heffect)
  have hsweeps (maxAge now : Int) (hmem : .swept maxAge now ∈ during.map (Event.effect duration)) :
      2 * duration ≤ maxAge := by
    obtain ⟨ev, -, heffect⟩ := List.mem_map.mp hmem
    rw [(Event.effect_eq_swept heffect).2]
  have hpast (t : Int) (ht : t ∈ (FirstSeen.run ∅ (before.map (Event.effect duration))).lookup
      (debounceKey (workloadUID w) r)) (t' : Int)
      (ht' : .seen (debounceKey (workloadUID w) r) t' ∈ during.map (Event.effect duration)) : t ≤ t' := by
    obtain ⟨made, since, hsplit, -⟩ := exists_seen_of_lookup ht
    have hmade : .seen (debounceKey (workloadUID w) r) t ∈ before.map (Event.effect duration) := by
      rw [hsplit]
      exact List.mem_append_right _ List.mem_cons_self
    exact horder.le hmade ht' rfl rfl
  obtain ⟨early, t, late, t₀, hsplit, hlow, hhigh, hlookup, hold⟩ :=
    exists_aged (List.pairwise_append.mp horder).2.1 hcleared hsweeps hseen hpos hgap hpast hstart hstop
  obtain ⟨early, rest, rfl, rfl, hrest⟩ := List.map_eq_append_iff.mp hsplit
  obtain ⟨ev, late, rfl, heffect, rfl⟩ := List.map_eq_cons_iff.mp hrest
  obtain ⟨w', r', c, cs, rfl, hkey⟩ := Event.effect_eq_seen heffect
  have hfound := hids' (List.mem_append_right early List.mem_cons_self)
  obtain ⟨huid, rfl⟩ := ((hids' hw).key_inj hfound).mp hkey
  refine ⟨early, w', t, c :: cs, late, rfl, huid.symm, hlow, hhigh, List.cons_ne_nil _ _, ?_⟩
  rw [step_rule_snd, run_eq, List.map_append]
  dsimp only
  rw [FirstSeen.run_append, ← hkey, hlookup]
  exact if_pos hold

end Evaluator

def Event.Evaluates (uid r : String) : Event → Prop
  | .rule workload r' _ _ => getUID workload = uid ∧ r' = r
  | .cleanup _ => False

def Apart (uid r : String) (gap : Int) (events : List Event) : Prop :=
  events.Pairwise (fun ev ev' => ev.Evaluates uid r → ev'.Evaluates uid r → ev.now + gap < ev'.now)

def CleanedEvery (tick start stop : Int) (events : List Event) : Prop :=
  ∀ x, start ≤ x → x + tick ≤ stop → ∃ now, .cleanup now ∈ events ∧ x < now ∧ now ≤ x + tick

namespace Evaluator

/-- A resource may be missing for ever and never be reported: if the workload is evaluated so rarely
that a cleanup drops the entry of each evaluation before the next one, the debounce window never passes. -/
theorem rare_evaluations_silent {rules : List String} {duration tick start stop : Int} {events : List Event}
    {uid r : String} (hids : ∀ ev ∈ events, ev.Identified)
    (hclock : events.Pairwise (fun ev ev' => ev.now ≤ ev'.now))
    (hspan : ∀ ev ∈ events, start ≤ ev.now ∧ ev.now ≤ stop) (hcleaned : CleanedEvery tick start stop events)
    (hpos : 0 < duration) (hrare : Apart uid r (2 * duration + tick) events) {early late : List Event}
    {workload : Unstructured} {t : Int} {answer : RuleAnswer}
    (hsplit : events = early ++ .rule workload r t answer :: late) (huid : getUID workload = uid) :
    (((⟨rules, duration, ∅⟩ : Evaluator).run early).step (.rule workload r t answer)).2 = [] := by
  subst hsplit huid
  by_contra hemit
  obtain ⟨c, cs, rfl, hwindow⟩ := emitted hemit
  rw [run_eq] at hwindow
  dsimp only at hwindow
  have hthis : (Event.rule workload r t (.ok (c :: cs))).Identified := hids _ (by simp)
  cases hlookup : (FirstSeen.run ∅ (early.map (Event.effect duration))).lookup
      (debounceKey (workloadUID workload) r) with
  | none =>
      rw [hlookup, Option.getD_none] at hwindow
      omega
  | some t₀ =>
      obtain ⟨effects, effects', heffects, -⟩ := exists_seen_of_lookup hlookup
      have hseen : .seen (debounceKey (workloadUID workload) r) t₀ ∈ early.map (Event.effect duration) := by
        rw [heffects]
        exact List.mem_append_right _ List.mem_cons_self
      obtain ⟨ev, hev, heffect⟩ := List.mem_map.mp hseen
      obtain ⟨w, r', c', cs', rfl, hkey⟩ := Event.effect_eq_seen heffect
      have hw : (Event.rule w r' t₀ (.ok (c' :: cs'))).Identified := hids _ (List.mem_append_left _ hev)
      obtain ⟨huid, rfl⟩ := (hthis.key_inj hw).mp hkey
      have hlong : t₀ + (2 * duration + tick) < t :=
        (List.pairwise_append.mp hrare).2.2 _ hev _ List.mem_cons_self ⟨huid.symm, rfl⟩ ⟨rfl, rfl⟩
      have hfrom : start ≤ t₀ := (hspan _ (List.mem_append_left _ hev)).1
      have hto : t ≤ stop := (hspan _ (List.mem_append_right _ List.mem_cons_self)).2
      obtain ⟨now, hcleanup, hlow, hhigh⟩ := hcleaned (t₀ + 2 * duration) (by omega) (by omega)
      have hbefore : .cleanup now ∈ early := by
        refine (List.mem_append.mp hcleanup).resolve_right ?_
        intro hrest
        have hlater := (List.mem_cons.mp hrest).resolve_left Event.noConfusion
        have hle : t ≤ now := (List.pairwise_cons.mp (List.pairwise_append.mp hclock).2.1).1 _ hlater
        omega
      have hswept : .swept (2 * duration) now ∈ early.map (Event.effect duration) :=
        List.mem_map.mpr ⟨_, hbefore, rfl⟩
      have hage := age_le_of_held (inOrder_effects (List.pairwise_append.mp hclock).1 duration) hlookup hswept
        (by omega)
      omega

end Evaluator

end Recurrence

section Prometheus
attribute [local instance] Apimachinery.model

namespace Evaluator

def eightMinutes : List Event := (List.range 8).flatMap (fun i : Nat => [missingAt (60 * i), cleanupAt (60 * i)])

theorem missingEvery_eightMinutes :
    MissingEvery (getUID app) "prometheus-monitor" 61000000000 0 420000000000 eightMinutes := by
  intro x hlow hhigh
  obtain ⟨n, hn, hxn, hnx⟩ : ∃ n : Nat, n < 8 ∧ x ≤ 60 * n * 1000000000 ∧
      60 * (n : Int) * 1000000000 < x + 61000000000 :=
    ⟨((x + 59999999999) / 60000000000).toNat, by omega, by omega, by omega⟩
  refine ⟨app, 60 * n * 1000000000, monitorMissing, [], ?_, rfl, hxn, hnx⟩
  exact List.mem_flatMap.mpr ⟨n, List.mem_range.mpr hn, List.mem_cons_self⟩

theorem lasting_gap_recurs_eightMinutes :
    ∃ early workload t cs late, eightMinutes = early ++ .rule workload "prometheus-monitor" t (.ok cs) :: late ∧
      getUID workload = getUID app ∧ 100000000000 ≤ t ∧ t < 403000000000 ∧ cs ≠ [] ∧
      ((prometheus.run early).step (.rule workload "prometheus-monitor" t (.ok cs))).2 = cs := by
  have hlasting : ∀ ev ∈ eightMinutes, ¬ ev.Present (getUID app) "prometheus-monitor" := by
    intro ev hev
    obtain ⟨i, -, hi⟩ := List.mem_flatMap.mp hev
    simp only [List.mem_cons, List.not_mem_nil, or_false] at hi
    rcases hi with rfl | rfl <;> exact id
  exact @lasting_gap_recurs _ prometheus.rules prometheus.duration _ _ _ 100000000000 [] eightMinutes _ _ (by decide)
    (by decide) hlasting missingEvery_eightMinutes (by decide) (by decide) (by decide) (by decide)

def rarely : List Event :=
  (List.range 24).flatMap (fun i : Nat =>
    (if i % 5 = 0 then [missingAt (120 * i)] else []) ++ [cleanupAt (120 * i + 1)])

theorem cleanedEvery_rarely : CleanedEvery defaultDebounceDuration 0 2761000000000 rarely := by
  intro x hlow hhigh
  simp only [defaultDebounceDuration] at hhigh ⊢
  obtain ⟨n, hn, hxn, hnx⟩ : ∃ n : Nat, n < 24 ∧ x < (120 * n + 1) * 1000000000 ∧
      (120 * (n : Int) + 1) * 1000000000 ≤ x + 120 * 1000000000 :=
    ⟨((x + 119000000000) / 120000000000).toNat, by omega, by omega, by omega⟩
  refine ⟨_, List.mem_flatMap.mpr ⟨n, List.mem_range.mpr hn, ?_⟩, hxn, hnx⟩
  exact List.mem_append_right _ List.mem_cons_self

instance (uid r : String) : DecidablePred (Event.Evaluates uid r)
  | .rule workload r' _ _ => inferInstanceAs (Decidable (getUID workload = uid ∧ r' = r))
  | .cleanup _ => isFalse id

theorem rare_evaluations_silent_rarely :
    rarely = rarely.take 24 ++ missingAt 2400 :: rarely.drop 25 ∧
      ((prometheus.run (rarely.take 24)).step (missingAt 2400)).2 = [] := by
  have hsplit : rarely = rarely.take 24 ++ missingAt 2400 :: rarely.drop 25 := rfl
  have hrare : Apart (getUID app) "prometheus-monitor" (2 * defaultDebounceDuration + defaultDebounceDuration)
      rarely := by
    unfold Apart
    decide +kernel
  exact ⟨hsplit, rare_evaluations_silent (by decide +kernel) (by decide +kernel) (by decide +kernel)
    cleanedEvery_rarely (by decide) hrare hsplit rfl⟩

end Evaluator

end Prometheus

end Nightjar.Requirements
