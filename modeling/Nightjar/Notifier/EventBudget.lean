import Nightjar.Notifier.RateBound
import Mathlib.Data.Set.Card

namespace Nightjar.Notifier

open Lib Lib.Strings

def Decision.passed : Decision → Bool
  | .rateLimited => false
  | .suppressed | .created _ | .failed _ => true

/-- When a step asks the rate limiter. The clock is read while its lock is held. -/
def DispatchStep.asked : DispatchStep → Option Int
  | .allow _ _ _ now | .evict now => some now
  | .mark .. | .create .. | .sweep _ => none

attribute [local instance] Dispatcher.tokenBucket

namespace NsRateLimiter

theorem allowedCalls_append (n : NsRateLimiter) (ls ls' : List (Int × LimiterOp)) :
    n.allowedCalls (ls ++ ls') = n.allowedCalls ls ++ (ls.foldl step n).allowedCalls ls' := by
  induction ls generalizing n with
  | nil => rfl
  | cons l ls ih =>
      obtain ⟨now, op⟩ := l
      cases op with
      | allow ns =>
          rw [List.cons_append, allowedCalls, allowedCalls, ih, List.append_assoc]
          rfl
      | evict =>
          rw [List.cons_append, allowedCalls, allowedCalls, ih]
          rfl

theorem call_of_mem_allowedCalls {n : NsRateLimiter} {ls : List (Int × LimiterOp)} {c : Int × String}
    (hc : c ∈ n.allowedCalls ls) : (c.1, .allow c.2) ∈ ls := by
  induction ls generalizing n with
  | nil => cases hc
  | cons l ls ih =>
      obtain ⟨now, op⟩ := l
      cases op with
      | allow ns =>
          rw [allowedCalls, List.mem_append] at hc
          rcases hc with hc | hc
          · split at hc
            · cases List.mem_singleton.mp hc
              exact List.mem_cons_self
            · cases hc
          · exact List.mem_cons_of_mem _ (ih hc)
      | evict => exact List.mem_cons_of_mem _ (ih hc)

end NsRateLimiter

namespace Dispatcher

variable {d : Dispatcher} {ns ns' : Namespace} {i : Nat} {busy : Finset Nat}

def limiterOps (d : Dispatcher) : DispatchStep → List (Int × LimiterOp)
  | .allow ns i _ now =>
      match d.calls ns i with
      | .idle => [(now, .allow ns.name)]
      | _ => []
  | .evict now => [(now, .evict)]
  | _ => []

theorem limiterOps_step_or (d : Dispatcher) (l : DispatchStep) :
    d.limiterOps l = [] ∨ ∃ now op, l.asked = some now ∧ d.limiterOps l = [(now, op)] := by
  cases l with
  | allow ns i r now =>
      rw [limiterOps]
      split
      · exact .inr ⟨now, _, rfl, rfl⟩
      · exact .inl rfl
  | evict now => exact .inr ⟨now, _, rfl, rfl⟩
  | mark ns i now => exact .inl rfl
  | create ns i now observedAt answer => exact .inl rfl
  | sweep now => exact .inl rfl

theorem allow_of_mem_limiterOps {l : DispatchStep} {now : Int} {name : String}
    (h : (now, .allow name) ∈ d.limiterOps l) : ∃ ns i r, l = .allow ns i r now ∧ ns.name = name := by
  cases l with
  | allow ns i r at' =>
      rw [limiterOps] at h
      split at h
      · cases List.mem_singleton.mp h
        exact ⟨ns, i, r, rfl, rfl⟩
      · cases h
  | evict at' => cases List.mem_singleton.mp h
  | mark ns i at' => cases h
  | create ns i at' observedAt answer => cases h
  | sweep at' => cases h

/-- The goroutines of the namespace that are past the rate limit and have not returned. -/
def inFlight (d : Dispatcher) (ns : Namespace) : Set Nat := {i | d.calls ns i ≠ .idle}

theorem inFlight_put_of_ne (h : ns ≠ ns') (i : Nat) (st : DispatchStage) :
    (d.put ns' i st).inFlight ns = d.inFlight ns := by
  ext j
  simp [inFlight, put, Function.update_of_ne h]

theorem inFlight_put_subset (h : d.inFlight ns ⊆ busy) (i : Nat) (st : DispatchStage) :
    (d.put ns i st).inFlight ns ⊆ ↑(insert i busy) := by
  intro j hj
  rw [Finset.coe_insert]
  by_cases hji : j = i
  · exact Set.mem_insert_iff.mpr (.inl hji)
  · apply Set.mem_insert_of_mem
    apply h
    simpa [inFlight, put, Function.update_of_ne hji] using hj

theorem inFlight_put_idle (h : d.inFlight ns ⊆ busy) (i : Nat) :
    (d.put ns i .idle).inFlight ns ⊆ ↑(busy.erase i) := by
  intro j hj
  by_cases hji : j = i
  · subst hji
    simp [inFlight, put] at hj
  · rw [Finset.mem_coe, Finset.mem_erase]
    refine ⟨hji, h ?_⟩
    simpa [inFlight, put, Function.update_of_ne hji] using hj

theorem inFlight_put_same {st : DispatchStage} (hst : d.calls ns' i = .idle → st = .idle) (ns : Namespace) :
    (d.put ns' i st).inFlight ns ⊆ d.inFlight ns := by
  intro j hj hidle
  by_cases hns : ns = ns'
  · subst hns
    by_cases hji : j = i
    · subst hji
      simp [inFlight, put, hst hidle] at hj
    · simp [inFlight, put, Function.update_of_ne hji, hidle] at hj
  · rw [inFlight_put_of_ne hns] at hj
    exact hj hidle

/-- How many of the decisions for the namespace are past the rate limit. -/
def passedFor (ns : Namespace) (os : List Output) : Nat := os.countP (fun o => decide (o.1 = ns) && o.2.2.passed)

theorem passedFor_append (os os' : List Output) : passedFor ns (os ++ os') = passedFor ns os + passedFor ns os' :=
  List.countP_append

/-- How many of the calls that the limiter allows are for the namespace. -/
def grantedFor (ns : Namespace) (cs : List (Int × String)) : Nat := cs.countP (fun c => c.2 = ns.name)

theorem grantedFor_append (cs cs' : List (Int × String)) :
    grantedFor ns (cs ++ cs') = grantedFor ns cs + grantedFor ns cs' :=
  List.countP_append

/-- What a step does to the calls in flight, with the decisions it makes and the calls that the limiter
allows in it. -/
inductive Move (d : Dispatcher) : Dispatcher → List Output → List (Int × String) → Prop
  | stays {d' os cs} (hflight : ∀ ns, d'.inFlight ns ⊆ d.inFlight ns) (hos : ∀ o ∈ os, o.2.2.passed = false) :
      Move d d' os cs
  | enters (limiter : NsRateLimiter) (ns : Namespace) (i : Nat) (r : Request) (now : Int) :
      Move d ({ d with nsLimiter := limiter }.put ns i (.allowed r)) [] [(now, ns.name)]
  | leaves {ns : Namespace} {i : Nat} (cache o cs) (hflight : i ∈ d.inFlight ns) :
      Move d ({ d with dedupeCache := cache }.put ns i .idle) [(ns, i, o)] cs

theorem Move.paid {d' : Dispatcher} {os : List Output} {cs : List (Int × String)} (hmove : Move d d' os cs)
    (h : d.inFlight ns ⊆ busy) :
    ∃ busy' : Finset Nat, d'.inFlight ns ⊆ busy' ∧ passedFor ns os + busy'.card ≤ busy.card + grantedFor ns cs := by
  cases hmove with
  | stays hflight hos =>
      have hnone : passedFor ns os = 0 := by
        rw [passedFor, List.countP_eq_zero]
        intro o ho
        simp [hos o ho]
      refine ⟨busy, (hflight ns).trans h, ?_⟩
      omega
  | enters limiter ns' i r now =>
      by_cases hns : ns = ns'
      · subst hns
        have hcard := Finset.card_insert_le i busy
        refine ⟨insert i busy, inFlight_put_subset h i _, ?_⟩
        simpa [passedFor, grantedFor] using hcard
      · refine ⟨busy, ?_, by simp [passedFor]⟩
        rw [inFlight_put_of_ne hns]
        exact h
  | @leaves ns' i cache o cs hflight =>
      by_cases hns : ns = ns'
      · subst hns
        have hcard := Finset.card_erase_add_one (h hflight)
        have hone : passedFor ns [(ns, i, o)] ≤ 1 := List.countP_le_length
        refine ⟨busy.erase i, inFlight_put_idle h i, ?_⟩
        omega
      · refine ⟨busy, ?_, by simp [passedFor, Ne.symm hns]⟩
        rw [inFlight_put_of_ne hns]
        exact h

section Runs
variable [Unicode] [UpperCase]

theorem move_step (d : Dispatcher) (l : DispatchStep) :
    Move d (machine.step d l).1 (machine.step d l).2 (d.nsLimiter.allowedCalls (d.limiterOps l)) := by
  cases l with
  | allow ns i r now =>
      simp only [machine, stepAllow, limiterOps]
      cases hcall : d.calls ns i with
      | allowed r' => exact .stays (fun _ => subset_rfl) (by simp)
      | marked r' => exact .stays (fun _ => subset_rfl) (by simp)
      | idle =>
          simp only [NsRateLimiter.allowedCalls]
          cases hallow : (d.nsLimiter.allow ns.name now).1 with
          | false => exact .stays (inFlight_put_same (fun _ => rfl)) (by simp [Decision.passed])
          | true => exact .enters _ ns i r now
  | mark ns i now =>
      simp only [machine, stepMark]
      cases hcall : d.calls ns i with
      | idle => exact .stays (fun _ => subset_rfl) (by simp)
      | marked r' => exact .stays (fun _ => subset_rfl) (by simp)
      | allowed r =>
          have hflight : i ∈ d.inFlight ns := by simp [inFlight, hcall]
          simp only []
          cases (tryMarkSeen d.opts d.dedupeCache (r.key ns.name) now).1 with
          | false => exact .leaves _ _ _ hflight
          | true => exact .stays (inFlight_put_same (fun hidle => absurd hidle hflight)) (by simp)
  | create ns i now observedAt answer =>
      simp only [machine, stepCreate]
      cases hcall : d.calls ns i with
      | idle => exact .stays (fun _ => subset_rfl) (by simp)
      | allowed r' => exact .stays (fun _ => subset_rfl) (by simp)
      | marked r =>
          have hflight : i ∈ d.inFlight ns := by simp [inFlight, hcall]
          exact .leaves d.dedupeCache _ _ hflight
  | sweep now => exact .stays (fun _ => subset_rfl) (by simp [machine])
  | evict now => exact .stays (fun _ => subset_rfl) (by simp [machine])

theorem nsLimiter_step (d : Dispatcher) (l : DispatchStep) :
    (machine.step d l).1.nsLimiter = (d.limiterOps l).foldl NsRateLimiter.step d.nsLimiter := by
  cases l with
  | allow ns i r now =>
      simp only [machine, stepAllow, limiterOps]
      cases d.calls ns i <;> rfl
  | mark ns i now =>
      simp only [machine, stepMark, limiterOps]
      cases d.calls ns i <;> rfl
  | create ns i now observedAt answer =>
      simp only [machine, stepCreate, limiterOps]
      cases d.calls ns i <;> rfl
  | sweep now => rfl
  | evict now => rfl

def allLimiterOps (d : Dispatcher) : List DispatchStep → List (Int × LimiterOp)
  | [] => []
  | l :: ls => d.limiterOps l ++ (machine.step d l).1.allLimiterOps ls

theorem nsLimiter_run (d : Dispatcher) (ls : List DispatchStep) :
    (machine.run d ls).1.nsLimiter = (d.allLimiterOps ls).foldl NsRateLimiter.step d.nsLimiter := by
  induction ls generalizing d with
  | nil => rfl
  | cons l ls ih => rw [Machine.run, ih, allLimiterOps, List.foldl_append, nsLimiter_step]

theorem allLimiterOps_append (d : Dispatcher) (ls ls' : List DispatchStep) :
    d.allLimiterOps (ls ++ ls') = d.allLimiterOps ls ++ (machine.run d ls).1.allLimiterOps ls' := by
  induction ls generalizing d with
  | nil => rfl
  | cons l ls ih => rw [List.cons_append, allLimiterOps, ih, allLimiterOps, List.append_assoc, Machine.run]

theorem allow_of_mem_allLimiterOps {ls : List DispatchStep} {now : Int} {name : String}
    (h : (now, .allow name) ∈ d.allLimiterOps ls) : ∃ ns i r, .allow ns i r now ∈ ls ∧ ns.name = name := by
  induction ls generalizing d with
  | nil => cases h
  | cons l ls ih =>
      rw [allLimiterOps, List.mem_append] at h
      rcases h with h | h
      · obtain ⟨ns, i, r, rfl, hname⟩ := allow_of_mem_limiterOps h
        exact ⟨ns, i, r, List.mem_cons_self, hname⟩
      · obtain ⟨ns, i, r, hmem, hname⟩ := ih h
        exact ⟨ns, i, r, List.mem_cons_of_mem _ hmem, hname⟩

theorem allLimiterOps_times (d : Dispatcher) (ls : List DispatchStep) :
    ((d.allLimiterOps ls).map Prod.fst).Sublist (ls.filterMap DispatchStep.asked) := by
  induction ls generalizing d with
  | nil => exact List.Sublist.refl _
  | cons l ls ih =>
      rw [allLimiterOps, List.map_append]
      rcases d.limiterOps_step_or l with hops | ⟨now, op, hasked, hops⟩
      · rw [hops, List.map_nil, List.nil_append]
        exact (ih _).trans ((List.sublist_cons_self l ls).filterMap _)
      · rw [hops, List.filterMap_cons_some hasked]
        exact (ih _).cons_cons now

theorem passedFor_run_le (h : d.inFlight ns ⊆ busy) (ls : List DispatchStep) :
    ∃ busy' : Finset Nat, (machine.run d ls).1.inFlight ns ⊆ busy' ∧
      passedFor ns (machine.run d ls).2 + busy'.card ≤
        busy.card + grantedFor ns (d.nsLimiter.allowedCalls (d.allLimiterOps ls)) := by
  induction ls generalizing d busy with
  | nil => exact ⟨busy, h, by simp [Machine.run, passedFor]⟩
  | cons l ls ih =>
      obtain ⟨busy₁, hflight₁, hle₁⟩ := (move_step d l).paid h
      obtain ⟨busy₂, hflight₂, hle₂⟩ := ih hflight₁
      refine ⟨busy₂, hflight₂, ?_⟩
      rw [nsLimiter_step] at hle₂
      rw [Machine.run, allLimiterOps, passedFor_append, NsRateLimiter.allowedCalls_append, grantedFor_append]
      omega

theorem finite_inFlight (opts : DispatcherOptions) (ls : List DispatchStep) (ns : Namespace) :
    ((machine.run (new opts) ls).1.inFlight ns).Finite := by
  have hnone : (new opts).inFlight ns ⊆ ↑(∅ : Finset Nat) := by simp [inFlight, new]
  obtain ⟨busy, hflight, _⟩ := passedFor_run_le hnone ls
  exact busy.finite_toSet.subset hflight

theorem grantedFor_le {opts : DispatcherOptions} (hrate : 1 ≤ opts.rateLimitPerMinute)
    {earlier later : List DispatchStep} (ns : Namespace)
    (hsorted : ((earlier ++ later).filterMap DispatchStep.asked).Pairwise (· ≤ ·)) {a b : Int} (hab : a ≤ b)
    (hin : ∀ i r now, .allow ns i r now ∈ later → a ≤ now ∧ now ≤ b) :
    (grantedFor ns ((machine.run (new opts) earlier).1.nsLimiter.allowedCalls
        ((machine.run (new opts) earlier).1.allLimiterOps later)) : Rat) ≤
      (max 1 (opts.rateLimitPerMinute / 10) : Int) +
        (b - a) / 1000000000 * (NsRateLimiter.new opts.rateLimitPerMinute).rate := by
  have htimes : ((new opts).allLimiterOps (earlier ++ later)).Pairwise (fun l l' => l.1 ≤ l'.1) :=
    List.pairwise_map.mp (hsorted.sublist (allLimiterOps_times _ _))
  have hwindow : grantedFor ns ((machine.run (new opts) earlier).1.nsLimiter.allowedCalls
      ((machine.run (new opts) earlier).1.allLimiterOps later)) ≤
        (new opts).nsLimiter.allowedIn ((new opts).allLimiterOps (earlier ++ later)) ns.name a b := by
    rw [NsRateLimiter.allowedIn, allLimiterOps_append, NsRateLimiter.allowedCalls_append, ← nsLimiter_run,
      List.countP_append]
    apply Nat.le_add_left_of_le
    apply List.countP_mono_left
    intro c hc hname
    obtain ⟨ns', i, r, hmem, hns⟩ := allow_of_mem_allLimiterOps (NsRateLimiter.call_of_mem_allowedCalls hc)
    rw [of_decide_eq_true hname] at hns
    rw [Namespace.ext hns] at hmem
    exact decide_eq_true ⟨of_decide_eq_true hname, hin i r c.1 hmem⟩
  have hburst := NsRateLimiter.burst_new hrate
  have hfloor := NsRateLimiter.rate_new_le hrate
  have hsize := NsRateLimiter.burst_le hrate
  have hpos : (0 : Rat) ≤ opts.rateLimitPerMinute := by exact_mod_cast (by omega : 0 ≤ opts.rateLimitPerMinute)
  rw [← hburst] at hsize ⊢
  have hbound := NsRateLimiter.allowedIn_le (n := NsRateLimiter.new opts.rateLimitPerMinute) rfl
    (by omega) (by linarith) (by linarith) htimes ns.name hab
  calc _ ≤ _ := Nat.cast_le.mpr hwindow
    _ ≤ _ := hbound

/-- In any interleaving of the goroutines that dispatch and of the cleanup ticks, the calls for a
namespace that reach the dedupe check or the API server while its calls are made from `a` to `b` are at
most those already in flight, the burst, and what the rate brings in that time. -/
theorem events_within_rate {opts : DispatcherOptions} (hrate : 1 ≤ opts.rateLimitPerMinute)
    {earlier later : List DispatchStep} (ns : Namespace)
    (hsorted : ((earlier ++ later).filterMap DispatchStep.asked).Pairwise (· ≤ ·)) {a b : Int} (hab : a ≤ b)
    (hin : ∀ i r now, .allow ns i r now ∈ later → a ≤ now ∧ now ≤ b) :
    (passedFor ns (machine.run (machine.run (new opts) earlier).1 later).2 : Rat) ≤
      ((machine.run (new opts) earlier).1.inFlight ns).ncard +
        ((max 1 (opts.rateLimitPerMinute / 10) : Int) +
          (b - a) / 1000000000 * (NsRateLimiter.new opts.rateLimitPerMinute).rate) := by
  have hfinite := finite_inFlight opts earlier ns
  have hbusy : (machine.run (new opts) earlier).1.inFlight ns ⊆ ↑hfinite.toFinset := hfinite.coe_toFinset.superset
  obtain ⟨busy, _, hle⟩ := passedFor_run_le hbusy later
  have hpassed := (Nat.le_add_right _ _).trans hle
  rw [← Set.ncard_eq_toFinset_card _ hfinite] at hpassed
  calc _ ≤ _ := Nat.cast_le.mpr hpassed
    _ = _ := Nat.cast_add _ _
    _ ≤ _ := add_le_add_right (grantedFor_le hrate ns hsorted hab hin) _

end Runs

section Sample
attribute [local instance] asciiTables asciiUpperCase

def burstOfTwo : DispatcherOptions := { rateLimitPerMinute := 20 }

def oneInFlight : List DispatchStep := [.allow team 0 webRequest 0]

def apiRequest : Request := .direct (paymentsPolicy "deny-all") "api" "Deployment" .summary

def threeAtOnce : List DispatchStep :=
  [.mark team 0 0, .create team 0 "t" "t" (.ok ()), .allow team 1 apiRequest minute, .allow team 2 webRequest minute,
    .allow team 3 webRequest minute, .mark team 1 minute, .mark team 2 minute, .create team 1 "t" "t" (.ok ())]

theorem events_within_rate_threeAtOnce :
    passedFor team (machine.run (machine.run (new burstOfTwo) oneInFlight).1 threeAtOnce).2 = 3 ∧
      (passedFor team (machine.run (machine.run (new burstOfTwo) oneInFlight).1 threeAtOnce).2 : Rat) ≤
        ((machine.run (new burstOfTwo) oneInFlight).1.inFlight team).ncard +
          ((max 1 (burstOfTwo.rateLimitPerMinute / 10) : Int) +
            ((minute : Int) - (minute : Int)) / 1000000000 *
              (NsRateLimiter.new burstOfTwo.rateLimitPerMinute).rate) := by
  have hin : ∀ i r now, .allow team i r now ∈ threeAtOnce → minute ≤ now ∧ now ≤ minute := by
    intro i r now hmem
    simp only [threeAtOnce, List.mem_cons, DispatchStep.allow.injEq, reduceCtorEq, List.not_mem_nil, false_or,
      or_false] at hmem
    rcases hmem with ⟨_, _, _, rfl⟩ | ⟨_, _, _, rfl⟩ | ⟨_, _, _, rfl⟩ <;> exact ⟨le_refl _, le_refl _⟩
  exact ⟨by decide +kernel, events_within_rate (by decide) team (by decide) (le_refl minute) hin⟩

end Sample

end Dispatcher

end Nightjar.Notifier
