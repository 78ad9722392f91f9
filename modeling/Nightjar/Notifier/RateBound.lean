import Nightjar.Notifier.DispatcherRuns
import Nightjar.Lib.Metering

namespace Nightjar.Notifier

open Lib
open Dispatcher (TokenBucket)

attribute [local instance] Dispatcher.tokenBucket

namespace TokenBucket

variable {r : Rat} {burst clock t t' : Int} {b : TokenBucket}

/-- A bucket of the rate and size that was last asked by the time `clock`. -/
structure Sound (r : Rat) (burst clock : Int) (b : TokenBucket) : Prop where
  limit : b.limit = r
  size : b.burst = burst
  nonneg : 0 ≤ b.tokens
  past : ∀ last, b.last = some last → last ≤ clock

theorem Sound.mono (h : Sound r burst clock b) (ht : clock ≤ t) : Sound r burst t b :=
  ⟨h.limit, h.size, h.nonneg, fun last hlast => (h.past last hlast).trans ht⟩

def idle (b : TokenBucket) (t : Int) : Int := b.last.elim 0 (fun last => t - last)

theorem refilled_eq (h : Sound r burst clock b) (t : Int) :
    b.refilled t = min (burst : Rat) (b.tokens + idle b t / 1000000000 * r) := by
  rw [Dispatcher.TokenBucket.refilled, h.limit, h.size]
  rfl

theorem idle_nonneg (h : Sound r burst clock b) (ht : clock ≤ t) : 0 ≤ idle b t := by
  unfold idle
  cases hlast : b.last with
  | none => exact le_refl _
  | some last =>
      have hpast := h.past last hlast
      rw [Option.elim_some]
      omega

theorem idle_le (b : TokenBucket) (ht : t ≤ t') : idle b t' ≤ idle b t + (t' - t) := by
  unfold idle
  cases b.last with
  | none =>
      simp only [Option.elim_none]
      omega
  | some last =>
      simp only [Option.elim_some]
      omega

theorem refilled_le_burst (h : Sound r burst clock b) : b.refilled t ≤ burst := by
  rw [refilled_eq h]
  exact min_le_left _ _

theorem refilled_nonneg (h : Sound r burst clock b) (hr : 0 ≤ r) (hburst : 0 ≤ burst) (ht : clock ≤ t) :
    0 ≤ b.refilled t := by
  have hidle : (0 : Rat) ≤ idle b t := by exact_mod_cast idle_nonneg h ht
  have hgain : 0 ≤ idle b t / 1000000000 * r := by positivity
  rw [refilled_eq h]
  exact le_min (by exact_mod_cast hburst) (add_nonneg h.nonneg hgain)

theorem refilled_le (h : Sound r burst clock b) (hr : 0 ≤ r) (ht : t ≤ t') :
    b.refilled t' ≤ b.refilled t + (t' - t) * (r / 1000000000) := by
  have hgap : (0 : Rat) ≤ t' - t := by exact_mod_cast sub_nonneg.mpr ht
  have hgain : 0 ≤ ((t' : Rat) - t) * (r / 1000000000) := by positivity
  have hidle : idle b t' / 1000000000 * r ≤ idle b t / 1000000000 * r + (t' - t) * (r / 1000000000) := by
    have hle : (idle b t' : Rat) ≤ idle b t + (t' - t) := by exact_mod_cast idle_le b ht
    have hrate : 0 ≤ r / 1000000000 := by positivity
    have hscaled := mul_le_mul_of_nonneg_right hle hrate
    linarith
  rw [refilled_eq h, refilled_eq h, min_add]
  apply min_le_min
  · linarith
  · linarith

theorem refilled_of_stale (h : Sound r burst clock b) (hr : 0 ≤ r) (hfull : (burst : Rat) ≤ 3600 * r) {last : Int}
    (hlast : b.last = some last) (hstale : last < t - Dispatcher.hour) : b.refilled t = burst := by
  have hidle : (3600000000000 : Rat) ≤ idle b t := by
    have hgap : 3600000000000 ≤ t - last := by
      simp only [Dispatcher.hour, Dispatcher.minute] at hstale
      omega
    rw [idle, hlast, Option.elim_some]
    exact_mod_cast hgap
  have hgain : 3600 * r ≤ idle b t / 1000000000 * r := by
    apply mul_le_mul_of_nonneg_right _ hr
    linarith
  have htokens := h.nonneg
  rw [refilled_eq h, min_eq_left]
  linarith

theorem refilled_of_last {tokens : Rat} (hle : tokens ≤ b.burst) :
    { b with tokens := tokens, last := some t }.refilled t = tokens := by
  simp [Dispatcher.TokenBucket.refilled, hle]

theorem refilled_allow (b : TokenBucket) (t : Int) :
    ((if (RateLimit.allow b t).1 = true then 1 else 0 : Nat) : Rat) +
      Dispatcher.TokenBucket.refilled (RateLimit.allow b t).2 t = b.refilled t := by
  have hle : b.refilled t ≤ b.burst := min_le_left _ _
  simp only [RateLimit.allow]
  split
  · simp [refilled_of_last (show b.refilled t - 1 ≤ b.burst by linarith)]
  · simp [refilled_of_last hle]

theorem sound_allow (h : Sound r burst clock b) (hr : 0 ≤ r) (hburst : 0 ≤ burst) (ht : clock ≤ t) :
    Sound r burst t (RateLimit.allow b t).2 := by
  have hpast : ∀ last, some t = some last → last ≤ t := by
    rintro last ⟨⟩
    exact le_refl t
  simp only [RateLimit.allow]
  split
  · rename_i hone
    exact ⟨h.limit, h.size, sub_nonneg.mpr hone, hpast⟩
  · exact ⟨h.limit, h.size, refilled_nonneg h hr hburst ht, hpast⟩

theorem last_allow (b : TokenBucket) (t : Int) : (RateLimit.allow b t).2.last = some t := by
  simp only [RateLimit.allow]
  split <;> rfl

end TokenBucket

inductive LimiterOp where
  | allow (ns : String)
  | evict

namespace NsRateLimiter

open TokenBucket (Sound)

def step (n : NsRateLimiter) (l : Int × LimiterOp) : NsRateLimiter :=
  match l.2 with
  | .allow ns => (n.allow ns l.1).2
  | .evict => n.evict Dispatcher.hour l.1

def allowedCalls : NsRateLimiter → List (Int × LimiterOp) → List (Int × String)
  | _, [] => []
  | n, (now, .allow ns) :: ls => (if (n.allow ns now).1 then [(now, ns)] else []) ++ allowedCalls (n.allow ns now).2 ls
  | n, (now, .evict) :: ls => allowedCalls (n.evict Dispatcher.hour now) ls

/-- How many calls of a namespace are allowed from `a` to `b`. -/
def allowedIn (n : NsRateLimiter) (ls : List (Int × LimiterOp)) (ns : String) (a b : Int) : Nat :=
  (n.allowedCalls ls).countP (fun c => c.2 = ns ∧ a ≤ c.1 ∧ c.1 ≤ b)

/-- Every limiter has the rate and the size and was last asked when the namespace was. -/
structure Metered (r : Rat) (burst : Int) (n : NsRateLimiter) (clock : Int) : Prop where
  rate : n.rate = r
  size : n.burst = burst
  sound : ∀ ns b, n.limiters.lookup ns = some b → Sound r burst clock b
  access : ∀ ns b, n.limiters.lookup ns = some b → b.last = n.lastAccess.lookup ns

def meter (r : Rat) (burst : Int) (ns : String) : Meter NsRateLimiter LimiterOp where
  step := step
  granted n l :=
    match l.2 with
    | .allow ns' => if ns' = ns ∧ (n.allow ns' l.1).1 = true then 1 else 0
    | .evict => 0
  level n t := TokenBucket.refilled (n.limiterFor ns) t
  rate := r / 1000000000
  burst := burst

theorem allowedIn_eq (r : Rat) (burst : Int) (n : NsRateLimiter) (ls : List (Int × LimiterOp)) (ns : String)
    (a b : Int) : n.allowedIn ls ns a b = (meter r burst ns).grantedIn a b n ls := by
  induction ls generalizing n with
  | nil => rfl
  | cons l ls ih =>
      obtain ⟨now, op⟩ := l
      cases op with
      | evict =>
          have hrest := ih (n.evict Dispatcher.hour now)
          simpa [Meter.grantedIn, meter, step, allowedIn, allowedCalls] using hrest
      | allow ns' =>
          have hrest := ih (n.allow ns' now).2
          rw [allowedIn] at hrest
          have hhead : List.countP (fun c : Int × String => decide (c.2 = ns ∧ a ≤ c.1 ∧ c.1 ≤ b))
              (if (n.allow ns' now).1 then [(now, ns')] else []) =
                if a ≤ now ∧ now ≤ b then (meter r burst ns).granted n (now, .allow ns') else 0 := by
            simp only [meter]
            cases (n.allow ns' now).1 <;> by_cases hns : ns' = ns <;> by_cases hin : a ≤ now ∧ now ≤ b <;>
              simp [hns, hin]
          rw [allowedIn, allowedCalls, List.countP_append, hrest, Meter.grantedIn, hhead]
          rfl

variable {r : Rat} {burst clock now : Int} {n : NsRateLimiter} {ns : String}

theorem sound_newLimiter (hburst : 0 ≤ burst) : Sound r burst clock (RateLimit.newLimiter r burst) where
  limit := rfl
  size := rfl
  nonneg := Int.cast_nonneg hburst
  past := by rintro last ⟨⟩

theorem sound_limiterFor (h : Metered r burst n clock) (hburst : 0 ≤ burst) :
    Sound r burst clock (n.limiterFor ns) := by
  unfold limiterFor
  cases hl : n.limiters.lookup ns with
  | none =>
      rw [h.rate, h.size]
      exact sound_newLimiter hburst
  | some b => exact h.sound ns b hl

theorem limiterFor_allow (ns' : String) :
    (n.allow ns' now).2.limiterFor ns =
      if ns = ns' then (RateLimit.allow (n.limiterFor ns) now).2 else n.limiterFor ns := by
  split
  · rename_i hns
    subst hns
    simp only [allow]
    rw [limiterFor, AList.lookup_insert]
    rfl
  · rename_i hns
    simp only [allow]
    rw [limiterFor, AList.lookup_insert_ne hns]
    rfl

theorem lookup_evict (n : NsRateLimiter) (maxAge now : Int) (ns : String) :
    (n.evict maxAge now).limiters.lookup ns =
      if (n.lastAccess.lookup ns).any (stale maxAge now) then none else n.limiters.lookup ns := by
  simp only [evict, Table.lookup_restrict]
  cases n.limiters.lookup ns <;> cases (n.lastAccess.lookup ns).any (stale maxAge now) <;> rfl

theorem lookup_lastAccess_evict (n : NsRateLimiter) (maxAge now : Int) (ns : String) :
    (n.evict maxAge now).lastAccess.lookup ns =
      if (n.lastAccess.lookup ns).any (stale maxAge now) then none else n.lastAccess.lookup ns := by
  simp only [evict, Table.lookup_restrict]
  cases n.lastAccess.lookup ns with
  | none => rfl
  | some last =>
      rw [Option.any_some]
      cases hstale : stale maxAge now last <;> simp [Option.filter, hstale]

theorem refilled_evict (h : Metered r burst n clock) (hburst : 0 ≤ burst) (hr : 0 ≤ r)
    (hfull : (burst : Rat) ≤ 3600 * r) :
    TokenBucket.refilled ((n.evict Dispatcher.hour now).limiterFor ns) now =
      TokenBucket.refilled (n.limiterFor ns) now := by
  rw [limiterFor, limiterFor, lookup_evict]
  cases hlast : n.lastAccess.lookup ns with
  | none => rfl
  | some last =>
      cases hl : n.limiters.lookup ns with
      | none => rw [ite_self]; rfl
      | some b =>
          rw [Option.any_some]
          split
          · rename_i hstale
            have hb : b.refilled now = burst := TokenBucket.refilled_of_stale (h.sound ns b hl) hr hfull
              ((h.access ns b hl).trans hlast) (of_decide_eq_true hstale)
            have hnew : Sound r burst clock (RateLimit.newLimiter r burst) := sound_newLimiter hburst
            rw [Option.getD_none, Option.getD_some, hb]
            show TokenBucket.refilled (RateLimit.newLimiter n.rate n.burst) now = burst
            rw [h.rate, h.size, TokenBucket.refilled_eq hnew]
            simp [TokenBucket.idle, RateLimit.newLimiter]
          · rfl

theorem metered_allow (h : Metered r burst n clock) (hburst : 0 ≤ burst) (hr : 0 ≤ r) (hnow : clock ≤ now)
    (ns : String) : Metered r burst (n.allow ns now).2 now := by
  refine ⟨h.rate, h.size, fun ns' b hl => ?_, fun ns' b hl => ?_⟩
  · by_cases hns : ns' = ns
    · subst hns
      rw [allow, AList.lookup_insert] at hl
      cases hl
      exact TokenBucket.sound_allow (sound_limiterFor h hburst) hr hburst hnow
    · rw [allow, AList.lookup_insert_ne hns] at hl
      exact (h.sound ns' b hl).mono hnow
  · by_cases hns : ns' = ns
    · subst hns
      rw [allow, AList.lookup_insert] at hl ⊢
      cases hl
      exact TokenBucket.last_allow _ _
    · rw [allow, AList.lookup_insert_ne hns] at hl ⊢
      exact h.access ns' b hl

theorem metered_evict (h : Metered r burst n clock) (hnow : clock ≤ now) (maxAge : Int) :
    Metered r burst (n.evict maxAge now) now := by
  refine ⟨h.rate, h.size, fun ns b hl => ?_, fun ns b hl => ?_⟩
  · rw [lookup_evict] at hl
    split at hl
    · cases hl
    · exact (h.sound ns b hl).mono hnow
  · rw [lookup_evict] at hl
    rw [lookup_lastAccess_evict]
    split at hl
    · cases hl
    · rename_i hkept
      rw [if_neg hkept]
      exact h.access ns b hl

theorem lawful_meter (hburst : 0 ≤ burst) (hr : 0 ≤ r) (hfull : (burst : Rat) ≤ 3600 * r) (ns : String) :
    (meter r burst ns).Lawful (Metered r burst) where
  rate_nonneg := div_nonneg hr (by norm_num)
  kept {n clock l} h hnow := by
    obtain ⟨now, op⟩ := l
    cases op with
    | allow ns' => exact metered_allow h hburst hr hnow ns'
    | evict => exact metered_evict h hnow _
  paid {n clock l} h hnow := by
    obtain ⟨now, op⟩ := l
    cases op with
    | allow ns' =>
        simp only [meter, step, limiterFor_allow]
        by_cases hns : ns = ns'
        · subst hns
          simpa [allow] using (TokenBucket.refilled_allow (n.limiterFor ns) now).le
        · simp [hns, Ne.symm hns]
    | evict =>
        simp only [meter, step, refilled_evict h hburst hr hfull]
        simp
  refill h hclock ht := TokenBucket.refilled_le (sound_limiterFor h hburst) hr ht
  nonneg h hclock := TokenBucket.refilled_nonneg (sound_limiterFor h hburst) hr hburst hclock
  le_burst h _ := TokenBucket.refilled_le_burst (sound_limiterFor h hburst)

theorem allowedIn_le (hn : n.limiters = ∅) (hburst : 0 ≤ n.burst) (hr : 0 ≤ n.rate)
    (hfull : (n.burst : Rat) ≤ 3600 * n.rate) {ls : List (Int × LimiterOp)}
    (hsorted : ls.Pairwise (fun l l' => l.1 ≤ l'.1)) (ns : String) {a b : Int} (hab : a ≤ b) :
    (n.allowedIn ls ns a b : Rat) ≤ n.burst + (b - a) / 1000000000 * n.rate := by
  have hmetered : ∀ clock, Metered n.rate n.burst n clock := by
    intro clock
    refine ⟨rfl, rfl, fun ns b hl => ?_, fun ns b hl => ?_⟩
    · rw [hn] at hl
      cases hl
    · rw [hn] at hl
      cases hl
  obtain ⟨clock, hfrom⟩ : ∃ clock, ∀ l ∈ ls, clock ≤ l.1 := by
    cases ls with
    | nil => exact ⟨0, List.forall_mem_nil _⟩
    | cons l ls => exact ⟨l.1, List.forall_mem_cons.mpr ⟨le_refl _, (List.pairwise_cons.mp hsorted).1⟩⟩
  have hbound := Meter.grantedIn_le (lawful_meter hburst hr hfull ns) (hmetered clock) hfrom hsorted hab
  rw [allowedIn_eq n.rate n.burst]
  simp only [meter] at hbound
  calc _ ≤ _ := hbound
    _ = _ := by ring

/-- The limiter of `newNsRateLimiter` with the quotient as its rate. -/
def exactRate (perMinute : Int) : NsRateLimiter := { new perMinute with rate := (perMinute : Rat) / 60 }

theorem burst_new {m : Int} (hm : 1 ≤ m) : (new m).burst = max 1 (m / 10) := by
  show max 1 (m.tdiv 10) = max 1 (m / 10)
  rw [Int.tdiv_eq_ediv_of_nonneg (by omega)]

theorem rate_new_le {m : Int} (hm : 1 ≤ m) : (m : Rat) / 240 ≤ (new m).rate := by
  have hpos : (0 : Rat) ≤ m := by exact_mod_cast (by omega : 0 ≤ m)
  have hofInt : (m : Rat) / 2 ≤ Float64.ofInt m := Float64.half_le_round hpos
  have hdiv : Float64.ofInt m / 60 / 2 ≤ Float64.div (Float64.ofInt m) 60 :=
    Float64.half_le_round (div_nonneg (by linarith) (by norm_num))
  show _ ≤ Float64.div (Float64.ofInt m) 60
  linarith

theorem burst_le {m : Int} (hm : 1 ≤ m) : (((max 1 (m / 10) : Int)) : Rat) ≤ 15 * m := by
  have hle : max 1 (m / 10) ≤ 15 * m := by omega
  exact_mod_cast hle

/-- Whatever is evicted in between, the calls of a namespace that are allowed in a window
are at most the burst and what the rate brings in that time. The limiter as the source
builds it has a rate that is rounded, and keeps to it. -/
theorem allowed_within_rate {m : Int} (hm : 1 ≤ m) {ls : List (Int × LimiterOp)}
    (hsorted : ls.Pairwise (fun l l' => l.1 ≤ l'.1)) (ns : String) {a b : Int} (hab : a ≤ b) :
    ((exactRate m).allowedIn ls ns a b : Rat) ≤ (max 1 (m / 10) : Int) + (b - a) / 1000000000 * m / 60 ∧
      ((new m).allowedIn ls ns a b : Rat) ≤ (max 1 (m / 10) : Int) + (b - a) / 1000000000 * (new m).rate := by
  have hburst : 0 ≤ (new m).burst := by
    rw [burst_new hm]
    omega
  have hpos : (0 : Rat) ≤ m := by exact_mod_cast (by omega : 0 ≤ m)
  have hsize := burst_le hm
  rw [← burst_new hm] at hsize ⊢
  constructor
  · have hr : (0 : Rat) ≤ (m : Rat) / 60 := by positivity
    have hfull : ((new m).burst : Rat) ≤ 3600 * ((m : Rat) / 60) := by linarith
    have hbound := allowedIn_le (n := exactRate m) rfl hburst hr hfull hsorted ns hab
    calc ((exactRate m).allowedIn ls ns a b : Rat) ≤ (new m).burst + (b - a) / 1000000000 * (m / 60) := hbound
      _ = _ := by ring
  · have hrate := rate_new_le hm
    have hfull : ((new m).burst : Rat) ≤ 3600 * (new m).rate := by linarith
    exact allowedIn_le (n := new m) rfl hburst (by linarith) hfull hsorted ns hab

/-- A call, the eviction of its limiter, and three calls at once on the new one. -/
def evictedBurst : List (Int × LimiterOp) :=
  [(0, .allow "team"), (2 * Dispatcher.hour, .evict), (2 * Dispatcher.hour, .allow "team"),
    (2 * Dispatcher.hour, .allow "team"), (2 * Dispatcher.hour, .allow "team")]

theorem allowed_within_rate_evicted :
    (exactRate 20).allowedIn evictedBurst "team" (2 * Dispatcher.hour) (2 * Dispatcher.hour) = 2 ∧
      ((exactRate 20).allowedIn evictedBurst "team" (2 * Dispatcher.hour) (2 * Dispatcher.hour) : Rat) ≤
        (max 1 (20 / 10) : Int) +
          ((2 * Dispatcher.hour : Int) - (2 * Dispatcher.hour : Int)) / 1000000000 * (20 : Int) / 60 := by
  have hcount : (exactRate 20).allowedIn evictedBurst "team" (2 * Dispatcher.hour) (2 * Dispatcher.hour) = 2 := by
    with_unfolding_all rfl
  exact ⟨hcount, (allowed_within_rate (by decide) (by decide) "team" (le_refl _)).1⟩

end NsRateLimiter

end Nightjar.Notifier
