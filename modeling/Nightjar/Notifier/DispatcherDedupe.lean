import Nightjar.Notifier.DispatcherRuns
import Nightjar.Lib.Runs

namespace Nightjar.Notifier

open Lib Lib.Strings Dedupe

/-- A call of `Dispatch` or `DispatchDirect`, for a workload of any namespace text. -/
structure WorkloadCall where
  ns : String
  request : Request

namespace WorkloadCall

def key (c : WorkloadCall) : Dispatcher.DedupeKey := c.request.key c.ns

/-- The calls are for one constraint and one workload. -/
structure Same (c c' : WorkloadCall) : Prop where
  uid : c.request.constraint.uid = c'.request.constraint.uid
  kind : c.request.workloadKind = c'.request.workloadKind
  ns : c.ns = c'.ns
  name : c.request.workloadName = c'.request.workloadName

instance (c c' : WorkloadCall) : Decidable (Same c c') :=
  decidable_of_iff (c.request.constraint.uid = c'.request.constraint.uid ∧
      c.request.workloadKind = c'.request.workloadKind ∧ c.ns = c'.ns ∧
      c.request.workloadName = c'.request.workloadName)
    ⟨fun ⟨huid, hkind, hns, hname⟩ => ⟨huid, hkind, hns, hname⟩,
      fun ⟨huid, hkind, hns, hname⟩ => ⟨huid, hkind, hns, hname⟩⟩

end WorkloadCall

/-- Where a goroutine stands in its call: past the rate limit, or past the dedupe check
and before the API call. -/
inductive CallStage where
  | idle
  | allowed (c : WorkloadCall)
  | marked (c : WorkloadCall)

/-- An answer of `tryMarkSeen`: a call that is not fresh is suppressed. -/
structure DedupeCheck where
  call : WorkloadCall
  time : Int
  fresh : Bool

/-- The dispatcher with the calls that are going on and the dedupe checks made, the last
first. -/
structure DispatchCalls [RateLimit] where
  opts : DispatcherOptions
  nsLimiter : NsRateLimiter
  dedupeCache : Cache Dispatcher.DedupeKey := ∅
  calls : Nat → CallStage := fun _ => .idle
  clock : Int := 0
  checks : List DedupeCheck := []

inductive DispatchOp where
  | allow (i : Nat) (c : WorkloadCall)
  | mark (i : Nat)
  | create (i : Nat) (answer : Except String Unit)
  | sweep
  | evict

namespace DispatchCalls

section Machine
variable [RateLimit]

def put (s : DispatchCalls) (i : Nat) (stage : CallStage) : DispatchCalls :=
  { s with calls := Function.update s.calls i stage }

def stepAt (s : DispatchCalls) (now : Int) : DispatchOp → Option DispatchCalls
  | .allow i c =>
      match s.calls i with
      | .idle =>
          let answer := s.nsLimiter.allow c.ns now
          some ({ s with nsLimiter := answer.2 }.put i (if answer.1 then .allowed c else .idle))
      | _ => none
  | .mark i =>
      match s.calls i with
      | .allowed c =>
          let answer := Dispatcher.tryMarkSeen s.opts s.dedupeCache c.key now
          some ({ s with dedupeCache := answer.2, checks := ⟨c, now, answer.1⟩ :: s.checks }.put i
            (if answer.1 then .marked c else .idle))
      | _ => none
  | .create i _ =>
      match s.calls i with
      | .marked _ => some (s.put i .idle)
      | _ => none
  | .sweep => some { s with dedupeCache := Dispatcher.cleanupDedupeCache s.opts s.dedupeCache now }
  | .evict => some { s with nsLimiter := s.nsLimiter.evict Dispatcher.hour now }

/-- A step at a time that is not before the last one. -/
def next (s : DispatchCalls) (l : Int × DispatchOp) : Option DispatchCalls :=
  if s.clock ≤ l.1 then s.stepAt l.1 l.2 |>.map (fun s' => { s' with clock := l.1 }) else none

def Initial (s : DispatchCalls) : Prop := s.dedupeCache = ∅ ∧ s.checks = [] ∧ ∀ i, s.calls i = .idle

def system : System DispatchCalls (Int × DispatchOp) := .ofStep Initial next

/-- What a step can do to the dedupe cache, the checks and the calls. -/
inductive Step (s : DispatchCalls) (now : Int) : DispatchOp → DispatchCalls → Prop
  | allow {i : Nat} {c : WorkloadCall} {n : NsRateLimiter} {stage : CallStage} :
      Step s now (.allow i c) { s.put i stage with nsLimiter := n, clock := now }
  | fresh {i : Nat} {c : WorkloadCall} (hi : s.calls i = .allowed c)
      (h : (Dispatcher.tryMarkSeen s.opts s.dedupeCache c.key now).1 = true) :
      Step s now (.mark i)
        { s.put i (.marked c) with
          dedupeCache := (Dispatcher.tryMarkSeen s.opts s.dedupeCache c.key now).2
          checks := ⟨c, now, true⟩ :: s.checks
          clock := now }
  | suppressed {i : Nat} {c : WorkloadCall} (hi : s.calls i = .allowed c)
      (h : (Dispatcher.tryMarkSeen s.opts s.dedupeCache c.key now).1 = false) :
      Step s now (.mark i) { s.put i .idle with checks := ⟨c, now, false⟩ :: s.checks, clock := now }
  | create {i : Nat} {c : WorkloadCall} (answer : Except String Unit) (hi : s.calls i = .marked c) :
      Step s now (.create i answer) { s.put i .idle with clock := now }
  | sweep : Step s now .sweep
      { s with dedupeCache := Dispatcher.cleanupDedupeCache s.opts s.dedupeCache now, clock := now }
  | evict : Step s now .evict { s with nsLimiter := s.nsLimiter.evict Dispatcher.hour now, clock := now }

variable {s s' : DispatchCalls} {now : Int} {op : DispatchOp}

theorem step_of_next (h : s.next (now, op) = some s') : s.clock ≤ now ∧ Step s now op s' := by
  unfold next at h
  split at h
  · rename_i hnow
    refine ⟨hnow, ?_⟩
    obtain ⟨t, ht, rfl⟩ := Option.map_eq_some_iff.mp h
    cases op with
    | allow i c =>
        simp only [stepAt] at ht
        split at ht
        · cases ht
          exact .allow
        · cases ht
    | mark i =>
        simp only [stepAt] at ht
        split at ht
        · rename_i c hi
          cases ht
          cases hf : (Dispatcher.tryMarkSeen s.opts s.dedupeCache c.key now).1 with
          | true => exact .fresh hi hf
          | false =>
              have hsame : (Dispatcher.tryMarkSeen s.opts s.dedupeCache c.key now).2 = s.dedupeCache := by
                rw [Dispatcher.tryMarkSeen, tryMark_snd]
                exact if_neg (Bool.eq_false_iff.mp hf)
              rw [hsame]
              exact .suppressed hi hf
        · cases ht
    | create i answer =>
        simp only [stepAt] at ht
        split at ht
        · cases ht
          exact .create answer ‹_›
        · cases ht
    | sweep =>
        cases ht
        exact .sweep
    | evict =>
        cases ht
        exact .evict
  · cases h

/-- Every entry of the cache is the time of a check that passed. -/
structure Logged (s : DispatchCalls) : Prop where
  cached : ∀ k t, s.dedupeCache.lookup k = some t → ∃ c, ⟨c, t, true⟩ ∈ s.checks ∧ c.key = k
  past : ∀ k ∈ s.checks, k.time ≤ s.clock

theorem logged_initial (h : s.Initial) : s.Logged := by
  obtain ⟨hcache, hchecks, -⟩ := h
  constructor
  · intro k t hl
    rw [hcache] at hl
    cases hl
  · rw [hchecks]
    exact List.forall_mem_nil _

theorem logged_step (h : s.Logged) (hnow : s.clock ≤ now) (hs : Step s now op s') : s'.Logged := by
  have hpast : ∀ k ∈ s.checks, k.time ≤ now := fun k hk => (h.past k hk).trans hnow
  cases hs with
  | allow | create | evict => exact ⟨h.cached, hpast⟩
  | sweep =>
      refine ⟨fun k t hl => ?_, hpast⟩
      rw [Dispatcher.cleanupDedupeCache, lookup_sweep, Option.filter_eq_some_iff] at hl
      exact h.cached k t hl.1
  | @fresh i c hi hf =>
      constructor
      · intro k t hl
        rw [Dispatcher.tryMarkSeen, lookup_tryMark] at hl
        split at hl
        · rename_i hk
          cases hl
          exact ⟨c, List.mem_cons_self, hk.2.symm⟩
        · obtain ⟨c', hmem, hkey⟩ := h.cached k t hl
          exact ⟨c', List.mem_cons_of_mem _ hmem, hkey⟩
      · exact List.forall_mem_cons.mpr ⟨le_refl now, hpast⟩
  | suppressed hi hf =>
      constructor
      · intro k t hl
        obtain ⟨c', hmem, hkey⟩ := h.cached k t hl
        exact ⟨c', List.mem_cons_of_mem _ hmem, hkey⟩
      · exact List.forall_mem_cons.mpr ⟨le_refl now, hpast⟩

/-- Every suppressed call had before it, inside the window, a call for the same
constraint and workload that passed. -/
def Justified (opts : DispatcherOptions) : List DedupeCheck → Prop
  | [] => True
  | k :: earlier =>
      (k.fresh = false → ∃ k' ∈ earlier, k'.fresh = true ∧ k.call.Same k'.call ∧
        k.time - Dispatcher.window opts < k'.time ∧ k'.time ≤ k.time) ∧ Justified opts earlier

def OneWorkloadAt (s : DispatchCalls) (now : Int) : CallStage → Prop
  | .allowed c => ∀ k ∈ s.checks, k.fresh = true → now - Dispatcher.window s.opts < k.time → k.call.key = c.key →
      c.Same k.call
  | .idle | .marked _ => True

def OneWorkload (s : DispatchCalls) (l : Int × DispatchOp) : Prop :=
  match l.2 with
  | .mark i => s.OneWorkloadAt l.1 (s.calls i)
  | _ => True

instance (s : DispatchCalls) (now : Int) : (stage : CallStage) → Decidable (s.OneWorkloadAt now stage)
  | .allowed c => inferInstanceAs (Decidable (∀ k ∈ s.checks, k.fresh = true →
      now - Dispatcher.window s.opts < k.time → k.call.key = c.key → c.Same k.call))
  | .idle | .marked _ => .isTrue trivial

instance (s : DispatchCalls) : (l : Int × DispatchOp) → Decidable (s.OneWorkload l)
  | (now, .mark i) => inferInstanceAs (Decidable (s.OneWorkloadAt now (s.calls i)))
  | (_, .allow _ _) | (_, .create _ _) | (_, .sweep) | (_, .evict) => .isTrue trivial

theorem suppressed_time {c : WorkloadCall}
    (h : (Dispatcher.tryMarkSeen s.opts s.dedupeCache c.key now).1 = false) :
    ∃ t, s.dedupeCache.lookup c.key = some t ∧ now - Dispatcher.window s.opts < t := by
  rw [Dispatcher.tryMarkSeen, Bool.eq_false_iff, Ne, tryMark_fst] at h
  simp only [not_forall, not_le, exists_prop] at h
  obtain ⟨t, hl, ht⟩ := h
  refine ⟨t, hl, ?_⟩
  have hw : (Dispatcher.dedupe s.opts).window = Dispatcher.window s.opts := rfl
  omega

theorem justified_step (h : s.Logged) (hj : Justified s.opts s.checks) (hg : s.OneWorkload (now, op))
    (hnow : s.clock ≤ now) (hs : Step s now op s') : Justified s'.opts s'.checks := by
  cases hs with
  | allow | create | evict | sweep => exact hj
  | fresh hi hf => exact ⟨fun hc => absurd hc Bool.true_eq_false_eq_False, hj⟩
  | @suppressed i c hi hf =>
      refine ⟨fun _ => ?_, hj⟩
      obtain ⟨t, hl, ht⟩ := suppressed_time hf
      obtain ⟨c', hmem, hkey⟩ := h.cached _ _ hl
      simp only [OneWorkload, hi, OneWorkloadAt] at hg
      exact ⟨_, hmem, rfl, hg _ hmem rfl ht hkey, ht, (h.past _ hmem).trans hnow⟩

theorem suppressed_only_by_same_workload (h : system.Reaches OneWorkload s) : Justified s.opts s.checks := by
  have hinv : s.Logged ∧ Justified s.opts s.checks := by
    refine h.invariant (I := fun s => s.Logged ∧ Justified s.opts s.checks) ?_ ?_
    · intro s hinit
      refine ⟨logged_initial hinit, ?_⟩
      rw [hinit.2.1]
      trivial
    · rintro s ⟨now, op⟩ s' ⟨hl, hj⟩ hg hs
      obtain ⟨hnow, hstep⟩ := step_of_next hs
      exact ⟨logged_step hl hnow hstep, justified_step hl hj hg hnow hstep⟩
  exact hinv.2

def MarkedSince (s : DispatchCalls) (key : Dispatcher.DedupeKey) (t : Int) : Prop :=
  ∃ m, s.dedupeCache.lookup key = some m ∧ t ≤ m

theorem opts_step (hs : Step s now op s') : s'.opts = s.opts := by
  cases hs <;> rfl

theorem clock_step (hs : Step s now op s') : s'.clock = now := by
  cases hs <;> rfl

theorem markedSince_step {key : Dispatcher.DedupeKey} {t : Int} (h : s.MarkedSince key t) (hs : Step s now op s')
    (hwin : now < t + Dispatcher.window s.opts) : s'.MarkedSince key t := by
  obtain ⟨m, hl, hm⟩ := h
  cases hs with
  | allow | create | evict | suppressed => exact ⟨m, hl, hm⟩
  | sweep =>
      refine ⟨m, ?_, hm⟩
      have hcut := Dispatcher.cutoff_le s.opts now
      rw [Dispatcher.cleanupDedupeCache, lookup_sweep, Option.filter_eq_some_iff]
      refine ⟨hl, ?_⟩
      have hkept : ¬ m < Dispatcher.cutoff s.opts now := by omega
      rw [Bool.not_eq_true', decide_eq_false_iff_not]
      exact hkept
  | @fresh i c hi hf =>
      refine ⟨m, ?_, hm⟩
      rw [Dispatcher.tryMarkSeen, lookup_tryMark, if_neg]
      · exact hl
      · rintro ⟨hok, rfl⟩
        have hgap := (tryMark_fst _ _ _ _).mp hok m hl
        have hw : (Dispatcher.dedupe s.opts).window = Dispatcher.window s.opts := rfl
        omega

/-- The runs from a state. -/
def runsFrom (s : DispatchCalls) : System DispatchCalls (Int × DispatchOp) := .ofStep (· = s) next

theorem markedSince_run {key : Dispatcher.DedupeKey} {t : Int} (h : s.MarkedSince key t)
    (hr : (runsFrom s).Reachable s') :
    s'.opts = s.opts ∧ (s'.clock < t + Dispatcher.window s.opts → s'.MarkedSince key t) := by
  refine hr.invariant
    (I := fun s' => s'.opts = s.opts ∧ (s'.clock < t + Dispatcher.window s.opts → s'.MarkedSince key t)) ?_ ?_
  · rintro _ rfl
    exact ⟨rfl, fun _ => h⟩
  · rintro u ⟨now, op⟩ u' ⟨hopts, hu⟩ _ hs
    obtain ⟨hnow, hstep⟩ := step_of_next hs
    refine ⟨(opts_step hstep).trans hopts, fun hwin => ?_⟩
    rw [clock_step hstep] at hwin
    exact markedSince_step (hu (by omega)) hstep (by rw [hopts]; exact hwin)

theorem markedSince_of_mark {i : Nat} {c : WorkloadCall} {t : Int} (hcall : s.calls i = .allowed c)
    (hmark : s.next (t, .mark i) = some s') (hpass : s'.calls i = .marked c) : s'.MarkedSince c.key t := by
  obtain ⟨-, hstep⟩ := step_of_next hmark
  cases hstep with
  | fresh hi hf =>
      rw [hcall] at hi
      cases hi
      refine ⟨t, ?_, le_refl t⟩
      rw [Dispatcher.tryMarkSeen] at hf ⊢
      rw [lookup_tryMark]
      exact if_pos ⟨hf, rfl⟩
  | suppressed hi hf =>
      simp [put] at hpass

theorem suppressed_of_markedSince {j : Nat} {c : WorkloadCall} {t t' : Int} (h : s.MarkedSince c.key t)
    (hcall : s.calls j = .allowed c) (hmark : s.next (t', .mark j) = some s')
    (hwin : t' < t + Dispatcher.window s.opts) : s'.calls j = .idle ∧ s'.checks = ⟨c, t', false⟩ :: s.checks := by
  obtain ⟨-, hstep⟩ := step_of_next hmark
  obtain ⟨m, hl, hm⟩ := h
  cases hstep with
  | suppressed hi hf =>
      rw [hcall] at hi
      cases hi
      exact ⟨Function.update_self .., rfl⟩
  | fresh hi hf =>
      rw [hcall] at hi
      cases hi
      have hgap := (tryMark_fst _ _ _ _).mp hf m hl
      have hw : (Dispatcher.dedupe s.opts).window = Dispatcher.window s.opts := rfl
      omega

/-- A call whose Event could not be created has left its mark: whatever happens in
between, a call with the same arguments that the rate limit lets through is suppressed
until the window is over. -/
theorem failed_dispatch_not_retried {s₀ s₁ s₂ s₃ s₄ s₅ : DispatchCalls} {i j : Nat} {c : WorkloadCall}
    {t t₂ t' : Int} {err : String} (hcall : s₀.calls i = .allowed c) (hmark : s₀.next (t, .mark i) = some s₁)
    (hpass : s₁.calls i = .marked c) (hrun : (runsFrom s₁).Reachable s₂)
    (hfail : s₂.next (t₂, .create i (.error err)) = some s₃) (hrest : (runsFrom s₃).Reachable s₄)
    (hagain : s₄.calls j = .allowed c) (hcheck : s₄.next (t', .mark j) = some s₅)
    (hwin : t' < t + Dispatcher.window s₀.opts) :
    s₅.calls j = .idle ∧ s₅.checks = ⟨c, t', false⟩ :: s₄.checks := by
  have hmarked := markedSince_of_mark hcall hmark hpass
  have hopts₁ : s₁.opts = s₀.opts := opts_step (step_of_next hmark).2
  have hreach : (runsFrom s₁).Reachable s₄ := System.Reaches.trans (.step hrun trivial hfail) hrest
  obtain ⟨hopts₄, hlast⟩ := markedSince_run hmarked hreach
  have hnow : s₄.clock ≤ t' := (step_of_next hcheck).1
  rw [← hopts₁] at hwin
  exact suppressed_of_markedSince (hlast (by omega)) hagain hcheck (by rw [hopts₄]; exact hwin)

end Machine

section Link

def Within (ns : Namespace) : CallStage → Prop
  | .allowed c | .marked c => ns.name = c.ns
  | .idle => True

def stageIn (ns : Namespace) : CallStage → DispatchStage
  | .allowed c => if ns.name = c.ns then .allowed c.request else .idle
  | .marked c => if ns.name = c.ns then .marked c.request else .idle
  | .idle => .idle

theorem stageIn_of_ne {ns ns' : Namespace} (hne : ns' ≠ ns) {stage : CallStage} (h : Within ns stage) :
    stageIn ns' stage = .idle := by
  cases stage with
  | idle => rfl
  | allowed c | marked c => exact if_neg fun hns => hne (Namespace.ext (hns.trans h.symm))

variable [RateLimit] {s s' : DispatchCalls} {i : Nat} {now : Int}

/-- The dispatcher of the runs over namespaces: a goroutine is in the namespace of its call, and idle in
all others. -/
def dispatcher (s : DispatchCalls) : Dispatcher where
  opts := s.opts
  nsLimiter := s.nsLimiter
  dedupeCache := s.dedupeCache
  calls ns i := stageIn ns (s.calls i)

theorem dispatcher_put {ns : Namespace} (hold : Within ns (s.calls i)) {stage : CallStage} (hnew : Within ns stage) :
    (s.put i stage).dispatcher = s.dispatcher.put ns i (stageIn ns stage) := by
  have hcalls : (s.put i stage).dispatcher.calls = (s.dispatcher.put ns i (stageIn ns stage)).calls := by
    funext ns' j
    simp only [dispatcher, put, Dispatcher.put]
    by_cases hns : ns' = ns
    · subst hns
      rw [Function.update_self]
      by_cases hj : j = i
      · rw [hj, Function.update_self, Function.update_self]
      · rw [Function.update_of_ne hj, Function.update_of_ne hj]
    · rw [Function.update_of_ne hns]
      by_cases hj : j = i
      · rw [hj, Function.update_self, stageIn_of_ne hns hnew, stageIn_of_ne hns hold]
      · rw [Function.update_of_ne hj]
  exact congrArg (Dispatcher.mk s.opts s.nsLimiter s.dedupeCache) hcalls

def Named (s : DispatchCalls) : Prop := ∀ i, ∃ ns, Within ns (s.calls i)

theorem named_put (h : s.Named) {ns : Namespace} {stage : CallStage} (hstage : Within ns stage) :
    (s.put i stage).Named := by
  intro j
  have hcalls : (s.put i stage).calls j = if j = i then stage else s.calls j := Function.update_apply ..
  rw [hcalls]
  split
  · exact ⟨ns, hstage⟩
  · exact h j

def NamedOp (_ : DispatchCalls) (l : Int × DispatchOp) : Prop :=
  match l.2 with
  | .allow _ c => '/' ∉ c.ns.toList
  | _ => True

inductive Matches : Int × DispatchOp → DispatchStep → Prop
  | allow {ns : Namespace} {i : Nat} {c : WorkloadCall} {now : Int} (h : ns.name = c.ns) :
      Matches (now, .allow i c) (.allow ns i c.request now)
  | mark (ns : Namespace) (i : Nat) (now : Int) : Matches (now, .mark i) (.mark ns i now)
  | create (ns : Namespace) (i : Nat) (now : Int) (answer : Except String Unit) :
      Matches (now, .create i answer) (.create ns i "" "" answer)
  | sweep (now : Int) : Matches (now, .sweep) (.sweep now)
  | evict (now : Int) : Matches (now, .evict) (.evict now)

def suppressed (s : DispatchCalls) : Nat := s.checks.countP (fun k => !k.fresh)

def Follows [Unicode] [UpperCase] (s s' : DispatchCalls) (steps : List DispatchStep) : Prop :=
  (Dispatcher.machine.run s.dispatcher steps).1 = s'.dispatcher ∧
    s'.suppressed = s.suppressed + (Dispatcher.machine.run s.dispatcher steps).2.countP (fun o => o.2.2.isSuppressed)

variable [Unicode] [UpperCase]

theorem follows_step {step : DispatchStep} {d : Dispatcher} {out : List Dispatcher.Output}
    (hstep : Dispatcher.machine.step s.dispatcher step = (d, out)) (hd : d = s'.dispatcher)
    (hout : s'.suppressed = s.suppressed + out.countP (fun o => o.2.2.isSuppressed)) : Follows s s' [step] := by
  rw [Follows, Machine.run, hstep]
  exact ⟨hd, by rw [hout, Machine.run, List.append_nil]⟩

theorem follows_allow (hidle : s.calls i = .idle) {c : WorkloadCall} {ns : Namespace} (hns : ns.name = c.ns) :
    Follows s ({ s with nsLimiter := (s.nsLimiter.allow c.ns now).2 }.put i
      (if (s.nsLimiter.allow c.ns now).1 then .allowed c else .idle)) [.allow ns i c.request now] := by
  have hstage : s.dispatcher.calls ns i = .idle := congrArg (stageIn ns) hidle
  have hstep : Dispatcher.machine.step s.dispatcher (.allow ns i c.request now) =
      ({ s.dispatcher with nsLimiter := (s.nsLimiter.allow c.ns now).2 }.put ns i
        (if (s.nsLimiter.allow c.ns now).1 then .allowed c.request else .idle),
        if (s.nsLimiter.allow c.ns now).1 then [] else [(ns, i, .rateLimited)]) := by
    simp only [Dispatcher.machine, Dispatcher.stepAllow, hstage]
    rw [hns]
    rfl
  refine follows_step hstep ?_ ?_
  · have hold : Within ns ({ s with nsLimiter := (s.nsLimiter.allow c.ns now).2 }.calls i) := by
      rw [show ({ s with nsLimiter := (s.nsLimiter.allow c.ns now).2 } : DispatchCalls).calls i = .idle from hidle]
      trivial
    split
    · rw [dispatcher_put hold (show Within ns (.allowed c) from hns), stageIn, if_pos hns]
      rfl
    · rw [dispatcher_put hold (show Within ns .idle from trivial)]
      rfl
  · split <;> rfl

theorem follows_mark {c : WorkloadCall} (hallowed : s.calls i = .allowed c) {ns : Namespace} (hns : ns.name = c.ns) :
    Follows s ({ s with
        dedupeCache := (Dispatcher.tryMarkSeen s.opts s.dedupeCache c.key now).2
        checks := ⟨c, now, (Dispatcher.tryMarkSeen s.opts s.dedupeCache c.key now).1⟩ :: s.checks }.put i
      (if (Dispatcher.tryMarkSeen s.opts s.dedupeCache c.key now).1 then .marked c else .idle)) [.mark ns i now] := by
  have hstage : s.dispatcher.calls ns i = .allowed c.request :=
    (congrArg (stageIn ns) hallowed).trans (if_pos hns)
  have hkey : c.request.key ns.name = c.key := by rw [hns]; rfl
  have hstep : Dispatcher.machine.step s.dispatcher (.mark ns i now) =
      ({ s.dispatcher with dedupeCache := (Dispatcher.tryMarkSeen s.opts s.dedupeCache c.key now).2 }.put ns i
        (if (Dispatcher.tryMarkSeen s.opts s.dedupeCache c.key now).1 then .marked c.request else .idle),
        if (Dispatcher.tryMarkSeen s.opts s.dedupeCache c.key now).1 then [] else [(ns, i, .suppressed)]) := by
    simp only [Dispatcher.machine, Dispatcher.stepMark, hstage, hkey]
    rfl
  have hput (cache : Cache Dispatcher.DedupeKey) (checks : List DedupeCheck) {stage : CallStage}
      (hstage : Within ns stage) :
      ({ s with dedupeCache := cache, checks := checks }.put i stage).dispatcher =
        { s.dispatcher with dedupeCache := cache }.put ns i (stageIn ns stage) := by
    have hold : Within ns (s.calls i) := by
      rw [hallowed]
      exact hns
    exact @dispatcher_put _ { s with dedupeCache := cache, checks := checks } i ns hold stage hstage
  refine follows_step hstep ?_ ?_
  · split
    · rw [hput _ _ (show Within ns (.marked c) from hns), stageIn, if_pos hns]
    · rw [hput _ _ (show Within ns .idle from trivial)]
      rfl
  · have hchecks : ∀ fresh, suppressed { s with checks := ⟨c, now, fresh⟩ :: s.checks } =
        s.suppressed + if fresh then 0 else 1 := by
      intro fresh
      rw [suppressed, List.countP_cons]
      cases fresh <;> rfl
    refine (hchecks _).trans ?_
    split <;> rfl

theorem follows_create {c : WorkloadCall} (hmarked : s.calls i = .marked c) {ns : Namespace} (hns : ns.name = c.ns)
    (answer : Except String Unit) : Follows s (s.put i .idle) [.create ns i "" "" answer] := by
  have hstage : s.dispatcher.calls ns i = .marked c.request := (congrArg (stageIn ns) hmarked).trans (if_pos hns)
  have hold : Within ns (s.calls i) := by
    rw [hmarked]
    exact hns
  have hput := dispatcher_put hold (show Within ns .idle from trivial)
  rw [Follows, Machine.run]
  simp only [Dispatcher.machine, Dispatcher.stepCreate, hstage]
  cases answer <;> exact ⟨hput.symm, rfl⟩

theorem next_follows {l : Int × DispatchOp} (hnamed : s.Named) (hl : NamedOp s l) (h : s.next l = some s') :
    s'.Named ∧ ∃ step, Matches l step ∧ Follows s s' [step] := by
  obtain ⟨now, op⟩ := l
  rw [next] at h
  split at h
  · obtain ⟨t, ht, rfl⟩ := Option.map_eq_some_iff.mp h
    cases op with
    | allow i c =>
        simp only [stepAt] at ht
        split at ht
        · rename_i hidle
          cases ht
          have hwithin : Within ⟨c.ns, hl⟩ (if (s.nsLimiter.allow c.ns now).1 then .allowed c else .idle) := by
            split
            · rfl
            · trivial
          have hns : (Namespace.mk c.ns hl).name = c.ns := rfl
          exact ⟨named_put hnamed hwithin, _, .allow hns, follows_allow hidle hns⟩
        · cases ht
    | mark i =>
        simp only [stepAt] at ht
        split at ht
        · rename_i c hallowed
          cases ht
          obtain ⟨ns, hns⟩ := hnamed i
          rw [hallowed] at hns
          have hwithin : Within ns (if (Dispatcher.tryMarkSeen s.opts s.dedupeCache c.key now).1 then .marked c
              else .idle) := by
            split
            · exact hns
            · trivial
          exact ⟨named_put hnamed hwithin, _, .mark ns i now, follows_mark hallowed hns⟩
        · cases ht
    | create i answer =>
        simp only [stepAt] at ht
        split at ht
        · rename_i c hmarked
          cases ht
          obtain ⟨ns, hns⟩ := hnamed i
          rw [hmarked] at hns
          exact ⟨named_put hnamed (show Within ns .idle from trivial), _, .create ns i now answer,
            follows_create hmarked hns answer⟩
        · cases ht
    | sweep =>
        cases ht
        exact ⟨hnamed, _, .sweep now, rfl, rfl⟩
    | evict =>
        cases ht
        exact ⟨hnamed, _, .evict now, rfl, rfl⟩
  · cases h

/-- Step for step, a run of the calls is one of the dispatcher over namespaces, with the same cache and the
same limiters at its end and as many calls suppressed. -/
theorem run_follows {ls : List (Int × DispatchOp)} (hnamed : s.Named) (h : system.Trace NamedOp s ls s') :
    s'.Named ∧ ∃ steps, List.Forall₂ Matches ls steps ∧ Follows s s' steps := by
  induction h with
  | nil s => exact ⟨hnamed, [], .nil, rfl, rfl⟩
  | cons hl hs _ ih =>
      obtain ⟨hnamed', step, hmatch, hstate, hcount⟩ := next_follows hnamed hl hs
      obtain ⟨hend, rest, hmatches, hstate', hcount'⟩ := ih hnamed'
      refine ⟨hend, [step] ++ rest, .cons hmatch hmatches, ?_, ?_⟩
      · rw [Machine.run_append, hstate, hstate']
      · rw [Machine.run_append, hstate, hcount', hcount, List.countP_append, Nat.add_assoc]

end Link

section Samples
attribute [local instance] Dispatcher.tokenBucket

def deployment : WorkloadCall := ⟨"team", .direct (paymentsPolicy "deny-all") "web" "Deployment" .summary⟩

def statefulSet : WorkloadCall := ⟨"team", .direct (paymentsPolicy "deny-all") "web" "StatefulSet" .summary⟩

def idleDispatcher : DispatchCalls := { opts := {}, nsLimiter := .new 100 }

theorem idleDispatcher_initial : idleDispatcher.Initial := ⟨rfl, rfl, fun _ => rfl⟩

def twoCalls (c c' : WorkloadCall) (answer : Except String Unit) : List (Int × DispatchOp) :=
  [(0, .allow 0 c), (0, .mark 0), (0, .create 0 answer), (Dispatcher.minute, .allow 1 c'), (Dispatcher.minute, .mark 1)]

def bothKinds : DispatchCalls :=
  (System.exec next (fun _ _ => true) idleDispatcher (twoCalls deployment statefulSet (.ok ()))).get
    (by decide +kernel)

theorem other_kind_suppressed :
    system.Reachable bothKinds ∧
      bothKinds.checks = [⟨statefulSet, Dispatcher.minute, false⟩, ⟨deployment, 0, true⟩] ∧
      ¬ statefulSet.Same deployment ∧ ¬ Justified bothKinds.opts bothKinds.checks := by
  have hchecks : bothKinds.checks = [⟨statefulSet, Dispatcher.minute, false⟩, ⟨deployment, 0, true⟩] := by
    with_unfolding_all rfl
  have hother : ¬ statefulSet.Same deployment := by decide
  refine ⟨.exec (fun _ _ _ => trivial) (.init idleDispatcher_initial) (Option.some_get _).symm, hchecks, hother, ?_⟩
  rw [hchecks]
  rintro ⟨h, -⟩
  obtain ⟨k, hk, -, hsame, -⟩ := h rfl
  obtain rfl := List.mem_singleton.mp hk
  exact hother hsame

def sameTwice : DispatchCalls :=
  (System.exec next (fun s l => decide (s.OneWorkload l)) idleDispatcher
    (twoCalls deployment deployment (.ok ()))).get (by decide +kernel)

theorem suppressed_only_by_same_workload_twice : Justified sameTwice.opts sameTwice.checks :=
  suppressed_only_by_same_workload
    (.exec (fun _ _ => of_decide_eq_true) (.init idleDispatcher_initial) (Option.some_get _).symm)

def failedCalls : List (Int × DispatchOp) := twoCalls deployment deployment (.error "etcdserver: request timed out")

def afterFailed (n : Nat) : DispatchCalls :=
  (System.exec next (fun _ _ => true) idleDispatcher (failedCalls.take n)).getD idleDispatcher

theorem failed_dispatch_suppressed :
    System.exec next (fun _ _ => true) idleDispatcher failedCalls = some (afterFailed 5) ∧
      (afterFailed 5).checks = [⟨deployment, Dispatcher.minute, false⟩, ⟨deployment, 0, true⟩] ∧
      (afterFailed 5).calls 1 = .idle ∧ Dispatcher.minute < Dispatcher.window idleDispatcher.opts := by
  refine ⟨?_, ?_, ?_, by decide⟩ <;> with_unfolding_all rfl

theorem failed_dispatch_not_retried_timeout :
    (afterFailed 5).calls 1 = .idle ∧
      (afterFailed 5).checks = ⟨deployment, Dispatcher.minute, false⟩ :: (afterFailed 4).checks := by
  have hcall : (afterFailed 1).calls 0 = .allowed deployment := by with_unfolding_all rfl
  have hmark : (afterFailed 1).next (0, .mark 0) = some (afterFailed 2) := by with_unfolding_all rfl
  have hpass : (afterFailed 2).calls 0 = .marked deployment := by with_unfolding_all rfl
  have hfail : (afterFailed 2).next (0, .create 0 (.error "etcdserver: request timed out")) = some (afterFailed 3) := by
    with_unfolding_all rfl
  have hallow : (afterFailed 3).next (Dispatcher.minute, .allow 1 deployment) = some (afterFailed 4) := by
    with_unfolding_all rfl
  have hagain : (afterFailed 4).calls 1 = .allowed deployment := by with_unfolding_all rfl
  have hcheck : (afterFailed 4).next (Dispatcher.minute, .mark 1) = some (afterFailed 5) := by with_unfolding_all rfl
  have hwin : Dispatcher.minute < 0 + Dispatcher.window (afterFailed 1).opts := by decide +kernel
  exact failed_dispatch_not_retried hcall hmark hpass (.init rfl) hfail (.step (.init rfl) trivial hallow) hagain hcheck
    hwin

end Samples

end DispatchCalls

end Nightjar.Notifier
