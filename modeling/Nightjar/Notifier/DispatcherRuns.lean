import Nightjar.Notifier.Dispatcher
import Nightjar.Lib.Noninterference
import Nightjar.Lib.Tables

namespace Nightjar.Notifier

open Lib Lib.Strings Dedupe

/-- What is used of golang.org/x/time/rate: a limiter answers by the times at
which it has been asked. -/
class RateLimit where
  Limiter : Type
  newLimiter : (limit : Rat) → (burst : Int) → Limiter
  allow : Limiter → Int → Bool × Limiter

structure NsRateLimiter [RateLimit] where
  limiters : Table String RateLimit.Limiter := ∅
  lastAccess : Table String Int := ∅
  rate : Rat
  burst : Int

namespace NsRateLimiter

variable [RateLimit]

def new (perMinute : Int) : NsRateLimiter where
  rate := Float64.div (Float64.ofInt perMinute) 60
  burst := max 1 (perMinute.tdiv 10)

def limiterFor (n : NsRateLimiter) (ns : String) : RateLimit.Limiter :=
  (n.limiters.lookup ns).getD (RateLimit.newLimiter n.rate n.burst)

def allow (n : NsRateLimiter) (ns : String) (now : Int) : Bool × NsRateLimiter :=
  let answer := RateLimit.allow (n.limiterFor ns) now
  (answer.1, { n with
    limiters := n.limiters.insert ns answer.2
    lastAccess := n.lastAccess.insert ns now })

def stale (maxAge now last : Int) : Bool := decide (last < now - maxAge)

def evict (n : NsRateLimiter) (maxAge now : Int) : NsRateLimiter :=
  { n with
    limiters := n.limiters.restrict (fun ns _ => !(n.lastAccess.lookup ns).any (stale maxAge now))
    lastAccess := n.lastAccess.restrict (fun _ last => !stale maxAge now last) }

@[ext] structure View where
  limiter : Option RateLimit.Limiter
  lastAccess : Option Int
  rate : Rat
  burst : Int

def view (n : NsRateLimiter) (ns : String) : View := ⟨n.limiters.lookup ns, n.lastAccess.lookup ns, n.rate, n.burst⟩

variable {n m : NsRateLimiter} {ns : String}

theorem view_allow_of_ne {ns' : String} (hns : ns ≠ ns') (now : Int) : (n.allow ns' now).2.view ns = n.view ns := by
  ext1
  · exact AList.lookup_insert_ne hns
  · exact AList.lookup_insert_ne hns
  · rfl
  · rfl

theorem allow_congr (h : n.view ns = m.view ns) (now : Int) :
    (n.allow ns now).1 = (m.allow ns now).1 ∧ (n.allow ns now).2.view ns = (m.allow ns now).2.view ns := by
  obtain ⟨hlimiter, _, hrate, hburst⟩ := View.mk.inj h
  have hfor : n.limiterFor ns = m.limiterFor ns := by
    rw [limiterFor, limiterFor, hlimiter, hrate, hburst]
  refine ⟨by rw [allow, allow, hfor], ?_⟩
  ext1
  · simp only [view, allow, AList.lookup_insert, hfor]
  · simp only [view, allow, AList.lookup_insert]
  · exact hrate
  · exact hburst

theorem view_evict_congr (h : n.view ns = m.view ns) (maxAge now : Int) :
    (n.evict maxAge now).view ns = (m.evict maxAge now).view ns := by
  obtain ⟨hlimiter, hlast, hrate, hburst⟩ := View.mk.inj h
  ext1
  · simp only [view, evict, Table.lookup_restrict, hlimiter, hlast]
  · simp only [view, evict, Table.lookup_restrict, hlast]
  · exact hrate
  · exact hburst

end NsRateLimiter

@[ext] structure Namespace where
  name : String
  slashless : '/' ∉ name.toList
deriving DecidableEq

/-- What a call of `Dispatch` or `DispatchDirect` is given besides the namespace. -/
structure Request where
  constraint : Constraint
  workloadName : String
  workloadKind : String
  level : DetailLevel

namespace Request

/-- `Dispatch` sends at summary level. -/
def ofNotification (n : CorrelatedNotification) : Request := ⟨n.constraint, n.workloadName, n.workloadKind, .summary⟩

def direct (c : Constraint) (workloadName workloadKind : String) (level : DetailLevel) : Request :=
  ⟨c, workloadName, workloadKind, level⟩

def key (r : Request) (ns : String) : Dispatcher.DedupeKey := ⟨r.constraint.uid, ns ++ "/" ++ r.workloadName⟩

theorem key_ofNotification (n : CorrelatedNotification) : (ofNotification n).key n.ns = Dispatcher.key n := rfl

theorem key_ne {r r' : Request} {ns ns' : Namespace} (h : ns ≠ ns') : r.key ns.name ≠ r'.key ns'.name := by
  intro hkey
  have hworkload := congrArg Dispatcher.DedupeKey.workloadUID hkey
  have hsep : "/".toList = ['/'] := rfl
  exact h (Namespace.ext ((append_sep_inj hsep ns.slashless ns'.slashless).mp hworkload).1)

def event [Unicode] [UpperCase] (r : Request) (opts : DispatcherOptions) (ns now observedAt : String) : Event :=
  Dispatcher.eventFor opts r.level { kind := r.workloadKind, name := r.workloadName, ns := ns } now observedAt
    r.constraint

theorem event_ofNotification [Unicode] [UpperCase] (opts : DispatcherOptions) (n : CorrelatedNotification)
    (now observedAt : String) :
    (ofNotification n).event opts n.ns now observedAt = Dispatcher.createEvent opts n now observedAt := rfl

end Request

/-- Where a goroutine stands in `Dispatch` or `DispatchDirect`: between the locked
sections of the rate limit and of the dedupe check, or before the API call. -/
inductive DispatchStage where
  | idle
  | allowed (r : Request)
  | marked (r : Request)

inductive Decision where
  | rateLimited
  | suppressed
  | created (event : Event)
  | failed (err : String)

def Decision.isSuppressed : Decision → Bool
  | suppressed => true
  | _ => false

/-- The dispatcher, with the goroutines that call it for each namespace. -/
structure Dispatcher [RateLimit] where
  opts : DispatcherOptions
  nsLimiter : NsRateLimiter
  dedupeCache : Cache Dispatcher.DedupeKey := ∅
  calls : Namespace → Nat → DispatchStage := fun _ _ => .idle

/-- The steps of a run, each at its time. A cleanup tick is a sweep of the cache
and then an eviction of limiters. -/
inductive DispatchStep where
  | allow (ns : Namespace) (i : Nat) (r : Request) (now : Int)
  | mark (ns : Namespace) (i : Nat) (now : Int)
  | create (ns : Namespace) (i : Nat) (now observedAt : String) (answer : Except String Unit)
  | sweep (now : Int)
  | evict (now : Int)

def DispatchStep.concerns (ns : Namespace) : DispatchStep → Bool
  | allow ns' _ _ _ | mark ns' _ _ | create ns' _ _ _ _ => decide (ns' = ns)
  | sweep _ | evict _ => true

namespace Dispatcher

variable [RateLimit]

def new (opts : DispatcherOptions) : Dispatcher where
  opts := opts
  nsLimiter := .new opts.rateLimitPerMinute

def put (d : Dispatcher) (ns : Namespace) (i : Nat) (st : DispatchStage) : Dispatcher :=
  { d with calls := Function.update d.calls ns (Function.update (d.calls ns) i st) }

abbrev Output := Namespace × Nat × Decision

def stepAllow (d : Dispatcher) (ns : Namespace) (i : Nat) (r : Request) (now : Int) : Dispatcher × List Output :=
  match d.calls ns i with
  | .idle =>
      let answer := d.nsLimiter.allow ns.name now
      ({ d with nsLimiter := answer.2 }.put ns i (if answer.1 then .allowed r else .idle),
        if answer.1 then [] else [(ns, i, .rateLimited)])
  | _ => (d, [])

def stepMark (d : Dispatcher) (ns : Namespace) (i : Nat) (now : Int) : Dispatcher × List Output :=
  match d.calls ns i with
  | .allowed r =>
      let answer := tryMarkSeen d.opts d.dedupeCache (r.key ns.name) now
      ({ d with dedupeCache := answer.2 }.put ns i (if answer.1 then .marked r else .idle),
        if answer.1 then [] else [(ns, i, .suppressed)])
  | _ => (d, [])

def stepCreate [Unicode] [UpperCase] (d : Dispatcher) (ns : Namespace) (i : Nat) (now observedAt : String)
    (answer : Except String Unit) : Dispatcher × List Output :=
  match d.calls ns i with
  | .marked r =>
      (d.put ns i .idle, [(ns, i,
        match answer with
        | .ok _ => .created (r.event d.opts ns.name now observedAt)
        | .error err => .failed err)])
  | _ => (d, [])

def hour : Int := 60 * minute

/-- A step of a goroutine that is not where the step begins does nothing: its call
has returned before. -/
def machine [Unicode] [UpperCase] : Machine Dispatcher DispatchStep Output where
  step d
    | .allow ns i r now => d.stepAllow ns i r now
    | .mark ns i now => d.stepMark ns i now
    | .create ns i now observedAt answer => d.stepCreate ns i now observedAt answer
    | .sweep now => ({ d with dedupeCache := cleanupDedupeCache d.opts d.dedupeCache now }, [])
    | .evict now => ({ d with nsLimiter := d.nsLimiter.evict hour now }, [])

@[ext] structure View where
  opts : DispatcherOptions
  limiter : NsRateLimiter.View
  marked : Request → Option Int
  calls : Nat → DispatchStage

def view (ns : Namespace) (d : Dispatcher) : View where
  opts := d.opts
  limiter := d.nsLimiter.view ns.name
  marked r := d.dedupeCache.lookup (r.key ns.name)
  calls := d.calls ns

section View
variable {d d' : Dispatcher} {ns ns' : Namespace} {i : Nat}

theorem view_put_of_ne (hns : ns ≠ ns') (st : DispatchStage) : view ns (d.put ns' i st) = view ns d := by
  ext1
  · rfl
  · rfl
  · rfl
  · exact Function.update_of_ne hns ..

theorem view_put_congr (h : view ns d = view ns d') (st : DispatchStage) :
    view ns (d.put ns i st) = view ns (d'.put ns i st) := by
  obtain ⟨hopts, hlimiter, hmarked, hcalls⟩ := View.mk.inj h
  ext1
  · exact hopts
  · exact hlimiter
  · exact hmarked
  · simp only [view, put, Function.update_self, hcalls]

theorem view_stepAllow_of_ne (hns : ns ≠ ns') (r : Request) (now : Int) :
    view ns (d.stepAllow ns' i r now).1 = view ns d := by
  rw [stepAllow]
  split
  · have hname : ns.name ≠ ns'.name := fun h => hns (Namespace.ext h)
    rw [view_put_of_ne hns]
    exact congrArg (fun limiter => { view ns d with limiter := limiter }) (NsRateLimiter.view_allow_of_ne hname now)
  · rfl

theorem view_stepMark_of_ne (hns : ns ≠ ns') (now : Int) : view ns (d.stepMark ns' i now).1 = view ns d := by
  rw [stepMark]
  split
  · rename_i r _
    rw [view_put_of_ne hns]
    ext1
    · rfl
    · rfl
    · funext r'
      exact (lookup_tryMark ..).trans (if_neg fun h => Request.key_ne hns h.2)
    · rfl
  · rfl

theorem stepAllow_congr (h : view ns d = view ns d') (r : Request) (now : Int) :
    view ns (d.stepAllow ns i r now).1 = view ns (d'.stepAllow ns i r now).1 ∧
      (d.stepAllow ns i r now).2 = (d'.stepAllow ns i r now).2 := by
  obtain ⟨hopts, hlimiter, hmarked, hcalls⟩ := View.mk.inj h
  obtain ⟨hanswer, hview⟩ := NsRateLimiter.allow_congr hlimiter now
  rw [stepAllow, stepAllow, hcalls]
  split
  · simp only [hanswer, and_true]
    refine view_put_congr ?_ _
    ext1
    · exact hopts
    · exact hview
    · exact hmarked
    · exact hcalls
  · exact ⟨h, rfl⟩

theorem stepMark_congr (h : view ns d = view ns d') (now : Int) :
    view ns (d.stepMark ns i now).1 = view ns (d'.stepMark ns i now).1 ∧
      (d.stepMark ns i now).2 = (d'.stepMark ns i now).2 := by
  obtain ⟨hopts, hlimiter, hmarked, hcalls⟩ := View.mk.inj h
  rw [stepMark, stepMark, hcalls]
  split
  · rename_i r _
    have hanswer : (tryMarkSeen d.opts d.dedupeCache (r.key ns.name) now).1 =
        (tryMarkSeen d'.opts d'.dedupeCache (r.key ns.name) now).1 := by
      rw [hopts]
      exact tryMark_fst_congr _ _ _ _ (congrFun hmarked r)
    simp only [hanswer, and_true]
    refine view_put_congr ?_ _
    ext1
    · exact hopts
    · exact hlimiter
    · funext r'
      have hlookup := congrFun hmarked r'
      simp only [view, tryMarkSeen, lookup_tryMark] at hlookup hanswer ⊢
      rw [hanswer, hlookup]
    · exact hcalls
  · exact ⟨h, rfl⟩

theorem stepCreate_congr [Unicode] [UpperCase] (h : view ns d = view ns d') (now observedAt : String)
    (answer : Except String Unit) :
    view ns (d.stepCreate ns i now observedAt answer).1 = view ns (d'.stepCreate ns i now observedAt answer).1 ∧
      (d.stepCreate ns i now observedAt answer).2 = (d'.stepCreate ns i now observedAt answer).2 := by
  obtain ⟨hopts, _, _, hcalls⟩ := View.mk.inj h
  rw [stepCreate, stepCreate, hcalls]
  split
  · exact ⟨view_put_congr h _, by rw [hopts]⟩
  · exact ⟨h, rfl⟩

theorem view_sweep_congr (h : view ns d = view ns d') (now : Int) :
    view ns { d with dedupeCache := cleanupDedupeCache d.opts d.dedupeCache now } =
      view ns { d' with dedupeCache := cleanupDedupeCache d'.opts d'.dedupeCache now } := by
  obtain ⟨hopts, hlimiter, hmarked, hcalls⟩ := View.mk.inj h
  ext1
  · exact hopts
  · exact hlimiter
  · funext r
    have hlookup := congrFun hmarked r
    simp only [view, cleanupDedupeCache, lookup_sweep]
    rw [hlookup, hopts]
  · exact hcalls

theorem view_evict_congr (h : view ns d = view ns d') (maxAge now : Int) :
    view ns { d with nsLimiter := d.nsLimiter.evict maxAge now } =
      view ns { d' with nsLimiter := d'.nsLimiter.evict maxAge now } := by
  obtain ⟨hopts, hlimiter, hmarked, hcalls⟩ := View.mk.inj h
  ext1
  · exact hopts
  · exact NsRateLimiter.view_evict_congr hlimiter maxAge now
  · exact hmarked
  · exact hcalls

end View

section Isolation
variable [Unicode] [UpperCase]

/-- What is decided in a step is decided for the namespace of the call. -/
theorem concerns_of_mem_output {d : Dispatcher} {l : DispatchStep} {o : Output} (ho : o ∈ (machine.step d l).2) :
    l.concerns o.1 = true := by
  cases l with
  | allow ns i r now =>
      simp only [machine, stepAllow] at ho
      split at ho
      · split at ho
        · cases ho
        · cases List.mem_singleton.mp ho
          exact decide_eq_true rfl
      · cases ho
  | mark ns i now =>
      simp only [machine, stepMark] at ho
      split at ho
      · split at ho
        · cases ho
        · cases List.mem_singleton.mp ho
          exact decide_eq_true rfl
      · cases ho
  | create ns i now observedAt answer =>
      simp only [machine, stepCreate] at ho
      split at ho
      · cases List.mem_singleton.mp ho
        exact decide_eq_true rfl
      · cases ho
  | sweep now | evict now => cases ho

theorem view_hidden {ns : Namespace} (d : Dispatcher) {l : DispatchStep} (hl : l.concerns ns = false) :
    view ns (machine.step d l).1 = view ns d := by
  cases l with
  | allow ns' i r now => exact view_stepAllow_of_ne (Ne.symm (of_decide_eq_false hl)) r now
  | mark ns' i now => exact view_stepMark_of_ne (Ne.symm (of_decide_eq_false hl)) now
  | create ns' i now observedAt answer =>
      simp only [machine, stepCreate]
      split
      · exact view_put_of_ne (Ne.symm (of_decide_eq_false hl)) _
      · rfl
  | sweep now | evict now => cases hl

theorem step_congr {ns : Namespace} {d d' : Dispatcher} {l : DispatchStep} (hl : l.concerns ns = true)
    (h : view ns d = view ns d') :
    view ns (machine.step d l).1 = view ns (machine.step d' l).1 ∧ (machine.step d l).2 = (machine.step d' l).2 := by
  cases l with
  | allow ns' i r now =>
      obtain rfl : ns' = ns := of_decide_eq_true hl
      exact stepAllow_congr h r now
  | mark ns' i now =>
      obtain rfl : ns' = ns := of_decide_eq_true hl
      exact stepMark_congr h now
  | create ns' i now observedAt answer =>
      obtain rfl : ns' = ns := of_decide_eq_true hl
      exact stepCreate_congr h now observedAt answer
  | sweep now => exact ⟨view_sweep_congr h now, rfl⟩
  | evict now => exact ⟨view_evict_congr h hour now, rfl⟩

theorem unwinding (ns : Namespace) :
    machine.Unwinding (view ns) (DispatchStep.concerns ns) (fun o => decide (o.1 = ns)) where
  view_hidden := view_hidden
  output_hidden d l hl := by
    rw [List.filter_eq_nil_iff]
    intro o ho hns
    have hconcerns := concerns_of_mem_output ho
    rw [of_decide_eq_true hns, hl] at hconcerns
    cases hconcerns
  view_shown hl h := (step_congr hl h).1
  output_shown hl h := by rw [(step_congr hl h).2]

/-- What is decided for the calls of a namespace, in order. -/
def decisionsFor (ns : Namespace) (opts : DispatcherOptions) (steps : List DispatchStep) : List Output :=
  (machine.run (new opts) steps).2.filter (fun o => decide (o.1 = ns))

/-- The decisions for a namespace depend on its own calls and on the cleanup ticks
only, whatever is called for other namespaces in between. -/
theorem decisions_isolated (opts : DispatcherOptions) (ns : Namespace) (steps steps' : List DispatchStep)
    (h : steps.filter (·.concerns ns) = steps'.filter (·.concerns ns)) :
    decisionsFor ns opts steps = decisionsFor ns opts steps' :=
  (unwinding ns).output_eq (new opts) h

end Isolation

end Dispatcher

namespace Dispatcher

section Sample
attribute [local instance] asciiTables asciiUpperCase

structure TokenBucket where
  limit : Rat
  burst : Int
  tokens : Rat
  last : Option Int := none

def TokenBucket.refilled (b : TokenBucket) (now : Int) : Rat :=
  min b.burst (b.tokens + (b.last.elim 0 (fun last => (now - last : Int)) / 1000000000) * b.limit)

@[reducible] def tokenBucket : RateLimit where
  Limiter := TokenBucket
  newLimiter limit burst := { limit := limit, burst := burst, tokens := burst }
  allow b now :=
    if 1 ≤ b.refilled now then (true, { b with tokens := b.refilled now - 1, last := some now })
    else (false, { b with tokens := b.refilled now, last := some now })

attribute [local instance] tokenBucket

def team : Namespace := ⟨"team", by decide⟩

def payments : Namespace := ⟨"payments", by decide⟩

def webRequest : Request := .direct (paymentsPolicy "deny-all") "web" "Deployment" .summary

def teamSteps : List DispatchStep :=
  [.allow team 0 webRequest 0, .mark team 0 0, .create team 0 "t" "t" (.ok ()), .sweep (5 * minute),
    .evict (5 * minute)]

def otherSteps : List DispatchStep :=
  [.allow payments 0 webRequest 0, .mark payments 0 0, .create payments 0 "t" "t" (.error "forbidden")]

theorem decisions_isolated_team :
    decisionsFor team {} (otherSteps ++ teamSteps) = decisionsFor team {} teamSteps ∧
      (decisionsFor team {} teamSteps).length = 1 :=
  ⟨decisions_isolated {} team (otherSteps ++ teamSteps) teamSteps rfl, by decide +kernel⟩

end Sample

end Dispatcher

end Nightjar.Notifier
