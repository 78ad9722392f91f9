import Nightjar.Notifier.EventBuilder

namespace Nightjar.Notifier

open Lib Lib.Strings Dedupe

structure DispatcherOptions where
  suppressDuplicateMinutes : Int := 60
  rateLimitPerMinute : Int := 100
  remediationContact : String := "your platform team"
deriving DecidableEq, Repr

def genericEffect : ConstraintType → String
  | .networkIngress => "Inbound network traffic is restricted"
  | .networkEgress => "Outbound network traffic is restricted"
  | .admission => "A validation policy may reject your resources"
  | .resourceLimit => "Resource quotas or limits apply"
  | .meshPolicy => "Service mesh policies apply"
  | .missing => "A required companion resource may be missing"
  | _ => "A policy constraint applies"

namespace Dispatcher

structure DedupeKey where
  constraintUID : String
  workloadUID : String
deriving DecidableEq, Repr

def key (n : CorrelatedNotification) : DedupeKey := ⟨n.constraint.uid, n.ns ++ "/" ++ n.workloadName⟩

def minute : Int := 60000000000

/-- The product of two `int64` values. -/
def window (opts : DispatcherOptions) : Int := (opts.suppressDuplicateMinutes * minute).bmod 18446744073709551616

def cutoff (opts : DispatcherOptions) (now : Int) : Int := now + (-window opts).bmod 18446744073709551616

theorem cutoff_le (opts : DispatcherOptions) (now : Int) : cutoff opts now ≤ now - window opts := by
  rw [cutoff, window, Int.bmod, Int.bmod]
  split <;> split <;> omega

theorem window_eq {opts : DispatcherOptions} (hlow : -153722867 ≤ opts.suppressDuplicateMinutes)
    (hhigh : opts.suppressDuplicateMinutes ≤ 153722867) :
    window opts = opts.suppressDuplicateMinutes * 60000000000 := by
  rw [window, Int.bmod, minute]
  split <;> omega

def dedupe (opts : DispatcherOptions) : Dedupe := ⟨window opts, cutoff opts, cutoff_le opts⟩

def tryMarkSeen (opts : DispatcherOptions) (dedupeCache : Cache DedupeKey) (key : DedupeKey) (now : Int) :
    Bool × Cache DedupeKey :=
  (dedupe opts).tryMark dedupeCache key now

def cleanupDedupeCache (opts : DispatcherOptions) (dedupeCache : Cache DedupeKey) (now : Int) : Cache DedupeKey :=
  (dedupe opts).sweep dedupeCache now

/-- In both caches, and whatever calls and sweeps came before in the order of the
clock, a call is answered with true exactly when no call for its key was answered
so within the window that ends now; and the answers are those of a cache that is
never swept. -/
theorem tryMarkSeen_slidingWindow (opts : DispatcherOptions) (seen : List (Int × Op Correlator.DedupeKey))
    (sent : List (Int × Op DedupeKey)) (hseen : seen.Pairwise (·.1 ≤ ·.1)) (hsent : sent.Pairwise (·.1 ≤ ·.1)) :
    (∀ key now, (∀ op ∈ seen, op.1 ≤ now) →
      ((Correlator.tryMarkSeen (Correlator.dedupe.run seen).cache key now).1 = true ↔
        ¬ ∃ s, ⟨key, s, true⟩ ∈ (Correlator.dedupe.run seen).log ∧ now - Correlator.dedupeWindow < s ∧ s ≤ now)) ∧
    (Correlator.dedupe.run seen).log = (Correlator.dedupe.run (calls seen)).log ∧
    (∀ key now, (∀ op ∈ sent, op.1 ≤ now) →
      ((tryMarkSeen opts ((dedupe opts).run sent).cache key now).1 = true ↔
        ¬ ∃ s, ⟨key, s, true⟩ ∈ ((dedupe opts).run sent).log ∧ now - window opts < s ∧ s ≤ now)) ∧
    ((dedupe opts).run sent).log = ((dedupe opts).run (calls sent)).log := by
  refine ⟨fun key now hnow => ?_, log_run_calls hseen, fun key now hnow => ?_, log_run_calls hsent⟩
  · rw [Correlator.tryMarkSeen, tryMark_run_iff hseen hnow, Unmarked, not_exists]
    exact forall_congr' fun s => not_and.symm
  · rw [tryMarkSeen, tryMark_run_iff hsent hnow, Unmarked, not_exists]
    exact forall_congr' fun s => not_and.symm

def resentOps : List (Int × Op DedupeKey) := [(0, .call ⟨"uid", "team/web"⟩), (5 * minute, .sweep)]

theorem tryMarkSeen_slidingWindow_resent :
    (tryMarkSeen {} ((dedupe {}).run resentOps).cache ⟨"uid", "team/web"⟩ (6 * minute)).1 = true ↔
      ¬ ∃ s, ⟨⟨"uid", "team/web"⟩, s, true⟩ ∈ ((dedupe {}).run resentOps).log ∧
        6 * minute - window {} < s ∧ s ≤ 6 * minute :=
  (tryMarkSeen_slidingWindow {} [] resentOps .nil (by decide)).2.2.1 _ _ (by decide)

section Message
variable [Unicode] (opts : DispatcherOptions) (c : Constraint)

omit [Unicode] in
def renderSummary : String :=
  "⚠️ " ++ c.constraintType.text ++ " constraint is affecting your workload. " ++ genericEffect c.constraintType ++
    ". Contact " ++ opts.remediationContact ++ " for assistance."

def renderDetailed : String :=
  let effect := if c.summary = "" then genericEffect c.constraintType else c.summary
  let hint :=
    if c.remediationHint = "" then "Contact " ++ opts.remediationContact ++ " for assistance." else c.remediationHint
  "⚠️ " ++ c.constraintType.text ++ " constraint " ++ quote c.name ++ ": " ++ effect ++ ". " ++ hint

def renderFull : String :=
  let location := if c.ns = "" then c.name else c.ns ++ "/" ++ c.name
  "⚠️ [" ++ formatGVR c.source ++ "] " ++ c.constraintType.text ++ " " ++ quote location ++ ": " ++ c.summary ++
    ". " ++ c.remediationHint

def renderMessage : DetailLevel → String
  | .full => renderFull c
  | .detailed => renderDetailed opts c
  | _ => renderSummary opts c

end Message

section Event
variable [Unicode] [UpperCase] (opts : DispatcherOptions)

/-- The Event built for a constraint and a workload, with the message of its level. -/
def eventFor (level : DetailLevel) (workload : WorkloadRef) (now observedAt : String) (c : Constraint) : Event :=
  (EventBuilder.new opts.remediationContact).buildEvent c level workload (renderMessage opts c level) now observedAt

def createEvent (n : CorrelatedNotification) (now observedAt : String) : Event :=
  eventFor opts .summary { kind := n.workloadKind, name := n.workloadName, ns := n.ns } now observedAt n.constraint

variable {level : DetailLevel} {workload : WorkloadRef} {c : Constraint}

theorem eventFor_variant {c' : Constraint} (h : Variant workload.ns c c') (hs : EventBuilder.SummarySilent c)
    (now observedAt : String) :
    eventFor opts .summary workload now observedAt c' = eventFor opts .summary workload now observedAt c := by
  have hmessage : renderMessage opts c' .summary = renderMessage opts c .summary := by
    cases h
    rfl
  rw [eventFor, eventFor, hmessage]
  exact EventBuilder.buildEvent_variant _ h hs _ now observedAt

/-- An Event tells nothing of the name and namespace of a constraint from another
namespace exactly at summary level and when its remediation is silent there. -/
theorem eventFor_hides_iff (hlevel : level = .summary ∨ level = .detailed) (hc : HiddenFrom workload.ns c)
    (now observedAt : String) : Hides (Variant workload.ns) (eventFor opts level workload now observedAt) c ↔
      level = .summary ∧ EventBuilder.SummarySilent c := by
  constructor
  · intro h
    have hannotations := congrArg Event.annotations (h _ (variant_relabel hc))
    rcases hlevel with rfl | rfl
    · refine ⟨rfl, by_contra fun hs => ?_⟩
      have hcommand := EventBuilder.inspectCommand_of_buildAnnotations _ (variant_relabel hc) hs _ hannotations
      exact inspectCommand_relabel (fun hsilent => hs (.inl hsilent)) hcommand
    · exact absurd (EventBuilder.scopedConstraintName_of_buildAnnotations _ _ _ hannotations) relabel_name_ne
  · rintro ⟨rfl, hs⟩ c' hc'
    exact eventFor_variant opts hc' hs now observedAt

end Event

section Sample
attribute [local instance] asciiTables asciiUpperCase

def web : WorkloadRef := { kind := "Deployment", name := "web", ns := "team" }

theorem eventFor_hides_iff_denyAll :
    Hides (Variant web.ns) (eventFor {} .summary web "t" "t") (paymentsPolicy "deny-all") ↔
      DetailLevel.summary = .summary ∧ EventBuilder.SummarySilent (paymentsPolicy "deny-all") :=
  eventFor_hides_iff {} (.inl rfl) (by decide) "t" "t"

theorem event_tells_hidden_policies_apart :
    Variant web.ns (paymentsPolicy "deny-all") (paymentsPolicy "allow-dns") ∧
      eventFor {} .summary web "t" "t" (paymentsPolicy "allow-dns") ≠
        eventFor {} .summary web "t" "t" (paymentsPolicy "deny-all") := by
  have hvariant : Variant web.ns (paymentsPolicy "deny-all") (paymentsPolicy "allow-dns") :=
    variant_paymentsPolicy _ _
  refine ⟨hvariant, fun h => ?_⟩
  have hcommand := EventBuilder.inspectCommand_of_buildAnnotations _ hvariant (by decide) _
    (congrArg Event.annotations h)
  exact absurd hcommand (by decide)

end Sample

end Dispatcher

end Nightjar.Notifier
