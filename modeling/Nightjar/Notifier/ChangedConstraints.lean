import Nightjar.Notifier.DispatcherDedupe

namespace Nightjar.Notifier

open Lib

/-- What a notification says of its constraint. -/
structure Content where
  severity : Severity
  effect : String
  summary : String
  constraintType : ConstraintType
deriving DecidableEq

def WorkloadCall.content (c : WorkloadCall) : Content where
  severity := c.request.constraint.severity
  effect := c.request.constraint.effect
  summary := c.request.constraint.summary
  constraintType := c.request.constraint.constraintType

inductive DispatchRecord where
  | checked (k : DedupeCheck)
  | created (c : WorkloadCall)

namespace DispatchRecord

def lastCreated (c : WorkloadCall) : List DispatchRecord → Option WorkloadCall
  | [] => none
  | .checked _ :: earlier => lastCreated c earlier
  | .created c' :: earlier => if c.Same c' then some c' else lastCreated c earlier

def changed (c : WorkloadCall) (earlier : List DispatchRecord) : Bool :=
  (lastCreated c earlier).any (fun c' => c'.content ≠ c.content)

/-- No call with a changed content was suppressed. -/
def ChangesSent : List DispatchRecord → Prop
  | [] => True
  | .checked k :: earlier => (changed k.call earlier = true → k.fresh = true) ∧ ChangesSent earlier
  | .created _ :: earlier => ChangesSent earlier

end DispatchRecord

open DispatchRecord

/-- The dispatcher with its dedupe checks and the Events created, the last first. -/
structure RecordedCalls [RateLimit] where
  base : DispatchCalls
  history : List DispatchRecord := []

namespace RecordedCalls

section Machine
variable [RateLimit]

def records (s s' : DispatchCalls) : DispatchOp → List DispatchRecord
  | .mark _ => s'.checks.head?.toList.map .checked
  | .create i (.ok _) =>
      match s.calls i with
      | .marked c => [.created c]
      | _ => []
  | _ => []

def next (s : RecordedCalls) (l : Int × DispatchOp) : Option RecordedCalls :=
  (s.base.next l).map (fun s' => ⟨s', records s.base s' l.2 ++ s.history⟩)

def Initial (s : RecordedCalls) : Prop := s.base.Initial ∧ s.history = []

def system : System RecordedCalls (Int × DispatchOp) := .ofStep Initial next

/-- A call with a changed content comes when every call let through for its key is at
least the window back. -/
def ElapsedAt (s : RecordedCalls) (now : Int) : CallStage → Prop
  | .allowed c => changed c s.history = true → ∀ k ∈ s.base.checks, k.fresh = true → k.call.key = c.key →
      k.time + Dispatcher.window s.base.opts ≤ now
  | .idle | .marked _ => True

def Elapsed (s : RecordedCalls) (l : Int × DispatchOp) : Prop :=
  match l.2 with
  | .mark i => s.ElapsedAt l.1 (s.base.calls i)
  | _ => True

instance (s : RecordedCalls) (now : Int) : (stage : CallStage) → Decidable (s.ElapsedAt now stage)
  | .allowed c => inferInstanceAs (Decidable (changed c s.history = true → ∀ k ∈ s.base.checks, k.fresh = true →
      k.call.key = c.key → k.time + Dispatcher.window s.base.opts ≤ now))
  | .idle | .marked _ => .isTrue trivial

instance (s : RecordedCalls) : (l : Int × DispatchOp) → Decidable (s.Elapsed l)
  | (now, .mark i) => inferInstanceAs (Decidable (s.ElapsedAt now (s.base.calls i)))
  | (_, .allow _ _) | (_, .create _ _) | (_, .sweep) | (_, .evict) => .isTrue trivial

variable {s s' : RecordedCalls} {now : Int} {op : DispatchOp}

theorem step_of_next (h : s.next (now, op) = some s') :
    s.base.clock ≤ now ∧ DispatchCalls.Step s.base now op s'.base ∧
      s'.history = records s.base s'.base op ++ s.history := by
  obtain ⟨b, hb, rfl⟩ := Option.map_eq_some_iff.mp h
  obtain ⟨hnow, hstep⟩ := DispatchCalls.step_of_next hb
  exact ⟨hnow, hstep, rfl⟩

theorem passed_of_suppressed {b : DispatchCalls} {c : WorkloadCall} (h : b.Logged)
    (hf : (Dispatcher.tryMarkSeen b.opts b.dedupeCache c.key now).1 = false) :
    ∃ k ∈ b.checks, k.fresh = true ∧ k.call.key = c.key ∧ now < k.time + Dispatcher.window b.opts := by
  obtain ⟨t, hl, ht⟩ := DispatchCalls.suppressed_time hf
  obtain ⟨c', hmem, hkey⟩ := h.cached _ _ hl
  exact ⟨_, hmem, rfl, hkey, by simpa using sub_lt_iff_lt_add.mp ht⟩

theorem changesSent_step (h : s.base.Logged) (hsent : ChangesSent s.history) (hg : s.Elapsed (now, op))
    (hs : DispatchCalls.Step s.base now op s'.base) (hrec : s'.history = records s.base s'.base op ++ s.history) :
    ChangesSent s'.history := by
  rw [hrec]
  generalize hb : s'.base = b at hs
  cases hs with
  | allow | sweep | evict => exact hsent
  | create answer hi =>
      cases answer with
      | error e => exact hsent
      | ok u =>
          simp only [records, hi]
          exact hsent
  | fresh hi hf => exact ⟨fun _ => rfl, hsent⟩
  | @suppressed i c hi hf =>
      refine ⟨fun hchanged => ?_, hsent⟩
      obtain ⟨k, hk, hfresh, hkey, hlate⟩ := passed_of_suppressed h hf
      simp only [Elapsed, hi, ElapsedAt] at hg
      exact absurd (hg hchanged k hk hfresh hkey) (not_le.mpr hlate)

theorem changes_sent_of_elapsed (h : system.Reaches Elapsed s) : ChangesSent s.history := by
  have hinv : s.base.Logged ∧ ChangesSent s.history := by
    refine h.invariant (I := fun s => s.base.Logged ∧ ChangesSent s.history) ?_ ?_
    · rintro s ⟨hbase, hhistory⟩
      refine ⟨DispatchCalls.logged_initial hbase, ?_⟩
      rw [hhistory]
      trivial
    · rintro s ⟨now, op⟩ s' ⟨hl, hsent⟩ hg hs
      obtain ⟨hnow, hstep, hrec⟩ := step_of_next hs
      exact ⟨DispatchCalls.logged_step hl hnow hstep, changesSent_step hl hsent hg hstep hrec⟩
  exact hinv.2

end Machine

section Samples
attribute [local instance] Dispatcher.tokenBucket

def raised : WorkloadCall :=
  ⟨"team", .direct { paymentsPolicy "deny-all" with severity := .critical } "web" "Deployment" .summary⟩

def idle : RecordedCalls := { base := DispatchCalls.idleDispatcher }

theorem idle_initial : idle.Initial := ⟨DispatchCalls.idleDispatcher_initial, rfl⟩

def raisedAt (t : Int) : List (Int × DispatchOp) :=
  [(0, .allow 0 DispatchCalls.deployment), (0, .mark 0), (0, .create 0 (.ok ())), (t, .allow 1 raised), (t, .mark 1)]

def raisedLate : RecordedCalls :=
  (System.exec next (fun s l => decide (s.Elapsed l)) idle (raisedAt Dispatcher.hour)).get (by decide +kernel)

theorem changes_sent_of_elapsed_hour : ChangesSent raisedLate.history :=
  changes_sent_of_elapsed (.exec (fun _ _ => of_decide_eq_true) (.init idle_initial) (Option.some_get _).symm)

def raisedSoon : RecordedCalls :=
  (System.exec next (fun _ _ => true) idle (raisedAt Dispatcher.minute)).get (by decide +kernel)

theorem raised_severity_suppressed :
    system.Reachable raisedSoon ∧ raised.Same DispatchCalls.deployment ∧
      raised.content.severity ≠ DispatchCalls.deployment.content.severity ∧
      raisedSoon.history = [.checked ⟨raised, Dispatcher.minute, false⟩, .created DispatchCalls.deployment,
        .checked ⟨DispatchCalls.deployment, 0, true⟩] ∧ ¬ ChangesSent raisedSoon.history := by
  have hhistory : raisedSoon.history = [.checked ⟨raised, Dispatcher.minute, false⟩,
      .created DispatchCalls.deployment, .checked ⟨DispatchCalls.deployment, 0, true⟩] := by
    with_unfolding_all rfl
  have hreach : system.Reachable raisedSoon :=
    .exec (fun _ _ _ => trivial) (.init idle_initial) (Option.some_get _).symm
  refine ⟨hreach, by decide, by decide, hhistory, ?_⟩
  rw [hhistory]
  rintro ⟨hsent, -⟩
  exact Bool.false_ne_true (hsent (by decide))

end Samples

end RecordedCalls

end Nightjar.Notifier
