import Nightjar.Correlator.FlowDrops
import Nightjar.Lib.Channel
import Nightjar.Lib.Runs

namespace Nightjar

open Lib

namespace Correlator

/-- The goroutine of `Start`, which watches and handles the Events. -/
inductive WatchStage where
  | connecting
  | watching
  | handling (event : Event) (rest : List Constraint)
  | sending (event : Event) (c : Constraint) (rest : List Constraint)
  | failed
  | closing
  | closingFlowDrops
  | returned

inductive WatchAction where
  | connect (ok : Bool)
  | receive (event : Event) (allowed : Bool) (order : List Nat)
  | ignore
  | watchClosed
  | done
  | mark
  | send (stop : Bool)
  | next
  | check
  | close

/-- The goroutine of `processFlowDrops`, which `Start` starts for a Hubble client only.
`nss` are the namespaces that are left for the drop. -/
inductive FlowStage where
  | absent
  | idle
  | namespaces (drop : FlowDrop) (nss : List String)
  | correlating (drop : FlowDrop) (ns : String) (rest : List Constraint) (nss : List String)
  | sending (drop : FlowDrop) (ns : String) (c : Constraint) (rest : List Constraint) (nss : List String)
  | returned

inductive FlowAction where
  | take (drop : FlowDrop) (allowed : Bool)
  | dropsClosed
  | leave
  | lookup (order : List Nat)
  | mark
  | send (stop : Bool)
  | next

def WatchStage.Open : WatchStage → Prop
  | .closingFlowDrops | .returned => False
  | _ => True

theorem WatchStage.Open.ne_returned {st : WatchStage} (h : st.Open) : st ≠ .returned := by
  rintro rfl
  exact h

def FlowStage.Quiet : FlowStage → Prop
  | .namespaces _ nss => nss = []
  | .correlating _ _ rest nss => rest = [] ∧ nss = []
  | .sending _ _ _ _ _ => False
  | .absent | .idle | .returned => True

inductive Output where
  | notifications
  | flowDrops
deriving DecidableEq, Repr

end Correlator

open Correlator

structure CorrelatorRun where
  clock : Int := 0
  index : Indexer := .new
  seenPairs : Dedupe.Cache DedupeKey := ∅
  notifications : Channel CorrelatedNotification := .make notificationBuffer
  flowDrops : Channel FlowDropNotification := .make notificationBuffer
  cancelled : Bool := false
  watcher : WatchStage := .connecting
  flows : FlowStage := .idle
  panicked : Option Output := none

inductive CorrelatorLabel where
  | tick (now : Int)
  | mutate (m : Mutation)
  | cancel
  | cleanup
  | readNotification
  | readFlowDrop
  | watch (a : WatchAction)
  | flow (a : FlowAction)

namespace CorrelatorRun

def arranged (constraints : List Constraint) (order : List Nat) : Option (List Constraint) :=
  if order.Perm (List.range constraints.length) then some (order.filterMap (constraints[·]?)) else none

def marked (s : CorrelatorRun) (key : DedupeKey) : Bool × Dedupe.Cache DedupeKey :=
  tryMarkSeen s.seenPairs key s.clock

def sendNotification (s : CorrelatorRun) (event : Event) (rest : List Constraint) :
    Selected CorrelatedNotification → CorrelatorRun
  | .sent ch => { s with notifications := ch, watcher := .handling event rest }
  | .dropped => { s with watcher := .handling event rest }
  | .stopped => { s with watcher := .watching }
  | .panics => { s with panicked := some .notifications }

def closeNotifications (s : CorrelatorRun) : CorrelatorRun :=
  match s.notifications.close with
  | some ch => { s with notifications := ch, watcher := .closingFlowDrops }
  | none => { s with panicked := some .notifications }

def closeFlowDrops (s : CorrelatorRun) : CorrelatorRun :=
  match s.flowDrops.close with
  | some ch => { s with flowDrops := ch, watcher := .returned }
  | none => { s with panicked := some .flowDrops }

def watch (s : CorrelatorRun) (a : WatchAction) : Option CorrelatorRun :=
  match s.watcher, a with
  | .connecting, .connect ok => some { s with watcher := if ok then .watching else .failed }
  | .watching, .receive event allowed order =>
      (arranged (candidates allowed s.index event) order).map (fun cs => { s with watcher := .handling event cs })
  | .watching, .ignore => some s
  | .watching, .watchClosed => some { s with watcher := .connecting }
  | .watching, .done => if s.cancelled then some { s with watcher := .failed } else none
  | .handling event (c :: rest), .mark =>
      some { s with
        seenPairs := (s.marked (key event c)).2
        watcher := if (s.marked (key event c)).1 then .sending event c rest else .handling event rest }
  | .handling _ [], .next => some { s with watcher := .watching }
  | .sending event c rest, .send stop =>
      (s.notifications.select (notification event c) s.cancelled stop).map (s.sendNotification event rest)
  | .failed, .check => some { s with watcher := if s.cancelled then .closing else .connecting }
  | .closing, .close => some s.closeNotifications
  | .closingFlowDrops, .close => some s.closeFlowDrops
  | _, _ => none

def sendFlowDrop (s : CorrelatorRun) (drop : FlowDrop) (ns : String) (rest : List Constraint) (nss : List String) :
    Selected FlowDropNotification → CorrelatorRun
  | .sent ch => { s with flowDrops := ch, flows := .correlating drop ns rest nss }
  | .dropped => { s with flows := .correlating drop ns rest nss }
  | .stopped => { s with flows := .namespaces drop nss }
  | .panics => { s with panicked := some .flowDrops }

section Next

variable [LabelSelectors]

def flow (s : CorrelatorRun) (a : FlowAction) : Option CorrelatorRun :=
  match s.flows, a with
  | .idle, .take drop allowed => some { s with flows := .namespaces drop (flowNamespaces drop allowed) }
  | .idle, .dropsClosed => some { s with flows := .returned }
  | .idle, .leave => if s.cancelled then some { s with flows := .returned } else none
  | .namespaces drop (ns :: nss), .lookup order =>
      (arranged (s.index.byNamespace ns) order).map (fun cs => { s with flows := .correlating drop ns cs nss })
  | .namespaces _ [], .next => some { s with flows := .idle }
  | .correlating drop ns (c :: rest) nss, .mark =>
      if correlates drop ns c then
        some { s with
          seenPairs := (s.marked (flowKey drop c)).2
          flows :=
            if (s.marked (flowKey drop c)).1 then .sending drop ns c rest nss else .correlating drop ns rest nss }
      else some { s with flows := .correlating drop ns rest nss }
  | .correlating drop _ [] nss, .next => some { s with flows := .namespaces drop nss }
  | .sending drop ns c rest nss, .send stop =>
      (s.flowDrops.select (flowDropNotification drop c) s.cancelled stop).map (s.sendFlowDrop drop ns rest nss)
  | _, _ => none

def next (s : CorrelatorRun) (l : CorrelatorLabel) : Option CorrelatorRun :=
  if s.panicked.isSome then none
  else match l with
  | .tick now => if s.clock ≤ now then some { s with clock := now } else none
  | .mutate m => some { s with index := (s.index.apply m).1 }
  | .cancel => some { s with cancelled := true }
  | .cleanup => some { s with seenPairs := cleanupDedupeCache s.seenPairs s.clock }
  | .readNotification => s.notifications.receive.map (fun r => { s with notifications := r.2 })
  | .readFlowDrop => s.flowDrops.receive.map (fun r => { s with flowDrops := r.2 })
  | .watch a => s.watch a
  | .flow a => s.flow a

/-- `NewWithOptions`, and `Start` with or without a Hubble client. The context may be
cancelled already. -/
structure Initial (s : CorrelatorRun) : Prop where
  seenPairs : s.seenPairs = ∅
  notifications : s.notifications = .make notificationBuffer
  flowDrops : s.flowDrops = .make notificationBuffer
  watcher : s.watcher = .connecting
  flows : s.flows = .absent ∨ s.flows = .idle
  panicked : s.panicked = none

def system : System CorrelatorRun CorrelatorLabel := .ofStep Initial next

/-- When `Start` closes the channel of the flow drops, no send to it is under way, and no
drop is correlated after that. -/
def Orderly (s : CorrelatorRun) : CorrelatorLabel → Prop
  | .watch .close => s.watcher = .closingFlowDrops → s.flows.Quiet
  | .flow (.take drop allowed) => s.flowDrops.closed = true → flowNamespaces drop allowed = []
  | _ => True

end Next

variable {s s' : CorrelatorRun}

/-- What a step of the goroutine of `Start` does to the channels. -/
inductive Watch (s : CorrelatorRun) : WatchAction → CorrelatorRun → Prop
  | move {a : WatchAction} {st : WatchStage} {seen : Dedupe.Cache DedupeKey} (hfrom : s.watcher.Open) (hto : st.Open) :
      Watch s a { s with seenPairs := seen, watcher := st }
  | sent {event : Event} {rest : List Constraint} {stop : Bool} {n : CorrelatedNotification} (hfrom : s.watcher.Open) :
      Watch s (.send stop) { s with notifications := s.notifications.push n, watcher := .handling event rest }
  | closedNotifications {a : WatchAction} (hfrom : s.watcher.Open) (hclosed : s.notifications.closed = true) :
      Watch s a { s with panicked := some .notifications }
  | closeNotifications (hfrom : s.watcher.Open) :
      Watch s .close
        { s with notifications := { s.notifications with closed := true }, watcher := .closingFlowDrops }
  | closedFlowDrops (hfrom : s.watcher = .closingFlowDrops) (hclosed : s.flowDrops.closed = true) :
      Watch s .close { s with panicked := some .flowDrops }
  | closeFlowDrops (hfrom : s.watcher = .closingFlowDrops) :
      Watch s .close { s with flowDrops := { s.flowDrops with closed := true }, watcher := .returned }

theorem watch_of_eq_some {a : WatchAction} (h : s.watch a = some s') : Watch s a s' := by
  unfold watch at h
  split at h
  case h_1 hst =>
      cases h
      exact .move (by rw [hst]; trivial) (by split <;> trivial)
  case h_2 hst =>
      obtain ⟨cs, -, rfl⟩ := Option.map_eq_some_iff.mp h
      exact .move (by rw [hst]; trivial) trivial
  case h_3 hst | h_4 hst =>
      cases h
      exact .move (by rw [hst]; trivial) (by simp [hst, WatchStage.Open])
  case h_5 hst =>
      split at h
      · cases h
        exact .move (by rw [hst]; trivial) trivial
      · cases h
  case h_6 hst =>
      cases h
      exact .move (by rw [hst]; trivial) (by split <;> trivial)
  case h_7 hst =>
      cases h
      exact .move (by rw [hst]; trivial) trivial
  case h_8 hst =>
      have hfrom : s.watcher.Open := by rw [hst]; trivial
      obtain ⟨r, hr, rfl⟩ := Option.map_eq_some_iff.mp h
      obtain rfl | rfl | ⟨hopen, rfl⟩ | ⟨hclosed, rfl⟩ := Channel.select_sound hr
      · exact .move hfrom trivial
      · exact .move hfrom trivial
      · exact .sent hfrom
      · exact .closedNotifications hfrom hclosed
  case h_9 hst =>
      cases h
      exact .move (by rw [hst]; trivial) (by split <;> trivial)
  case h_10 hst =>
      have hfrom : s.watcher.Open := by rw [hst]; trivial
      cases h
      cases hc : s.notifications.closed with
      | false =>
          rw [closeNotifications, Channel.close_of_open hc]
          exact .closeNotifications hfrom
      | true =>
          rw [closeNotifications, Channel.close, if_pos hc]
          exact .closedNotifications hfrom hc
  case h_11 hst =>
      cases h
      cases hc : s.flowDrops.closed with
      | false =>
          rw [closeFlowDrops, Channel.close_of_open hc]
          exact .closeFlowDrops hst
      | true =>
          rw [closeFlowDrops, Channel.close, if_pos hc]
          exact .closedFlowDrops hst hc
  case h_12 => cases h

/-- What a step of the goroutine of `processFlowDrops` does to its channel. -/
inductive Flow (s : CorrelatorRun) : FlowAction → CorrelatorRun → Prop
  | take {drop : FlowDrop} {allowed : Bool} :
      Flow s (.take drop allowed) { s with flows := .namespaces drop (flowNamespaces drop allowed) }
  | move {a : FlowAction} {st : FlowStage} {seen : Dedupe.Cache DedupeKey} (hquiet : s.flows.Quiet → st.Quiet) :
      Flow s a { s with seenPairs := seen, flows := st }
  | sent {st : FlowStage} {stop : Bool} {n : FlowDropNotification} (hopen : s.flowDrops.closed = false) :
      Flow s (.send stop) { s with flowDrops := s.flowDrops.push n, flows := st }
  | sentClosed {stop : Bool} (hfrom : ¬ s.flows.Quiet) (hclosed : s.flowDrops.closed = true) :
      Flow s (.send stop) { s with panicked := some .flowDrops }

section Steps

variable [LabelSelectors]

theorem flow_of_eq_some {a : FlowAction} (h : s.flow a = some s') : Flow s a s' := by
  unfold flow at h
  split at h
  case h_1 hst =>
      cases h
      exact .take
  case h_2 hst =>
      cases h
      exact .move (fun _ => trivial)
  case h_3 hst =>
      split at h
      · cases h
        exact .move (fun _ => trivial)
      · cases h
  case h_4 hst =>
      obtain ⟨cs, -, rfl⟩ := Option.map_eq_some_iff.mp h
      refine .move (fun hq => ?_)
      rw [hst] at hq
      cases hq
  case h_5 hst =>
      cases h
      exact .move (fun _ => trivial)
  case h_6 hst =>
      split at h
      all_goals
        cases h
        refine .move (fun hq => ?_)
        rw [hst] at hq
        cases hq.1
  case h_7 hst =>
      cases h
      refine .move (fun hq => ?_)
      rw [hst] at hq
      exact hq.2
  case h_8 hst =>
      have hfrom : ¬ s.flows.Quiet := by rw [hst]; exact id
      obtain ⟨r, hr, rfl⟩ := Option.map_eq_some_iff.mp h
      obtain rfl | rfl | ⟨hopen, rfl⟩ | ⟨hclosed, rfl⟩ := Channel.select_sound hr
      · exact .move (fun hq => absurd hq hfrom)
      · exact .move (fun hq => absurd hq hfrom)
      · exact .sent hopen
      · exact .sentClosed hfrom hclosed
  case h_9 => cases h

inductive Step (s : CorrelatorRun) : CorrelatorLabel → CorrelatorRun → Prop
  | environment {l : CorrelatorLabel} {s' : CorrelatorRun}
      (hnotifications : s'.notifications.closed = s.notifications.closed)
      (hflowDrops : s'.flowDrops.closed = s.flowDrops.closed) (hwatcher : s'.watcher = s.watcher)
      (hflows : s'.flows = s.flows) (hpanicked : s'.panicked = s.panicked) : Step s l s'
  | watch {a : WatchAction} {s' : CorrelatorRun} (h : Watch s a s') : Step s (.watch a) s'
  | flow {a : FlowAction} {s' : CorrelatorRun} (h : Flow s a s') : Step s (.flow a) s'

theorem step_of_next {l : CorrelatorLabel} (h : s.next l = some s') : Step s l s' := by
  unfold next at h
  split at h
  · cases h
  cases l with
  | tick now =>
      dsimp only at h
      split at h
      · cases h
        exact .environment rfl rfl rfl rfl rfl
      · cases h
  | mutate | cancel | cleanup =>
      cases h
      exact .environment rfl rfl rfl rfl rfl
  | readNotification =>
      obtain ⟨⟨n, ch⟩, hr, rfl⟩ := Option.map_eq_some_iff.mp h
      obtain ⟨rest, hb, rfl⟩ := Channel.receive_eq_some hr
      exact .environment rfl rfl rfl rfl rfl
  | readFlowDrop =>
      obtain ⟨⟨n, ch⟩, hr, rfl⟩ := Option.map_eq_some_iff.mp h
      obtain ⟨rest, hb, rfl⟩ := Channel.receive_eq_some hr
      exact .environment rfl rfl rfl rfl rfl
  | watch a => exact .watch (watch_of_eq_some h)
  | flow a => exact .flow (flow_of_eq_some h)

end Steps

/-- The channels are closed only at the end of `Start`, one after the other, and nothing
is sent on the closed notifications. -/
structure Closing (s : CorrelatorRun) : Prop where
  notifications : s.notifications.closed = true → ¬ s.watcher.Open
  flowDrops : s.flowDrops.closed = true → s.watcher = .returned
  panicked : s.panicked ≠ some .notifications

theorem Closing.watch (h : s.Closing) {a : WatchAction} (hw : Watch s a s') : s'.Closing := by
  cases hw with
  | move hfrom | sent hfrom =>
      exact ⟨fun hc => absurd hfrom (h.notifications hc),
        fun hc => absurd (h.flowDrops hc) hfrom.ne_returned, h.panicked⟩
  | closedNotifications hfrom hclosed => exact absurd hfrom (h.notifications hclosed)
  | closeNotifications hfrom => exact ⟨fun _ => id, fun hc => absurd (h.flowDrops hc) hfrom.ne_returned, h.panicked⟩
  | closedFlowDrops hfrom hclosed => cases hfrom.symm.trans (h.flowDrops hclosed)
  | closeFlowDrops hfrom => exact ⟨fun _ => id, fun _ => rfl, h.panicked⟩

theorem Closing.flow (h : s.Closing) {a : FlowAction} (hf : Flow s a s') : s'.Closing := by
  cases hf with
  | take | move | sent => exact ⟨h.notifications, h.flowDrops, h.panicked⟩
  | sentClosed => exact ⟨h.notifications, h.flowDrops, fun hp => Output.noConfusion (Option.some.inj hp)⟩

theorem Closing.step (h : s.Closing) {l : CorrelatorLabel} (hs : Step s l s') : s'.Closing := by
  cases hs with
  | environment hn hf hw _ hp => exact ⟨hn ▸ hw ▸ h.notifications, hf ▸ hw ▸ h.flowDrops, hp ▸ h.panicked⟩
  | watch hw => exact h.watch hw
  | flow hf => exact h.flow hf

structure Safe (s : CorrelatorRun) : Prop where
  closing : s.Closing
  panicked : s.panicked = none
  quiet : s.flowDrops.closed = true → s.flows.Quiet

theorem Safe.watch (h : s.Safe) {a : WatchAction} (hg : s.Orderly (.watch a)) (hw : Watch s a s') : s'.Safe := by
  have hclosing := h.closing.watch hw
  cases hw with
  | move | sent | closeNotifications => exact ⟨hclosing, h.panicked, h.quiet⟩
  | closedNotifications hfrom hclosed => exact absurd hfrom (h.closing.notifications hclosed)
  | closedFlowDrops hfrom hclosed => cases hfrom.symm.trans (h.closing.flowDrops hclosed)
  | closeFlowDrops hfrom => exact ⟨hclosing, h.panicked, fun _ => hg hfrom⟩

theorem Safe.flow (h : s.Safe) {a : FlowAction} (hg : s.Orderly (.flow a)) (hf : Flow s a s') : s'.Safe := by
  have hclosing := h.closing.flow hf
  cases hf with
  | take => exact ⟨hclosing, h.panicked, hg⟩
  | move hquiet => exact ⟨hclosing, h.panicked, fun hc => hquiet (h.quiet hc)⟩
  | sent hopen => exact ⟨hclosing, h.panicked, fun hc => absurd hc (Bool.eq_false_iff.mp hopen)⟩
  | sentClosed hfrom hclosed => exact absurd (h.quiet hclosed) hfrom

theorem Safe.step (h : s.Safe) {l : CorrelatorLabel} (hg : s.Orderly l) (hs : Step s l s') : s'.Safe := by
  cases hs with
  | environment hn hf hw hfl hp =>
      exact ⟨h.closing.step (.environment (l := l) hn hf hw hfl hp), hp.trans h.panicked, hf ▸ hfl ▸ h.quiet⟩
  | watch hw => exact h.watch hg hw
  | flow hf => exact h.flow hg hf

theorem Initial.closing (h : s.Initial) : s.Closing := by
  refine ⟨?_, ?_, ?_⟩
  · rw [h.notifications]
    exact nofun
  · rw [h.flowDrops]
    exact nofun
  · rw [h.panicked]
    exact nofun

section Runs

variable [LabelSelectors]

theorem notifications_never_panic (h : system.Reachable s) : s.panicked ≠ some .notifications := by
  have hclosing : s.Closing := by
    refine h.invariant (I := Closing) ?_ (fun _ _ _ hc _ hn => hc.step (step_of_next hn))
    intro s hi
    exact Initial.closing hi
  exact hclosing.panicked

/-- Where no flow drop is correlated when `Start` closes the channel and none later,
nothing is sent on a closed channel. -/
theorem correlator_shutdown_never_panics (h : system.Reaches Orderly s) : s.panicked = none := by
  have hsafe : s.Safe := by
    refine h.invariant (I := Safe) ?_ (fun _ _ _ hs hg hn => hs.step hg (step_of_next hn))
    intro s hi
    refine ⟨hi.closing, hi.panicked, ?_⟩
    rw [hi.flowDrops]
    exact nofun
  exact hsafe.panicked

end Runs

section Samples

attribute [local instance] LabelSelectors.model

def egress : Constraint where
  uid := "deny-egress"
  source := ⟨"networking.k8s.io", "v1", "networkpolicies"⟩
  name := "deny-egress"
  ns := "team"
  constraintType := .networkEgress
  effect := "restrict"
  severity := .warning
  summary := ""

def denied : FlowDrop where
  source := { ns := "team", podName := "web-0" }
  destination := { ns := "team", podName := "db-0" }
  protocol := "TCP"
  destinationPort := 5432
  dropReason := .policy

theorem initial_start : Initial {} := ⟨rfl, rfl, rfl, rfl, .inr rfl, rfl⟩

def correlating : List CorrelatorLabel :=
  [.mutate (.upsert egress), .flow (.take denied true), .flow (.lookup [0]), .flow .mark]

def shutdown : List CorrelatorLabel :=
  [.watch (.connect true), .cancel, .watch .done, .watch .check, .watch .close, .watch .close]

def closesIdle (s : CorrelatorRun) : CorrelatorLabel → Bool
  | .watch .close =>
      match s.flows with
      | .idle => true
      | _ => false
  | .flow (.take drop allowed) => !s.flowDrops.closed || decide (flowNamespaces drop allowed = [])
  | _ => true

theorem orderly_of_closesIdle (s : CorrelatorRun) (l : CorrelatorLabel) (h : s.closesIdle l = true) : s.Orderly l := by
  unfold closesIdle at h
  split at h
  · split at h
    · rename_i hidle
      intro _
      rw [hidle]
      trivial
    · cases h
  · intro hclosed
    simpa [hclosed] using h
  · unfold Orderly
    split
    · exact absurd rfl ‹_›
    · rename_i hne
      exact absurd rfl (hne _ _)
    · trivial

def finished : CorrelatorRun :=
  (System.exec next closesIdle {}
    (correlating ++ [.flow (.send false), .flow .next, .flow .next] ++ shutdown ++
      [.flow (.take { denied with dropReason := .ttlExceeded } true), .flow .next, .flow .leave])).get
    (by decide +kernel)

theorem correlator_shutdown_never_panics_finished :
    finished.flowDrops.closed = true ∧ finished.flowDrops.accepted.length = 1 ∧ finished.panicked = none := by
  have h : system.Reaches Orderly finished :=
    .exec orderly_of_closesIdle (.init initial_start) (Option.some_get _).symm
  exact ⟨by decide +kernel, by decide +kernel, correlator_shutdown_never_panics h⟩

def sentAfterClose : CorrelatorRun :=
  (System.exec next (fun _ _ => true) {} (correlating ++ shutdown ++ [.flow (.send false)])).get (by decide +kernel)

def takenAfterClose : CorrelatorRun :=
  (System.exec next (fun _ _ => true) {} (shutdown ++ correlating ++ [.flow (.send false)])).get (by decide +kernel)

theorem correlator_shutdown_panics :
    (system.Reachable sentAfterClose ∧ sentAfterClose.panicked = some .flowDrops) ∧
      system.Reachable takenAfterClose ∧ takenAfterClose.panicked = some .flowDrops :=
  ⟨⟨.exec (fun _ _ _ => trivial) (.init initial_start) (Option.some_get _).symm, by decide +kernel⟩,
    .exec (fun _ _ _ => trivial) (.init initial_start) (Option.some_get _).symm, by decide +kernel⟩

end Samples

end CorrelatorRun

end Nightjar
