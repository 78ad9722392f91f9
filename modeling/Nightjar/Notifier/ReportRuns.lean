import Nightjar.Notifier.IndexLog
import Nightjar.Lib.Runs

namespace Nightjar.Notifier

open Lib

/-- Where a run of `processPendingTriggers` stands, with the triggers it has not
visited. There is one goroutine, so a run starts only when none is in progress. -/
inductive Phase where
  | idle
  | taken (triggers : Finset String) (clusterWide : Bool)
  | loop (triggers : Finset String)
  | debounced (ns : String) (triggers : Finset String)
  | passed (ns : String) (triggers : Finset String)
  | read (ns : String) (snap : Snapshot) (triggers : Finset String)
  | written (ns : String) (triggers : Finset String)

def Phase.waiting : Phase → Finset String
  | idle => ∅
  | taken triggers _ | loop triggers | read _ _ triggers | written _ triggers => triggers
  | debounced ns triggers | passed ns triggers => insert ns triggers

/-- The reconciler, the index it reads and the reports it writes; `listed` is the
answer to the last cluster-wide listing. -/
structure ReportWorld where
  index : IndexLog
  rr : ReportReconciler
  phase : Phase := .idle
  reports : String → Option Snapshot := fun _ => none
  listed : Option (List String) := none

inductive ReportLabel where
  | mutate (m : Mutation)
  | callback (i : Nat)
  | take
  | list (items : List String)
  | skipList
  | check (ns : String) (now : Int)
  | requeue
  | read
  | write
  | stamp (now : Int)
  | finish

namespace ReportWorld

def next (w : ReportWorld) (l : ReportLabel) : Option ReportWorld :=
  match l, w.phase with
  | .mutate m, _ => some { w with index := w.index.mutate m }
  | .callback i, _ => (w.index.deliver i).map (fun d => { w with index := d.2, rr := w.rr.onIndexChange d.1 })
  | .take, .idle => some { w with
      rr := w.rr.taken
      phase := .taken w.rr.pendingTriggers w.rr.clusterWideTriggered }
  | .list items, .taken triggers true =>
      if w.rr.dynamicClient then
        some { w with phase := .loop (triggers ∪ items.toFinset), listed := some items }
      else none
  | .skipList, .taken triggers clusterWide =>
      if clusterWide && w.rr.dynamicClient then none else some { w with phase := .loop triggers }
  | .check ns now, .loop triggers =>
      if ns ∈ triggers then
        if w.rr.debounced ns now then some { w with phase := .debounced ns (triggers.erase ns) }
        else some { w with phase := .passed ns (triggers.erase ns) }
      else none
  | .requeue, .debounced ns triggers => some { w with rr := w.rr.requeue ns, phase := .loop triggers }
  | .read, .passed ns triggers => some { w with phase := .read ns (w.index.read ns) triggers }
  | .write, .read ns snap triggers => some { w with
      reports := Function.update w.reports ns (some snap)
      phase := .written ns triggers }
  | .stamp now, .written ns triggers => some { w with rr := w.rr.stamp ns now, phase := .loop triggers }
  | .finish, .loop triggers => if triggers = ∅ then some { w with phase := .idle } else none
  | _, _ => none

structure Initial (w : ReportWorld) : Prop where
  index : w.index.Fresh
  client : w.rr.dynamicClient = true
  phase : w.phase = .idle
  reports : w.reports = fun _ => none
  listed : w.listed = none

def system : System ReportWorld ReportLabel := .ofStep Initial next

inductive Step (w : ReportWorld) : ReportWorld → Prop
  | mutate (m : Mutation) : Step w { w with index := w.index.mutate m }
  | callback {i : Nat} {event : IndexEvent} {index : IndexLog} (h : w.index.deliver i = some (event, index)) :
      Step w { w with index := index, rr := w.rr.onIndexChange event }
  | take (h : w.phase = .idle) :
      Step w { w with rr := w.rr.taken, phase := .taken w.rr.pendingTriggers w.rr.clusterWideTriggered }
  | list {triggers : Finset String} (h : w.phase = .taken triggers true) (items : List String) :
      Step w { w with phase := .loop (triggers ∪ items.toFinset), listed := some items }
  | skipList {triggers : Finset String} {clusterWide : Bool} (h : w.phase = .taken triggers clusterWide)
      (hc : (clusterWide && w.rr.dynamicClient) = false) : Step w { w with phase := .loop triggers }
  | debounce {ns : String} {triggers : Finset String} (h : w.phase = .loop triggers) (hns : ns ∈ triggers) :
      Step w { w with phase := .debounced ns (triggers.erase ns) }
  | pass {ns : String} {triggers : Finset String} (h : w.phase = .loop triggers) (hns : ns ∈ triggers) :
      Step w { w with phase := .passed ns (triggers.erase ns) }
  | requeue {ns : String} {triggers : Finset String} (h : w.phase = .debounced ns triggers) :
      Step w { w with rr := w.rr.requeue ns, phase := .loop triggers }
  | read {ns : String} {triggers : Finset String} (h : w.phase = .passed ns triggers) :
      Step w { w with phase := .read ns (w.index.read ns) triggers }
  | write {ns : String} {snap : Snapshot} {triggers : Finset String} (h : w.phase = .read ns snap triggers) :
      Step w { w with reports := Function.update w.reports ns (some snap), phase := .written ns triggers }
  | stamp {ns : String} {triggers : Finset String} (h : w.phase = .written ns triggers) (now : Int) :
      Step w { w with rr := w.rr.stamp ns now, phase := .loop triggers }
  | finish (h : w.phase = .loop ∅) : Step w { w with phase := .idle }

theorem step_of_next {w w' : ReportWorld} {l : ReportLabel} (h : w.next l = some w') : Step w w' := by
  unfold next at h
  split at h
  · cases h
    exact .mutate _
  · obtain ⟨⟨event, index⟩, hd, he⟩ := Option.map_eq_some_iff.mp h
    cases he
    exact .callback hd
  · cases h
    exact .take ‹_›
  · split at h
    · cases h
      exact .list ‹_› _
    · cases h
  · split at h
    · cases h
    · rename_i hc
      cases h
      exact .skipList ‹_› (Bool.not_eq_true _ ▸ hc)
  · split at h
    · rename_i hns
      split at h
      · cases h
        exact .debounce ‹_› hns
      · cases h
        exact .pass ‹_› hns
    · cases h
  · cases h
    exact .requeue ‹_›
  · cases h
    exact .read ‹_›
  · cases h
    exact .write ‹_›
  · cases h
    exact .stamp ‹_› _
  · split at h
    · rename_i hempty
      cases h
      cases hempty
      exact .finish ‹_›
    · cases h
  · cases h

/-- The namespace will be read again, or has been read after the first `n` mutations. -/
def Held (w : ReportWorld) (ns : String) (n : Nat) : Prop :=
  ns ∈ w.rr.pendingTriggers ∨ ns ∈ w.phase.waiting ∨
  (∃ snap triggers, w.phase = .read ns snap triggers ∧ n ≤ snap.after) ∨
  ∃ report, w.reports ns = some report ∧ n ≤ report.after

def ListPending (w : ReportWorld) : Prop :=
  w.rr.clusterWideTriggered = true ∨ ∃ triggers, w.phase = .taken triggers true

/-- Reports and the snapshot in hand show past states of the index, the one in
hand a later one than the report it is going to replace. -/
structure Shown (w : ReportWorld) : Prop where
  client : w.rr.dynamicClient = true
  tracked : w.index.Tracked
  reports : ∀ {ns report}, w.reports ns = some report → w.index.Shows ns report
  snap : ∀ {ns snap triggers}, w.phase = .read ns snap triggers → w.index.Shows ns snap
  snap_le : ∀ {ns snap triggers report}, w.phase = .read ns snap triggers → w.reports ns = some report →
    report.after ≤ snap.after

variable {w w' : ReportWorld}

theorem Shown.step (h : Shown w) (hs : Step w w') : Shown w' := by
  cases hs with
  | mutate m =>
      exact ⟨h.client, h.tracked.mutate m, fun hr => (h.reports hr).mutate m, fun hp => (h.snap hp).mutate m,
        h.snap_le⟩
  | callback hd =>
      exact ⟨ReportReconciler.dynamicClient_onIndexChange.trans h.client, h.tracked.deliver hd,
        fun hr => (h.reports hr).deliver hd, fun hp => (h.snap hp).deliver hd, h.snap_le⟩
  | take hp => exact ⟨h.client, h.tracked, h.reports, nofun, nofun⟩
  | list hp items => exact ⟨h.client, h.tracked, h.reports, nofun, nofun⟩
  | skipList hp hc => exact ⟨h.client, h.tracked, h.reports, nofun, nofun⟩
  | debounce hp hns => exact ⟨h.client, h.tracked, h.reports, nofun, nofun⟩
  | pass hp hns => exact ⟨h.client, h.tracked, h.reports, nofun, nofun⟩
  | requeue hp => exact ⟨h.client, h.tracked, h.reports, nofun, nofun⟩
  | read hp =>
      refine ⟨h.client, h.tracked, h.reports, ?_, ?_⟩
      · rintro ns snap triggers ⟨⟩
        exact IndexLog.shows_read _
      · rintro ns snap triggers report ⟨⟩ hr
        exact (h.reports hr).1
  | @write ns snap triggers hp =>
      refine ⟨h.client, h.tracked, ?_, nofun, nofun⟩
      intro ns' report hr
      by_cases hne : ns' = ns
      · subst hne
        cases (Function.update_self ..).symm.trans hr
        exact h.snap hp
      · exact h.reports ((Function.update_of_ne hne ..).symm.trans hr)
  | stamp hp now => exact ⟨h.client, h.tracked, h.reports, nofun, nofun⟩
  | finish hp => exact ⟨h.client, h.tracked, h.reports, nofun, nofun⟩

theorem Held.of_waiting {ns : String} {n : Nat} (hh : w.Held ns n)
    (hsets : ns ∈ w.rr.pendingTriggers ∨ ns ∈ w.phase.waiting →
      ns ∈ w'.rr.pendingTriggers ∨ ns ∈ w'.phase.waiting)
    (hread : ∀ snap triggers, w.phase ≠ .read ns snap triggers) (hreports : w'.reports = w.reports) :
    w'.Held ns n := by
  rcases hh with hp | hp | ⟨snap, triggers, hp, _⟩ | hr
  · exact (hsets (.inl hp)).imp_right .inl
  · exact (hsets (.inr hp)).imp_right .inl
  · exact absurd hp (hread snap triggers)
  · exact .inr (.inr (.inr (hreports ▸ hr)))

theorem Held.step {ns : String} {n : Nat} (h : Shown w) (hn : n ≤ w.index.now) (hh : w.Held ns n)
    (hs : Step w w') : w'.Held ns n := by
  cases hs with
  | mutate m => exact hh
  | callback hd => exact hh.imp_left (fun hp => ReportReconciler.mem_pending_onIndexChange.mpr (.inl hp))
  | take hp =>
      refine hh.of_waiting ?_ (by simp [hp]) rfl
      simp [hp, Phase.waiting, ReportReconciler.taken]
  | list hp items =>
      refine hh.of_waiting ?_ (by simp [hp]) rfl
      rw [hp]
      exact Or.imp_right (Finset.mem_union_left _)
  | skipList hp hc =>
      refine hh.of_waiting ?_ (by simp [hp]) rfl
      rw [hp]
      exact id
  | debounce hp hns =>
      refine hh.of_waiting ?_ (by simp [hp]) rfl
      rw [hp, Phase.waiting, Phase.waiting, Finset.insert_erase hns]
      exact id
  | pass hp hns =>
      refine hh.of_waiting ?_ (by simp [hp]) rfl
      rw [hp, Phase.waiting, Phase.waiting, Finset.insert_erase hns]
      exact id
  | requeue hp =>
      refine hh.of_waiting ?_ (by simp [hp]) rfl
      simp only [hp, Phase.waiting, ReportReconciler.requeue, Finset.mem_insert]
      tauto
  | stamp hp now =>
      refine hh.of_waiting ?_ (by simp [hp]) rfl
      rw [hp]
      exact id
  | finish hp =>
      refine hh.of_waiting ?_ (by simp [hp]) rfl
      rw [hp]
      exact id
  | @read ns' triggers hp =>
      by_cases hne : ns = ns'
      · subst hne
        exact .inr (.inr (.inl ⟨_, triggers, rfl, hn⟩))
      · refine hh.of_waiting ?_ (by simp [hp]) rfl
        rw [hp]
        exact Or.imp_right (fun hm => (Finset.mem_insert.mp hm).resolve_left hne)
  | @write ns' snap triggers hp =>
      rcases hh with hm | hm | ⟨snap', triggers', hp', hle⟩ | ⟨report, hr, hle⟩
      · exact .inl hm
      · rw [hp] at hm
        exact .inr (.inl hm)
      · rw [hp] at hp'
        cases hp'
        exact .inr (.inr (.inr ⟨snap, Function.update_self .., hle⟩))
      · by_cases hne : ns = ns'
        · subst hne
          exact .inr (.inr (.inr ⟨snap, Function.update_self .., hle.trans (h.snap_le hp hr)⟩))
        · exact .inr (.inr (.inr ⟨report, (Function.update_of_ne hne ..).trans hr, hle⟩))

/-- Every callback that has run is accounted for: its namespaces are held, or for
a cluster-wide one those of the last listing, unless a listing is still to come. -/
structure Accounted (w : ReportWorld) : Prop where
  shown : Shown w
  named : ∀ {n event}, (n, event) ∈ w.index.ran → ∀ ns ∈ constraintNamespaces event.constraint, w.Held ns n
  listed : ∀ {items}, w.listed = some items → ∀ ns ∈ items, w.Held ns 0
  clusterWide : ∀ {n event}, (n, event) ∈ w.index.ran →
    event.constraint.ns = "" → event.constraint.affectedNamespaces = [] →
      w.ListPending ∨ ∃ items, w.listed = some items ∧ ∀ ns ∈ items, w.Held ns n

theorem Accounted.held_step (h : Accounted w) (hs : Step w w') {ns : String} {n : Nat} {event : IndexEvent}
    (hr : (n, event) ∈ w.index.ran) (hh : w.Held ns n) : w'.Held ns n :=
  hh.step h.shown (h.shown.tracked.le_now (.inr hr)) hs

theorem Accounted.of_listed (h : Accounted w) (hs : Step w w') (hran : w'.index.ran = w.index.ran)
    (hlisted : w'.listed = w.listed) (hpending : w.ListPending → w'.ListPending) : Accounted w' := by
  refine ⟨h.shown.step hs, ?_, ?_, ?_⟩
  · intro n event hr ns hns
    rw [hran] at hr
    exact h.held_step hs hr (h.named hr ns hns)
  · intro items hi ns hns
    rw [hlisted] at hi
    exact (h.listed hi ns hns).step h.shown (Nat.zero_le _) hs
  · intro n event hr hcluster hall
    rw [hran] at hr
    rw [hlisted]
    refine (h.clusterWide hr hcluster hall).imp hpending ?_
    rintro ⟨items, hi, hitems⟩
    exact ⟨items, hi, fun ns hns => h.held_step hs hr (hitems ns hns)⟩

theorem ListPending.of_phase (h : w.ListPending) (hphase : ∀ triggers, w.phase ≠ .taken triggers true)
    (hflag : w'.rr.clusterWideTriggered = w.rr.clusterWideTriggered) : w'.ListPending := by
  rcases h with hf | ⟨triggers, hp⟩
  · exact .inl (hflag.trans hf)
  · exact absurd hp (hphase triggers)

theorem Accounted.callback (h : Accounted w) {i : Nat} {event : IndexEvent} {index : IndexLog}
    (hd : w.index.deliver i = some (event, index)) :
    Accounted { w with index := index, rr := w.rr.onIndexChange event } := by
  have hs : Step w { w with index := index, rr := w.rr.onIndexChange event } := .callback hd
  obtain ⟨n, hn, _, _, _, hran⟩ := IndexLog.deliver_eq_some hd
  refine ⟨h.shown.step hs, ?_, ?_, ?_⟩
  · intro k ev hr ns hns
    rcases List.mem_cons.mp (hran ▸ hr) with he | hr
    · cases he
      exact .inl (ReportReconciler.mem_pending_onIndexChange.mpr (.inr hns))
    · exact h.held_step hs hr (h.named hr ns hns)
  · intro items hi ns hns
    exact (h.listed hi ns hns).step h.shown (Nat.zero_le _) hs
  · intro k ev hr hcluster hall
    rcases List.mem_cons.mp (hran ▸ hr) with he | hr
    · cases he
      exact .inl (.inl (ReportReconciler.clusterWide_onIndexChange.mpr (.inr ⟨hcluster, hall⟩)))
    · rcases h.clusterWide hr hcluster hall with hp | ⟨items, hi, hitems⟩
      · exact .inl (hp.imp_left (fun hf => ReportReconciler.clusterWide_onIndexChange.mpr (.inl hf)))
      · exact .inr ⟨items, hi, fun ns hns => h.held_step hs hr (hitems ns hns)⟩

theorem Accounted.list (h : Accounted w) {triggers : Finset String} (hp : w.phase = .taken triggers true)
    (items : List String) :
    Accounted { w with phase := .loop (triggers ∪ items.toFinset), listed := some items } := by
  have hs : Step w { w with phase := .loop (triggers ∪ items.toFinset), listed := some items } := .list hp items
  have hnew {ns : String} (hns : ns ∈ items) (n : Nat) :
      Held { w with phase := .loop (triggers ∪ items.toFinset), listed := some items } ns n :=
    .inr (.inl (Finset.mem_union_right _ (List.mem_toFinset.mpr hns)))
  refine ⟨h.shown.step hs, ?_, ?_, ?_⟩
  · intro n event hr ns hns
    exact h.held_step hs hr (h.named hr ns hns)
  · rintro _ ⟨⟩ ns hns
    exact hnew hns 0
  · intro n event _ _ _
    exact .inr ⟨items, rfl, fun ns hns => hnew hns n⟩

theorem Accounted.step (h : Accounted w) (hs : Step w w') : Accounted w' := by
  cases hs with
  | mutate m => exact h.of_listed (.mutate m) rfl rfl id
  | callback hd => exact h.callback hd
  | take hp =>
      refine h.of_listed (.take hp) rfl rfl ?_
      rintro (hf | ⟨triggers, ht⟩)
      · exact .inr ⟨w.rr.pendingTriggers, congrArg _ hf⟩
      · rw [hp] at ht
        cases ht
  | list hp items => exact h.list hp items
  | skipList hp hc =>
      refine h.of_listed (.skipList hp hc) rfl rfl (ListPending.of_phase · ?_ rfl)
      rw [h.shown.client, Bool.and_true] at hc
      simp [hp, hc]
  | debounce hp hns => exact h.of_listed (.debounce hp hns) rfl rfl (ListPending.of_phase · (by simp [hp]) rfl)
  | pass hp hns => exact h.of_listed (.pass hp hns) rfl rfl (ListPending.of_phase · (by simp [hp]) rfl)
  | requeue hp => exact h.of_listed (.requeue hp) rfl rfl (ListPending.of_phase · (by simp [hp]) rfl)
  | read hp => exact h.of_listed (.read hp) rfl rfl (ListPending.of_phase · (by simp [hp]) rfl)
  | write hp => exact h.of_listed (.write hp) rfl rfl (ListPending.of_phase · (by simp [hp]) rfl)
  | stamp hp now => exact h.of_listed (.stamp hp now) rfl rfl (ListPending.of_phase · (by simp [hp]) rfl)
  | finish hp => exact h.of_listed (.finish hp) rfl rfl (ListPending.of_phase · (by simp [hp]) rfl)

theorem accounted_of_initial (h : Initial w) : Accounted w := by
  refine ⟨⟨h.client, h.index.tracked, ?_, ?_, ?_⟩, ?_, ?_, ?_⟩
  · simp [h.reports]
  · simp [h.phase]
  · simp [h.phase]
  · simp [h.index.2.2]
  · simp [h.listed]
  · simp [h.index.2.2]

theorem accounted_of_reachable (h : system.Reachable w) : Accounted w := by
  refine h.invariant (I := Accounted) (fun _ => accounted_of_initial) ?_
  intro w l w' hw _ hs
  exact hw.step (step_of_next hs)

structure Quiescent (w : ReportWorld) : Prop where
  callbacks : w.index.callbacks = []
  pending : w.rr.pendingTriggers = ∅
  clusterWide : w.rr.clusterWideTriggered = false
  phase : w.phase = .idle

theorem Quiescent.reported (h : Quiescent w) {ns : String} {n : Nat} (hh : w.Held ns n) :
    ∃ report, w.reports ns = some report ∧ n ≤ report.after := by
  rcases hh with hm | hm | ⟨snap, triggers, hp, _⟩ | hr
  · simp [h.pending] at hm
  · simp [h.phase, Phase.waiting] at hm
  · simp [h.phase] at hp
  · exact hr

def Listed (w : ReportWorld) (ns : String) : Prop := ∃ items, w.listed = some items ∧ ns ∈ items

def Asks (w : ReportWorld) (event : IndexEvent) (ns : String) : Prop :=
  ns ∈ constraintNamespaces event.constraint ∨
  (event.constraint.ns = "" ∧ event.constraint.affectedNamespaces = []) ∧ w.Listed ns

/-- No update is lost: once nothing is pending, the report of every namespace
that a callback named or the last listing found shows the index as it was at one
time, and after every mutation whose callback asked for the namespace. -/
theorem reports_fresh (h : system.Reachable w) (hq : Quiescent w) (ns : String)
    (hns : (∃ n event, w.index.Emitted n event ∧ ns ∈ constraintNamespaces event.constraint) ∨ w.Listed ns) :
    ∃ report, w.reports ns = some report ∧ w.index.Shows ns report ∧
      ∀ n event, w.index.Emitted n event → w.Asks event ns → n ≤ report.after := by
  have ha := accounted_of_reachable h
  have hran {n : Nat} {event : IndexEvent} (he : w.index.Emitted n event) : (n, event) ∈ w.index.ran := by
    refine (ha.shown.tracked.emitted he).resolve_left ?_
    simp [hq.callbacks]
  have hlist : ¬ w.ListPending := by simp [ListPending, hq.clusterWide, hq.phase]
  have hreport : ∃ report, w.reports ns = some report := by
    rcases hns with ⟨n, event, he, hm⟩ | ⟨items, hi, hm⟩
    · exact (hq.reported (ha.named (hran he) ns hm)).imp (fun _ hr => hr.1)
    · exact (hq.reported (ha.listed hi ns hm)).imp (fun _ hr => hr.1)
  obtain ⟨report, hr⟩ := hreport
  refine ⟨report, hr, ha.shown.reports hr, ?_⟩
  intro n event he hasks
  have hheld : w.Held ns n := by
    rcases hasks with hm | ⟨⟨hcluster, hall⟩, items, hi, hm⟩
    · exact ha.named (hran he) ns hm
    · obtain ⟨items', hi', hitems⟩ := (ha.clusterWide (hran he) hcluster hall).resolve_left hlist
      cases hi.symm.trans hi'
      exact hitems ns hm
  obtain ⟨report', hr', hle⟩ := hq.reported hheld
  cases hr.symm.trans hr'
  exact hle

def started : ReportWorld := { index := { start := .new }, rr := .new 0 true }

theorem initial_started : Initial started := ⟨⟨rfl, rfl, rfl⟩, rfl, rfl, rfl, rfl⟩

def oneReport : List ReportLabel :=
  [.mutate (.upsert (sampleConstraint "team")), .callback 0, .take, .skipList, .check "team" 0, .read, .write,
    .stamp 0, .finish]

theorem oneReport_runs : (System.exec next (fun _ _ => true) started oneReport).isSome = true := by decide

def reported : ReportWorld := (System.exec next (fun _ _ => true) started oneReport).get oneReport_runs

theorem reports_fresh_team : ∃ report, reported.reports "team" = some report ∧
    reported.index.Shows "team" report ∧
    ∀ n event, reported.index.Emitted n event → reported.Asks event "team" → n ≤ report.after := by
  refine reports_fresh ?_ ⟨rfl, by decide, by decide, rfl⟩ "team" (.inl ?_)
  · exact (System.Reaches.init initial_started).exec (fun _ _ _ => trivial) (Option.some_get oneReport_runs).symm
  · exact ⟨1, ⟨.upsert, sampleConstraint "team"⟩, ⟨0, _, rfl, rfl, List.mem_cons_self⟩, by decide⟩

end ReportWorld

end Nightjar.Notifier
