import Nightjar.Notifier.AnnotatorWorkers

namespace Nightjar.Notifier

open Lib

theorem WorkloadKey.covers_ofNamespace (k : WorkloadKey) : (ofNamespace k.ns).Covers k := by
  by_cases h : k.ns = clusterWideSentinel
  · exact .inr (.inr h)
  · exact .inr (.inl ⟨⟨h, .inl rfl⟩, rfl⟩)

theorem WorkloadKey.covers_clusterWide (k : WorkloadKey) : clusterWide.Covers k := .inr (.inr rfl)

theorem WorkloadKey.Covers.ns_eq {u k : WorkloadKey} (hc : u.Covers k) (hu : u.IsNamespace) : u.ns = k.ns := by
  rcases hc with rfl | hc | hc
  · rfl
  · exact hc.2
  · exact absurd hc hu.1

theorem WorkloadKey.Covers.eq {u k : WorkloadKey} (hc : u.Covers k) (hu : u.IsWorkload) : u = k := by
  rcases hc with hc | ⟨⟨_, hc⟩, _⟩ | hc
  · exact hc
  · exact absurd hc (not_or.mpr hu.2)
  · exact absurd hc hu.1

/-- Where the worker stands, it will still get to the workload, or has read its
namespace after the first `n` mutations. -/
def Stage.Carries (k : WorkloadKey) (n : Nat) : Stage → Prop
  | idle | patched _ => False
  | took u => u.Covers k
  | namespaces u rest => u.Covers k ∧ k.ns ∈ rest
  | fetching u => u.Covers k ∧ u.ns = k.ns
  | workloads u rest => u.Covers k ∧ k ∈ rest
  | sending u k' rest => u.Covers k ∧ (k = k' ∨ k ∈ rest)
  | checked u => u = k
  | read u snap => u = k ∧ n ≤ snap.after

namespace AnnotatorWorld

/-- The channel has room for all that the step sends, and patches succeed. -/
def assumed (w : AnnotatorWorld) : AnnotatorLabel → Bool
  | .callback i => (w.index.callbacks[i]?).all (fun c =>
      decide (w.wa.pending.length + (queuedUpdates c.2.constraint).length ≤ pendingCapacity))
  | .submit _ | .worker _ .announce | .worker _ .send => decide (w.wa.pending.length < pendingCapacity)
  | .worker _ (.patch answer) => answer.isOk
  | _ => true

def Known (w : AnnotatorWorld) (k : WorkloadKey) : Prop :=
  (∃ s, w.patched k = some s) ∨ ∃ i snap, w.workers i = .read k snap

/-- The worker does not lose the workload: what it lists contains it, no debounce
check discards it, and no patch goes back behind the last one. -/
def KeepsAt (w : AnnotatorWorld) (k : WorkloadKey) : Stage → Action → Prop
  | .took _, .list answer => ∃ namespaces, answer = .ok namespaces ∧ k.ns ∈ namespaces
  | .took u, .lookup now => u.ns = k.ns → ∀ workloads, w.wa.cachedWorkloads u.ns now = some workloads → k ∈ workloads
  | .fetching u, .fetch answer _ => u.ns = k.ns → k ∈ fetchedWorkloads u.ns answer
  | .workloads _ rest, .check now => rest.head? = some k → w.wa.debounced k now = false
  | .took u, .process now => u = k → w.wa.debounced u now = false
  | .read u snap, .patch _ => u = k → ∀ s, w.patched k = some s → s.after ≤ snap.after
  | _, _ => True

def Keeps (k : WorkloadKey) (w : AnnotatorWorld) : AnnotatorLabel → Prop
  | .worker i a => w.Known k → w.KeepsAt k (w.workers i) a
  | _ => True

/-- An update that covers the workload is on its way, or the workload has been
patched after the first `n` mutations. -/
def Due (w : AnnotatorWorld) (k : WorkloadKey) (n : Nat) : Prop :=
  (∃ u ∈ w.wa.pending, u.Covers k) ∨ (∃ i, (w.workers i).Carries k n) ∨
  ∃ s, w.patched k = some s ∧ n ≤ s.after

variable {w w' : AnnotatorWorld} {k : WorkloadKey} {n i : Nat} {st st' : Stage} {a : Action}

theorem Due.of_pending (h : w.Due k n) (hpending : ∀ u ∈ w.wa.pending, u ∈ w'.wa.pending)
    (hworkers : w'.workers = w.workers) (hpatched : w'.patched = w.patched) : w'.Due k n := by
  rcases h with ⟨u, hu, hc⟩ | hw | hp
  · exact .inl ⟨u, hpending u hu, hc⟩
  · exact .inr (.inl (hworkers ▸ hw))
  · exact .inr (.inr (hpatched ▸ hp))

theorem due_put (hcarries : st.Carries k n) : (w.put i st).Due k n :=
  .inr (.inl ⟨i, (w.workers_put_self i st).symm ▸ hcarries⟩)

theorem Due.put (h : w.Due k n) (hpending : ∀ u ∈ w.wa.pending, u ∈ w'.wa.pending)
    (hworkers : w'.workers = w.workers) (hpatched : w'.patched = w.patched)
    (hcarries : (w.workers i).Carries k n → (w'.put i st).Due k n) : (w'.put i st).Due k n := by
  rcases h with ⟨u, hu, hc⟩ | ⟨j, hj⟩ | hp
  · exact .inl ⟨u, hpending u hu, hc⟩
  · by_cases hji : j = i
    · subst hji
      exact hcarries hj
    · refine .inr (.inl ⟨j, ?_⟩)
      rw [workers_put_of_ne w' hji, hworkers]
      exact hj
  · exact .inr (.inr (by rw [AnnotatorWorld.put, hpatched]; exact hp))

theorem Due.send (h : w.Due k n) {u : WorkloadKey} (hroom : w.wa.pending.length < pendingCapacity)
    (hcarries : (w.workers i).Carries k n → u.Covers k ∨ st.Carries k n) :
    ({ w with wa := w.wa.queue u }.put i st).Due k n := by
  have hsent := WorkloadAnnotator.pending_queue hroom u
  refine h.put (fun v hv => ?_) rfl rfl (fun hc => ?_)
  · rw [hsent]
    exact List.mem_append_left _ hv
  · rcases hcarries hc with hc | hc
    · exact .inl ⟨u, hsent ▸ List.mem_append_right _ List.mem_cons_self, hc⟩
    · exact due_put hc

theorem Due.work (h : w.Due k n) (hn : n ≤ w.index.now) (ha : w.assumed (.worker i a) = true)
    (hk : w.KeepsAt k (w.workers i) a) (hw : Work w (w.workers i) a w' st) : (w'.put i st).Due k n := by
  generalize hst : w.workers i = st₀ at hk hw
  have hmoved (hcarries : st₀.Carries k n → (w.put i st).Due k n) : (w.put i st).Due k n :=
    h.put (fun _ => id) rfl rfl (fun hc => hcarries (hst ▸ hc))
  cases hw with
  | @take u rest hp =>
      rcases h with ⟨v, hv, hc⟩ | ⟨j, hj⟩ | hp
      · rw [hp, List.mem_cons] at hv
        rcases hv with rfl | hv
        · exact due_put hc
        · exact .inl ⟨v, hv, hc⟩
      · have hji : j ≠ i := by
          rintro rfl
          rw [hst] at hj
          exact hj
        refine .inr (.inl ⟨j, ?_⟩)
        rw [workers_put_of_ne _ hji]
        exact hj
      · exact .inr (.inr hp)
  | listFailed hu =>
      obtain ⟨_, hok, _⟩ := hk
      cases hok
  | list hu =>
      obtain ⟨_, hok, hmem⟩ := hk
      cases hok
      exact hmoved (fun hc => due_put ⟨hc, hmem⟩)
  | announce u ns rest =>
      refine h.send (of_decide_eq_true ha) (fun hc => ?_)
      rw [hst] at hc
      rcases List.mem_cons.mp hc.2 with rfl | hmem
      · exact .inl k.covers_ofNamespace
      · exact .inr ⟨hc.1, hmem⟩
  | cached hu hw => exact hmoved (fun hc => due_put ⟨hc, hk (hc.ns_eq hu) _ hw⟩)
  | uncached hu now => exact hmoved (fun hc => due_put ⟨hc, hc.ns_eq hu⟩)
  | fetch u answer now =>
      refine h.put (fun _ => id) rfl rfl (fun hc => ?_)
      rw [hst] at hc
      exact due_put ⟨hc.1, hk hc.2⟩
  | debounce hd u rest =>
      refine hmoved (fun hc => ?_)
      rcases List.mem_cons.mp hc.2 with rfl | hmem
      · rw [hk rfl] at hd
        cases hd
      · exact due_put ⟨hc.1, hmem⟩
  | pass u k' rest now => exact hmoved (fun hc => due_put ⟨hc.1, List.mem_cons.mp hc.2⟩)
  | send u k' rest =>
      refine h.send (of_decide_eq_true ha) (fun hc => ?_)
      rw [hst] at hc
      exact hc.2.imp (fun he => .inl he.symm) (fun hmem => ⟨hc.1, hmem⟩)
  | discard hu hd =>
      refine hmoved (fun hc => ?_)
      rw [hk (hc.eq hu)] at hd
      cases hd
  | process hu now => exact hmoved (fun hc => due_put (hc.eq hu))
  | read u => exact hmoved (fun hc => due_put ⟨hc, hn⟩)
  | patchFailed u snap err => cases ha
  | patch u snap =>
      rcases h with hq | ⟨j, hj⟩ | ⟨s, hs, hle⟩
      · exact .inl hq
      · by_cases hji : j = i
        · subst hji
          rw [hst] at hj
          obtain ⟨rfl, hle⟩ := hj
          exact .inr (.inr ⟨snap, Function.update_self .., hle⟩)
        · refine .inr (.inl ⟨j, ?_⟩)
          rw [workers_put_of_ne _ hji]
          exact hj
      · by_cases hu : k = u
        · subst hu
          exact .inr (.inr ⟨snap, Function.update_self .., hle.trans (hk rfl s hs)⟩)
        · exact .inr (.inr ⟨s, (Function.update_of_ne hu ..).trans hs, hle⟩)
  | stamp u now =>
      refine h.put (fun _ => id) rfl rfl (fun hc => ?_)
      rw [hst] at hc
      cases hc
  | announced u => exact hmoved nofun
  | resolved u => exact hmoved nofun

structure Past (w : AnnotatorWorld) : Prop where
  tracked : w.index.Tracked
  patched : ∀ {k s}, w.patched k = some s → w.index.Shows k.ns s
  read : ∀ {i u snap}, w.workers i = .read u snap → w.index.Shows u.ns snap

theorem Past.put (h : Past w) (hindex : w'.index = w.index) (hworkers : w'.workers = w.workers)
    (hpatched : ∀ {k s}, w'.patched k = some s → w.index.Shows k.ns s)
    (hread : ∀ {u snap}, st = .read u snap → w.index.Shows u.ns snap) : Past (w'.put i st) := by
  refine ⟨hindex ▸ h.tracked, fun hp => hindex ▸ hpatched hp, ?_⟩
  intro j u snap hj
  rw [AnnotatorWorld.put, hindex]
  by_cases hji : j = i
  · subst hji
    rw [workers_put_self] at hj
    exact hread hj
  · rw [workers_put_of_ne _ hji, hworkers] at hj
    exact h.read hj

theorem Past.work (h : Past w) (hw : Work w (w.workers i) a w' st) : Past (w'.put i st) := by
  generalize hst : w.workers i = st₀ at hw
  cases hw with
  | read u =>
      refine h.put rfl rfl h.patched ?_
      rintro _ _ ⟨⟩
      exact IndexLog.shows_read _
  | patch u snap =>
      refine h.put rfl rfl ?_ nofun
      intro k s hs
      by_cases hku : k = u
      · subst hku
        cases (Function.update_self ..).symm.trans hs
        exact h.read hst
      · exact h.patched ((Function.update_of_ne hku ..).symm.trans hs)
  | take | listFailed | list | announce | cached | uncached | fetch | debounce | pass | send | discard | process
  | patchFailed | stamp | announced | resolved => exact h.put rfl rfl h.patched nofun

theorem Known.of_put (h : (w'.put i st).Known k) (hworkers : w'.workers = w.workers)
    (hpatched : ∀ {s}, w'.patched k = some s → w.Known k) : w.Known k ∨ ∃ snap, st = .read k snap := by
  rcases h with ⟨s, hs⟩ | ⟨j, snap, hj⟩
  · exact .inl (hpatched hs)
  · by_cases hji : j = i
    · subst hji
      exact .inr ⟨snap, (workers_put_self ..).symm.trans hj⟩
    · rw [workers_put_of_ne _ hji, hworkers] at hj
      exact .inl (.inr ⟨j, snap, hj⟩)

theorem Known.of_work (h : (w'.put i st).Known k) (hw : Work w (w.workers i) a w' st) :
    w.Known k ∨ st = .read k (w.index.read k.ns) := by
  generalize hst : w.workers i = st₀ at hw
  cases hw with
  | read u =>
      refine (h.of_put rfl (fun hs => .inl ⟨_, hs⟩)).imp_right ?_
      rintro ⟨snap, ⟨⟩⟩
      rfl
  | patch u snap =>
      refine (h.of_put (w := w) rfl ?_).imp_right nofun
      intro s hs
      by_cases hku : k = u
      · subst hku
        exact .inr ⟨i, snap, hst⟩
      · exact .inl ⟨s, (Function.update_of_ne hku ..).symm.trans hs⟩
  | take | listFailed | list | announce | cached | uncached | fetch | debounce | pass | send | discard | process
  | patchFailed | stamp | announced | resolved =>
      exact (h.of_put rfl (fun hs => .inl ⟨_, hs⟩)).imp_right nofun

theorem Work.index_eq (hw : Work w st a w' st') : w'.index = w.index := by
  cases hw <;> rfl

/-- Every callback that has run and names the namespace of a known workload is
still to be applied to it, or has been. -/
structure Tended (k : WorkloadKey) (w : AnnotatorWorld) : Prop where
  past : Past w
  due : w.Known k → ∀ {n event}, (n, event) ∈ w.index.ran → Names event.constraint k.ns → w.Due k n

theorem Tended.work (h : Tended k w) (ha : w.assumed (.worker i a) = true) (hk : w.Keeps k (.worker i a))
    (hw : Work w (w.workers i) a w' st) : Tended k (w'.put i st) := by
  refine ⟨h.past.work hw, ?_⟩
  intro hknown n event hr hnames
  have hr : (n, event) ∈ w.index.ran := hw.index_eq ▸ hr
  have hn : n ≤ w.index.now := h.past.tracked.le_now (.inr hr)
  rcases hknown.of_work hw with hknown | rfl
  · exact (h.due hknown hr hnames).work hn ha (hk hknown) hw
  · exact due_put ⟨rfl, hn⟩

theorem Tended.callback (h : Tended k w) {event : IndexEvent} {index : IndexLog}
    (ha : w.assumed (.callback i) = true) (hd : w.index.deliver i = some (event, index)) :
    Tended k { w with index := index, wa := w.wa.onIndexChange event } := by
  obtain ⟨m, hm, _, _, _, hran⟩ := IndexLog.deliver_eq_some hd
  have hsent : (w.wa.onIndexChange event).pending = w.wa.pending ++ queuedUpdates event.constraint := by
    refine WorkloadAnnotator.pending_queueAll ?_
    obtain ⟨c, hc, he⟩ := Option.map_eq_some_iff.mp hd
    cases he
    rw [assumed, hc] at ha
    exact of_decide_eq_true ha
  refine ⟨⟨h.past.tracked.deliver hd, fun hp => (h.past.patched hp).deliver hd,
    fun hp => (h.past.read hp).deliver hd⟩, ?_⟩
  intro hknown n ev hr hnames
  rcases List.mem_cons.mp (hran ▸ hr) with he | hr
  · cases he
    left
    rcases WorkloadAnnotator.queuedUpdates_of_names hnames with hu | hu
    · exact ⟨_, hsent ▸ List.mem_append_right _ hu, k.covers_ofNamespace⟩
    · exact ⟨_, hsent ▸ List.mem_append_right _ hu, k.covers_clusterWide⟩
  · refine (h.due hknown hr hnames).of_pending (fun u hu => ?_) rfl rfl
    rw [hsent]
    exact List.mem_append_left _ hu

theorem Tended.step {l : AnnotatorLabel} (h : Tended k w) (ha : w.assumed l = true) (hk : w.Keeps k l)
    (hs : w.next l = some w') : Tended k w' := by
  cases l with
  | mutate m =>
      cases hs
      exact ⟨⟨h.past.tracked.mutate m, fun hp => (h.past.patched hp).mutate m,
        fun hp => (h.past.read hp).mutate m⟩, h.due⟩
  | callback i =>
      obtain ⟨⟨event, index⟩, hd, he⟩ := Option.map_eq_some_iff.mp hs
      cases he
      exact h.callback ha hd
  | call u now =>
      rw [next] at hs
      split at hs
      · cases hs
        exact h
      · cases hs
        exact ⟨⟨h.past.tracked, h.past.patched, h.past.read⟩, h.due⟩
  | submit u =>
      rw [next] at hs
      split at hs
      · cases hs
        refine ⟨⟨h.past.tracked, h.past.patched, h.past.read⟩, ?_⟩
        intro hknown n event hr hnames
        refine (h.due hknown hr hnames).of_pending (fun v hv => ?_) rfl rfl
        rw [WorkloadAnnotator.pending_queue (of_decide_eq_true ha)]
        exact List.mem_append_left _ hv
      · cases hs
  | worker i a =>
      obtain ⟨⟨w₁, st⟩, hw, he⟩ := Option.map_eq_some_iff.mp hs
      cases he
      exact h.work ha hk (.of_eq_some hw)

theorem tended_of_initial (h : Initial w) : Tended k w := by
  refine ⟨⟨h.index.tracked, ?_, ?_⟩, ?_⟩
  · simp [h.patched]
  · simp [h.workers]
  · simp [h.index.2.2]

theorem tended_of_reaches (h : system.Reaches (fun w l => w.assumed l = true ∧ w.Keeps k l) w) : Tended k w := by
  refine h.invariant (I := Tended k) (fun _ => tended_of_initial) ?_
  intro w l w' hw hg hs
  exact hw.step hg.1 hg.2 hs

def Covered (w : AnnotatorWorld) (k : WorkloadKey) : Prop :=
  (∃ u ∈ w.wa.pending, u.Covers k) ∨ ∃ i u, (w.workers i).update = some u ∧ u.Covers k

theorem Due.covered (h : w.Due k n) (hlt : ∀ s, w.patched k = some s → s.after < n) : w.Covered k := by
  rcases h with hq | ⟨i, hi⟩ | ⟨s, hs, hle⟩
  · exact .inl hq
  · refine .inr ⟨i, ?_⟩
    cases hst : w.workers i with
    | idle | patched u =>
        rw [hst] at hi
        cases hi
    | took u =>
        rw [hst] at hi
        exact ⟨u, rfl, hi⟩
    | namespaces u | fetching u | workloads u | sending u =>
        rw [hst] at hi
        exact ⟨u, rfl, hi.1⟩
    | checked u =>
        rw [hst] at hi
        exact ⟨u, rfl, .inl hi⟩
    | read u =>
        rw [hst] at hi
        exact ⟨u, rfl, .inl hi.1⟩
  · exact absurd (hlt s hs) (Nat.not_lt.mpr hle)

/-- The annotations of a workload show a past state of the index. If the view of
its namespace changed since and the callbacks of the change have run, an update
that covers the workload is on its way, unless no callback of the change names the
namespace. The runs are those in which no step loses the workload. -/
theorem annotations_covered (k : WorkloadKey)
    (h : system.Reaches (fun w l => w.assumed l = true ∧ w.Keeps k l) w) {s : Snapshot}
    (hs : w.patched k = some s) :
    w.index.Shows k.ns s ∧ ∀ n m, w.index.log[n]? = some m → s.after ≤ n →
      ¬ ((w.index.atTime n).byNamespace k.ns).Perm ((w.index.atTime (n + 1)).byNamespace k.ns) →
      (∀ event, (n + 1, event) ∉ w.index.callbacks) →
      w.Covered k ∨
      ((∃ event ∈ ((w.index.atTime n).apply m).2, matchesNamespace event.constraint k.ns = true) ∧
        ∀ event ∈ ((w.index.atTime n).apply m).2, matchesNamespace event.constraint k.ns = true →
          Omits event.constraint k.ns) ∨
      ∃ c old, m = .upsert c ∧ (w.index.atTime n).byUID.lookup c.uid = some old ∧
        matchesNamespace old k.ns = true ∧ matchesNamespace c k.ns = false := by
  have ht := tended_of_reaches h
  refine ⟨ht.past.patched hs, ?_⟩
  intro n m hm hle hdiff hran
  by_cases hnamed : ∃ event ∈ ((w.index.atTime n).apply m).2, Names event.constraint k.ns
  · left
    obtain ⟨event, he, hnames⟩ := hnamed
    have hmem : (n + 1, event) ∈ w.index.ran :=
      (ht.past.tracked.emitted ⟨n, m, rfl, hm, he⟩).resolve_left (hran event)
    refine (ht.due (.inl ⟨s, hs⟩) hmem hnames).covered ?_
    intro s' hs'
    cases hs.symm.trans hs'
    exact Nat.lt_succ_of_le hle
  · right
    rw [IndexLog.atTime_succ hm] at hdiff
    refine (event_of_changed hdiff).imp_left (fun hmatched => ⟨hmatched, ?_⟩)
    intro event he hmatch
    exact (names_or_omits hmatch).resolve_left (fun hn => hnamed ⟨event, he, hn⟩)

def started : AnnotatorWorld := { index := { start := .new }, wa := .new 0 }

theorem initial_started : Initial started := ⟨⟨rfl, rfl, rfl⟩, rfl, rfl⟩

def web (ns : String) : WorkloadKey := ⟨ns, "Deployment", "web"⟩

def reading (k : WorkloadKey) : List AnnotatorLabel :=
  [.call k 0, .submit k, .worker 0 .take, .worker 0 (.process 0), .worker 0 .read]

def patching (k : WorkloadKey) : List AnnotatorLabel :=
  reading k ++ [.worker 0 (.patch (.ok ())), .worker 0 (.stamp 0)]

def storing (scope : String) : List AnnotatorLabel :=
  [.mutate (.upsert (sampleConstraint scope)), .callback 0]

def listing (i : Nat) (answer : String → Except String (List String)) : List AnnotatorLabel :=
  [.worker i .take, .worker i (.lookup 1), .worker i (.fetch answer 1)]

def listsWeb (kind : String) : Except String (List String) := if kind = "Deployment" then .ok ["web"] else .ok []

/-- The steps at which a run of the sample workload cannot lose it. -/
def plain (w : AnnotatorWorld) (l : AnnotatorLabel) : Bool :=
  w.assumed l && match l with
    | .worker i (.process now) => (w.workers i).update.all (fun u => !w.wa.debounced u now)
    | .worker _ (.patch _) => (w.patched (web "team")).isNone
    | .worker _ .take | .worker _ .read | .worker _ (.stamp _) => true
    | .worker _ _ => false
    | _ => true

theorem keeps_of_plain (w : AnnotatorWorld) (l : AnnotatorLabel) (h : w.plain l = true) :
    w.assumed l = true ∧ w.Keeps (web "team") l := by
  obtain ⟨ha, h⟩ := Bool.and_eq_true_iff.mp h
  refine ⟨ha, ?_⟩
  cases l with
  | worker i a =>
      intro _
      cases a with
      | process now =>
          cases hst : w.workers i with
          | took u =>
              intro _
              simpa [hst, Stage.update] using h
          | _ => trivial
      | patch answer =>
          cases hst : w.workers i with
          | read u snap =>
              intro _ s hs
              simp [hs] at h
          | _ => trivial
      | take | read | stamp => cases w.workers i <;> trivial
      | list | announce | lookup | fetch | check | send | finish => cases h
  | _ => trivial

theorem changed_runs :
    (System.exec next plain started (patching (web "team") ++ storing "team")).isSome = true := by decide

def changed : AnnotatorWorld :=
  (System.exec next plain started (patching (web "team") ++ storing "team")).get changed_runs

theorem annotations_covered_team : changed.index.Shows "team" ⟨0, []⟩ ∧ (changed.Covered (web "team") ∨
    ((∃ event ∈ ((changed.index.atTime 0).apply (.upsert (sampleConstraint "team"))).2,
        matchesNamespace event.constraint "team" = true) ∧
      ∀ event ∈ ((changed.index.atTime 0).apply (.upsert (sampleConstraint "team"))).2,
        matchesNamespace event.constraint "team" = true → Omits event.constraint "team") ∨
    ∃ c old, Mutation.upsert (sampleConstraint "team") = .upsert c ∧
      (changed.index.atTime 0).byUID.lookup c.uid = some old ∧
      matchesNamespace old "team" = true ∧ matchesNamespace c "team" = false) := by
  have h : system.Reaches (fun w l => w.assumed l = true ∧ w.Keeps (web "team") l) changed :=
    (System.Reaches.init initial_started).exec keeps_of_plain (Option.some_get changed_runs).symm
  have hpatched : changed.patched (web "team") = some ⟨0, []⟩ := rfl
  have hlog : changed.index.log = [.upsert (sampleConstraint "team")] := rfl
  have hcallbacks : changed.index.callbacks = [] := rfl
  have hdiff : ¬ ((changed.index.atTime 0).byNamespace "team").Perm ((changed.index.atTime 1).byNamespace "team") := by
    rw [IndexLog.atTime_succ (by rw [hlog]; rfl)]
    exact byNamespace_sampleConstraint "team" "team" (by decide)
  have hc := annotations_covered (web "team") h hpatched
  refine ⟨hc.1, hc.2 0 _ (by rw [hlog]; rfl) (Nat.le_refl _) hdiff ?_⟩
  simp [hcallbacks]

theorem not_covered (hpending : w.wa.pending = []) (hidle : ∀ i, w.workers i = .idle) : ¬ w.Covered k := by
  rintro (⟨u, hu, _⟩ | ⟨i, u, hu, _⟩)
  · rw [hpending] at hu
    cases hu
  · rw [hidle i] at hu
    cases hu

def Stale (w : AnnotatorWorld) (k : WorkloadKey) : Prop :=
  w.index.callbacks = [] ∧ ∃ s, w.patched k = some s ∧ ¬ s.constraints.Perm (w.index.current.byNamespace k.ns)

/-- The trace is a run with room in the channel and no failed patch, at the end of
which nothing will update a stale workload. -/
def LeavesStale (ls : List AnnotatorLabel) (k : WorkloadKey) : Prop :=
  ∃ w, System.exec next assumed started ls = some w ∧ system.Reaches (fun w l => w.assumed l = true) w ∧
    w.Stale k ∧ ¬ w.Covered k

theorem leavesStale_of_exec {ls : List AnnotatorLabel} (hruns : (System.exec next assumed started ls).isSome = true)
    (hcallbacks : ((System.exec next assumed started ls).get hruns).index.callbacks = []) {s : Snapshot}
    (hpatched : ((System.exec next assumed started ls).get hruns).patched k = some s)
    (hlength : s.constraints.length ≠
      (((System.exec next assumed started ls).get hruns).index.current.byNamespace k.ns).length)
    (hpending : ((System.exec next assumed started ls).get hruns).wa.pending = [])
    (hidle : ∀ i, ((System.exec next assumed started ls).get hruns).workers i = .idle) : LeavesStale ls k := by
  have he := (Option.some_get hruns).symm
  refine ⟨_, he, (System.Reaches.init initial_started).exec (fun _ _ => id) he, ⟨hcallbacks, s, hpatched, ?_⟩,
    not_covered hpending hidle⟩
  exact fun hperm => hlength hperm.length_eq

def debouncedRun : List AnnotatorLabel :=
  patching (web "team") ++ storing "team" ++ listing 0 listsWeb ++ [.worker 0 (.check 1), .worker 0 .finish]

def unlistedRun : List AnnotatorLabel :=
  patching (web "team") ++ storing "team" ++ listing 0 (fun _ => .error "forbidden") ++ [.worker 0 .finish]

/-- A worker patches what it read before the change, after another has patched the change. -/
def overtakenRun : List AnnotatorLabel :=
  reading (web "team") ++ storing "team" ++ listing 1 listsWeb ++
    [.worker 1 (.check 1), .worker 1 .send, .worker 1 .finish, .worker 1 .take, .worker 1 (.process 1),
      .worker 1 .read, .worker 1 (.patch (.ok ())), .worker 1 (.stamp 1), .worker 0 (.patch (.ok ())),
      .worker 0 (.stamp 1)]

def omittedRun : List AnnotatorLabel :=
  patching (web "other") ++ storing "" ++ listing 0 listsWeb ++
    [.worker 0 (.check 1), .worker 0 .send, .worker 0 .finish, .worker 0 .take, .worker 0 (.process 1),
      .worker 0 .read, .worker 0 (.patch (.ok ())), .worker 0 (.stamp 1)]

def movedRun : List AnnotatorLabel :=
  storing "apps" ++ listing 0 (fun _ => .ok []) ++ [.worker 0 .finish] ++ listing 0 (fun _ => .ok []) ++
    [.worker 0 .finish] ++ patching (web "apps") ++ storing "team" ++
    [.worker 0 .take, .worker 0 (.lookup 1), .worker 0 .finish]

theorem annotations_left_stale : LeavesStale debouncedRun (web "team") ∧ LeavesStale unlistedRun (web "team") ∧
    LeavesStale overtakenRun (web "team") ∧ LeavesStale omittedRun (web "other") ∧
    LeavesStale movedRun (web "apps") := by
  have hidle {f : Nat → Stage} (h0 : f 0 = .idle) (h1 : f 1 = .idle) (h : ∀ i, f (i + 2) = .idle) (i : Nat) :
      f i = .idle := by
    match i with
    | 0 => exact h0
    | 1 => exact h1
    | i + 2 => exact h i
  refine ⟨?_, ?_, ?_, ?_, ?_⟩
  · exact leavesStale_of_exec (by decide) rfl rfl (by decide) rfl (hidle rfl rfl (fun _ => rfl))
  · exact leavesStale_of_exec (by decide) rfl rfl (by decide) rfl (hidle rfl rfl (fun _ => rfl))
  · exact leavesStale_of_exec (by decide) rfl rfl (by decide) rfl (hidle rfl rfl (fun _ => rfl))
  · exact leavesStale_of_exec (by decide) rfl rfl (by decide) rfl (hidle rfl rfl (fun _ => rfl))
  · exact leavesStale_of_exec (by decide) rfl rfl (by decide) rfl (hidle rfl rfl (fun _ => rfl))

end AnnotatorWorld

end Nightjar.Notifier
