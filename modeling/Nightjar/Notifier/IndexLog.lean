import Nightjar.Notifier.Triggers

namespace Nightjar.Notifier

/-- The index while its callbacks run later than its mutations. A mutation is an
atomic write; the events it emits wait, with its number, until their callback runs. -/
structure IndexLog where
  start : Indexer
  log : List Mutation := []
  callbacks : List (Nat × IndexEvent) := []
  ran : List (Nat × IndexEvent) := []

structure Snapshot where
  after : Nat
  constraints : List Constraint

namespace IndexLog

def atTime (s : IndexLog) (n : Nat) : Indexer := s.start.applyAll (s.log.take n)

def now (s : IndexLog) : Nat := s.log.length

def current (s : IndexLog) : Indexer := s.atTime s.now

def mutate (s : IndexLog) (m : Mutation) : IndexLog :=
  { s with
    log := s.log ++ [m]
    callbacks := s.callbacks ++ (s.current.apply m).2.map (s.now + 1, ·) }

def deliver (s : IndexLog) (i : Nat) : Option (IndexEvent × IndexLog) :=
  (s.callbacks[i]?).map (fun c => (c.2, { s with callbacks := s.callbacks.eraseIdx i, ran := c :: s.ran }))

def read (s : IndexLog) (ns : String) : Snapshot := ⟨s.now, s.current.byNamespace ns⟩

/-- The snapshot shows the namespace as it was at some time up to now. -/
def Shows (s : IndexLog) (ns : String) (snap : Snapshot) : Prop :=
  snap.after ≤ s.now ∧ snap.constraints = (s.atTime snap.after).byNamespace ns

variable {s s' : IndexLog}

theorem atTime_mutate {n : Nat} (hn : n ≤ s.now) (m : Mutation) : (s.mutate m).atTime n = s.atTime n := by
  rw [atTime, mutate, List.take_append_of_le_length hn]
  rfl

theorem atTime_succ {n : Nat} {m : Mutation} (hm : s.log[n]? = some m) :
    s.atTime (n + 1) = ((s.atTime n).apply m).1 := by
  rw [atTime, List.take_add_one, hm]
  exact Indexer.applyAll_concat ..

theorem now_mutate (m : Mutation) : (s.mutate m).now = s.now + 1 := by
  simp [now, mutate]

theorem shows_read (ns : String) : s.Shows ns (s.read ns) := ⟨Nat.le_refl _, rfl⟩

theorem Shows.mutate {ns : String} {snap : Snapshot} (h : s.Shows ns snap) (m : Mutation) :
    (s.mutate m).Shows ns snap := by
  refine ⟨?_, ?_⟩
  · rw [now_mutate]
    exact Nat.le_succ_of_le h.1
  · rw [atTime_mutate h.1]
    exact h.2

theorem deliver_eq_some {i : Nat} {event : IndexEvent} (h : s.deliver i = some (event, s')) :
    ∃ n, (n, event) ∈ s.callbacks ∧ s'.start = s.start ∧ s'.log = s.log ∧
      s'.callbacks = s.callbacks.eraseIdx i ∧ s'.ran = (n, event) :: s.ran := by
  obtain ⟨⟨n, ev⟩, hi, he⟩ := Option.map_eq_some_iff.mp h
  cases he
  exact ⟨n, List.mem_of_getElem? hi, rfl, rfl, rfl, rfl⟩

theorem Shows.deliver {i : Nat} {event : IndexEvent} {ns : String} {snap : Snapshot} (h : s.Shows ns snap)
    (hd : s.deliver i = some (event, s')) : s'.Shows ns snap := by
  obtain ⟨_, _, hstart, hlog, _⟩ := deliver_eq_some hd
  rw [Shows, now, atTime, hstart, hlog]
  exact h

theorem mem_deliver {i n : Nat} {event ev : IndexEvent} (h : s.deliver i = some (event, s'))
    (hm : (n, ev) ∈ s.callbacks ∨ (n, ev) ∈ s.ran) : (n, ev) ∈ s'.callbacks ∨ (n, ev) ∈ s'.ran := by
  obtain ⟨c, hi, he⟩ := Option.map_eq_some_iff.mp h
  cases he
  obtain ⟨hlt, rfl⟩ := List.getElem?_eq_some_iff.mp hi
  rcases hm with hm | hm
  · rw [← (List.getElem_cons_eraseIdx_perm hlt).mem_iff, List.mem_cons] at hm
    rcases hm with hm | hm
    · exact .inr (hm ▸ List.mem_cons_self)
    · exact .inl hm
  · exact .inr (List.mem_cons_of_mem _ hm)

def Emitted (s : IndexLog) (n : Nat) (event : IndexEvent) : Prop :=
  ∃ k m, n = k + 1 ∧ s.log[k]? = some m ∧ event ∈ ((s.atTime k).apply m).2

/-- Callbacks have the numbers of mutations made so far, and no event is lost. -/
structure Tracked (s : IndexLog) : Prop where
  le_now : ∀ {n event}, (n, event) ∈ s.callbacks ∨ (n, event) ∈ s.ran → n ≤ s.now
  emitted : ∀ {n event}, s.Emitted n event → (n, event) ∈ s.callbacks ∨ (n, event) ∈ s.ran

def Fresh (s : IndexLog) : Prop := s.log = [] ∧ s.callbacks = [] ∧ s.ran = []

theorem Fresh.tracked (h : s.Fresh) : s.Tracked := by
  obtain ⟨hlog, hcallbacks, hran⟩ := h
  refine ⟨?_, ?_⟩
  · simp [hcallbacks, hran]
  · rintro n event ⟨k, m, _, hm, _⟩
    simp [hlog] at hm

theorem emitted_mutate {m : Mutation} {n : Nat} {event : IndexEvent} (h : (s.mutate m).Emitted n event) :
    s.Emitted n event ∨ (n, event) ∈ (s.current.apply m).2.map (s.now + 1, ·) := by
  obtain ⟨k, m', rfl, hm, hevent⟩ := h
  have hk : k ≤ s.now := by
    obtain ⟨hlt, _⟩ := List.getElem?_eq_some_iff.mp hm
    exact Nat.le_of_lt_succ (hlt.trans_eq (now_mutate m))
  rw [atTime_mutate hk] at hevent
  rcases Nat.lt_or_eq_of_le hk with hlt | rfl
  · rw [mutate, List.getElem?_append_left hlt] at hm
    exact .inl ⟨k, m', rfl, hm, hevent⟩
  · have hlast : (s.log ++ [m])[s.log.length]? = some m := List.getElem?_concat_length
    cases hlast.symm.trans hm
    exact .inr (List.mem_map_of_mem hevent)

theorem Tracked.mutate (h : s.Tracked) (m : Mutation) : (s.mutate m).Tracked := by
  refine ⟨?_, ?_⟩
  · intro n event hm
    rw [now_mutate]
    have hold (hm : (n, event) ∈ s.callbacks ∨ (n, event) ∈ s.ran) : n ≤ s.now + 1 :=
      Nat.le_succ_of_le (h.le_now hm)
    rcases hm with hm | hm
    · rcases List.mem_append.mp hm with hm | hm
      · exact hold (.inl hm)
      · obtain ⟨_, _, he⟩ := List.mem_map.mp hm
        cases he
        exact Nat.le_refl _
    · exact hold (.inr hm)
  · intro n event he
    rcases emitted_mutate he with he | hnew
    · exact (h.emitted he).imp_left (List.mem_append_left _)
    · exact .inl (List.mem_append_right _ hnew)

theorem Tracked.deliver (h : s.Tracked) {i : Nat} {event : IndexEvent} (hd : s.deliver i = some (event, s')) :
    s'.Tracked := by
  obtain ⟨n, hn, hstart, hlog, hcb, hran⟩ := deliver_eq_some hd
  refine ⟨?_, ?_⟩
  · intro k ev hm
    rw [now, hlog]
    rw [hcb, hran, List.mem_cons] at hm
    rcases hm with hm | hm | hm
    · exact h.le_now (.inl (List.mem_of_mem_eraseIdx hm))
    · cases hm
      exact h.le_now (.inl hn)
    · exact h.le_now (.inr hm)
  · intro k ev he
    refine mem_deliver hd (h.emitted ?_)
    unfold Emitted atTime at he
    rw [hstart, hlog] at he
    exact he

end IndexLog

end Nightjar.Notifier
