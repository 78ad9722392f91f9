import Nightjar.Lib.Tables
import Mathlib.Data.List.Induction
import Mathlib.Algebra.Order.Group.Int

namespace Nightjar.Lib

/-- A cache of the times at which keys were last marked. A key marked less than
`window` ago is refused; a sweep at a time forgets what was marked before
`cutoff` of it. -/
structure Dedupe where
  window : Int
  cutoff : Int → Int
  cutoff_le : ∀ now, cutoff now ≤ now - window

namespace Dedupe

variable {κ : Type} [DecidableEq κ]

abbrev Cache (κ : Type) := AList (fun _ : κ => Int)

inductive Op (κ : Type) where
  | call (k : κ)
  | sweep

structure Answer (κ : Type) where
  key : κ
  time : Int
  ok : Bool

/-- A cache with the answers it has given, the last first. -/
structure Run (κ : Type) where
  cache : Cache κ := ∅
  log : List (Answer κ) := []

def Op.isCall : Op κ → Bool
  | call _ => true
  | sweep => false

def calls (ops : List (Int × Op κ)) : List (Int × Op κ) := ops.filter (·.2.isCall)

def tryMark (d : Dedupe) (cache : Cache κ) (k : κ) (now : Int) : Bool × Cache κ :=
  match cache.lookup k with
  | some seenAt => if now - seenAt < d.window then (false, cache) else (true, cache.insert k now)
  | none => (true, cache.insert k now)

def sweep (d : Dedupe) (cache : Cache κ) (now : Int) : Cache κ :=
  ⟨cache.entries.filter (fun e => !decide (e.2 < d.cutoff now)), cache.nodupKeys.sublist List.filter_sublist⟩

def Run.call (d : Dedupe) (r : Run κ) (k : κ) (now : Int) : Run κ :=
  ⟨(d.tryMark r.cache k now).2, ⟨k, now, (d.tryMark r.cache k now).1⟩ :: r.log⟩

def Run.sweep (d : Dedupe) (r : Run κ) (now : Int) : Run κ := { r with cache := d.sweep r.cache now }

def Run.step (d : Dedupe) (r : Run κ) (op : Int × Op κ) : Run κ :=
  match op.2 with
  | .call k => r.call d k op.1
  | .sweep => r.sweep d op.1

def run (d : Dedupe) (ops : List (Int × Op κ)) : Run κ := ops.foldl (Run.step d) {}

/-- No call for the key was answered with true in the window that ends now. -/
def Unmarked (d : Dedupe) (log : List (Answer κ)) (k : κ) (now : Int) : Prop :=
  ∀ s, ⟨k, s, true⟩ ∈ log → ¬ (now - d.window < s ∧ s ≤ now)

/-- An entry is a time at which the key was marked. What is not covered by an
entry at least as late has left the window. -/
structure Tracks (d : Dedupe) (r : Run κ) (clock : Int) : Prop where
  marked : ∀ {k s}, r.cache.lookup k = some s → ⟨k, s, true⟩ ∈ r.log
  past : ∀ {k s ok}, ⟨k, s, ok⟩ ∈ r.log → s ≤ clock
  covered : ∀ {k s}, ⟨k, s, true⟩ ∈ r.log → s ≤ clock - d.window ∨ ∃ s', r.cache.lookup k = some s' ∧ s ≤ s'

theorem lookup_sweep (d : Dedupe) (cache : Cache κ) (now : Int) (k : κ) :
    (d.sweep cache now).lookup k = (cache.lookup k).filter (fun s => !decide (s < d.cutoff now)) := by
  exact Table.lookup_restrict cache (fun _ s => !decide (s < d.cutoff now)) k

section Call
variable (d : Dedupe) (cache : Cache κ) (k : κ) (now : Int)

theorem tryMark_fst : (d.tryMark cache k now).1 = true ↔ ∀ s, cache.lookup k = some s → d.window ≤ now - s := by
  rw [tryMark]
  cases cache.lookup k with
  | none => simp
  | some s =>
      simp only
      split
      · simp_all
      · simp_all

theorem tryMark_snd : (d.tryMark cache k now).2 =
    if (d.tryMark cache k now).1 = true then cache.insert k now else cache := by
  rw [tryMark]
  split
  · split <;> rfl
  · rfl

theorem lookup_tryMark (k' : κ) : (d.tryMark cache k now).2.lookup k' =
    if (d.tryMark cache k now).1 = true ∧ k' = k then some now else cache.lookup k' := by
  rw [tryMark_snd]
  by_cases hok : (d.tryMark cache k now).1 = true
  · simp only [hok, true_and]
    exact Table.lookup_insert cache k k' now
  · rw [if_neg hok, if_neg (fun h => hok h.1)]

theorem tryMark_fst_congr {cache' : Cache κ} {k' : κ} (h : cache.lookup k = cache'.lookup k') :
    (d.tryMark cache k now).1 = (d.tryMark cache' k' now).1 := by
  rw [Bool.eq_iff_iff, tryMark_fst, tryMark_fst, h]

end Call

variable {d : Dedupe} {r : Run κ} {clock now : Int} {k : κ}

theorem Tracks.tryMark_iff (h : Tracks d r clock) (hnow : clock ≤ now) :
    (d.tryMark r.cache k now).1 = true ↔ d.Unmarked r.log k now := by
  rw [tryMark_fst]
  constructor
  · intro hall s hs hin
    rcases h.covered hs with hold | ⟨s', hl, hle⟩
    · omega
    · have hgap := hall s' hl
      omega
  · intro hun s hl
    have hs := h.marked hl
    have hpast := h.past hs
    have hout := hun s hs
    omega

theorem lookup_call {k' : κ} : (r.call d k now).cache.lookup k' =
    if (d.tryMark r.cache k now).1 = true ∧ k' = k then some now else r.cache.lookup k' := by
  exact lookup_tryMark d r.cache k now k'

theorem mark_mem_call {k' : κ} {s : Int} : ⟨k', s, true⟩ ∈ (r.call d k now).log ↔
    (d.tryMark r.cache k now).1 = true ∧ k' = k ∧ s = now ∨ ⟨k', s, true⟩ ∈ r.log := by
  rw [Run.call, List.mem_cons, Answer.mk.injEq]
  refine or_congr_left ⟨fun ⟨hk, hs, hok⟩ => ⟨hok.symm, hk, hs⟩, fun ⟨hok, hk, hs⟩ => ⟨hk, hs, hok.symm⟩⟩

namespace Tracks

theorem start (clock : Int) : Tracks d ({} : Run κ) clock where
  marked hl := by simp at hl
  past hm := by cases hm
  covered hm := by cases hm

theorem later (h : Tracks d r clock) (hnow : clock ≤ now) : Tracks d r now where
  marked := h.marked
  past hm := (h.past hm).trans hnow
  covered hm := (h.covered hm).imp_left (fun hs => by omega)

theorem call (h : Tracks d r clock) (hnow : clock ≤ now) (k : κ) : Tracks d (r.call d k now) now where
  marked hl := by
    rw [lookup_call] at hl
    rw [mark_mem_call]
    split at hl
    · rename_i hok
      cases hl
      exact .inl ⟨hok.1, hok.2, rfl⟩
    · exact .inr (h.marked hl)
  past hm := by
    rcases List.mem_cons.mp hm with he | hm
    · cases he
      exact le_refl now
    · exact (h.past hm).trans hnow
  covered := by
    intro k' s hm
    rw [lookup_call]
    rcases mark_mem_call.mp hm with ⟨hok, hk, rfl⟩ | hold
    · exact .inr ⟨s, if_pos ⟨hok, hk⟩, le_refl s⟩
    · split
      · exact .inr ⟨now, rfl, (h.past hold).trans hnow⟩
      · exact (h.later hnow).covered hold

theorem sweep (h : Tracks d r clock) (hnow : clock ≤ now) : Tracks d (r.sweep d now) now where
  marked hl := by
    rw [Run.sweep, lookup_sweep, Option.filter_eq_some_iff] at hl
    exact h.marked hl.1
  past hm := (h.past hm).trans hnow
  covered hm := by
    simp only [Run.sweep, lookup_sweep, Option.filter_eq_some_iff]
    have hcut := d.cutoff_le now
    rcases (h.later hnow).covered hm with hs | ⟨s', hl, hle⟩
    · exact .inl hs
    · by_cases hgone : s' < d.cutoff now
      · exact .inl (by omega)
      · exact .inr ⟨s', ⟨hl, by simpa using hgone⟩, hle⟩

theorem step (h : Tracks d r clock) {op : Int × Op κ} (hnow : clock ≤ op.1) : Tracks d (r.step d op) op.1 := by
  rw [Run.step]
  split
  · exact h.call hnow _
  · exact h.sweep hnow

end Tracks

theorem run_concat (d : Dedupe) (ops : List (Int × Op κ)) (op : Int × Op κ) :
    d.run (ops ++ [op]) = (d.run ops).step d op := by
  rw [run, List.foldl_append]
  rfl

omit [DecidableEq κ] in
theorem pairwise_concat {ops : List (Int × Op κ)} {op : Int × Op κ} (h : (ops ++ [op]).Pairwise (·.1 ≤ ·.1)) :
    ops.Pairwise (·.1 ≤ ·.1) ∧ ∀ o ∈ ops, o.1 ≤ op.1 := by
  rw [List.pairwise_append] at h
  exact ⟨h.1, fun o ho => h.2.2 o ho op List.mem_cons_self⟩

theorem tracks_run {ops : List (Int × Op κ)} (hops : ops.Pairwise (·.1 ≤ ·.1)) (hclock : ∀ o ∈ ops, o.1 ≤ clock) :
    Tracks d (d.run ops) clock := by
  induction ops using List.reverseRecOn generalizing clock with
  | nil => exact .start clock
  | append_singleton ops op ih =>
      obtain ⟨hsorted, hbefore⟩ := pairwise_concat hops
      rw [run_concat]
      exact ((ih hsorted hbefore).step (le_refl _)).later (hclock op (by simp))

/-- A call is answered with true exactly when the key is unmarked in the window. -/
theorem tryMark_run_iff {ops : List (Int × Op κ)} (hops : ops.Pairwise (·.1 ≤ ·.1)) (hnow : ∀ o ∈ ops, o.1 ≤ now)
    (k : κ) : (d.tryMark (d.run ops).cache k now).1 = true ↔ d.Unmarked (d.run ops).log k now :=
  (tracks_run hops hnow).tryMark_iff (le_refl now)

omit [DecidableEq κ] in
theorem calls_concat_call (ops : List (Int × Op κ)) (t : Int) (k : κ) :
    calls (ops ++ [(t, .call k)]) = calls ops ++ [(t, .call k)] := by
  simp [calls, Op.isCall]

omit [DecidableEq κ] in
theorem calls_concat_sweep (ops : List (Int × Op κ)) (t : Int) : calls (ops ++ [(t, .sweep)]) = calls ops := by
  simp [calls, Op.isCall]

theorem log_run_calls {ops : List (Int × Op κ)} (hops : ops.Pairwise (·.1 ≤ ·.1)) :
    (d.run ops).log = (d.run (calls ops)).log := by
  induction ops using List.reverseRecOn with
  | nil => rfl
  | append_singleton ops op ih =>
      obtain ⟨hsorted, hbefore⟩ := pairwise_concat hops
      have hlog := ih hsorted
      obtain ⟨now, op⟩ := op
      cases op with
      | sweep =>
          rw [calls_concat_sweep, run_concat, ← hlog]
          rfl
      | call k =>
          have hsub : (calls ops).Sublist ops := List.filter_sublist
          have hsame : (d.tryMark (d.run ops).cache k now).1 = (d.tryMark (d.run (calls ops)).cache k now).1 := by
            rw [Bool.eq_iff_iff, tryMark_run_iff hsorted hbefore, hlog,
              ← tryMark_run_iff (hsorted.sublist hsub) (fun o ho => hbefore o (hsub.subset ho))]
          rw [calls_concat_call, run_concat, run_concat]
          simp only [Run.step, Run.call, hsame, hlog]

/-- Two marks of a key are a window apart. -/
def Spaced (d : Dedupe) (log : List (Answer κ)) : Prop :=
  log.Pairwise (fun last first => last.key = first.key → last.ok = true → first.ok = true →
    first.time + d.window ≤ last.time)

theorem Spaced.call (h : d.Spaced r.log) (ht : Tracks d r clock) (hnow : clock ≤ now) (k : κ) :
    d.Spaced (r.call d k now).log := by
  refine List.pairwise_cons.mpr ⟨?_, h⟩
  rintro ⟨k', s, ok⟩ hm rfl hlast rfl
  have hout := (ht.tryMark_iff hnow).mp hlast s hm
  have hpast := ht.past hm
  show s + d.window ≤ now
  omega

end Dedupe

end Nightjar.Lib
