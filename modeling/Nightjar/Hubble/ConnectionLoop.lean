import Mathlib.Data.List.Chain
import Mathlib.Data.List.Infix
import Mathlib.Tactic.Positivity
import Mathlib.Tactic.Ring

namespace Nightjar.Hubble

/-- The intervals of the client's options. They are `time.Duration`s: nanoseconds in an `int64`. -/
structure ClientOptions where
  reconnectInterval : Int
  maxReconnectInterval : Int
  int64 : maxReconnectInterval < 9223372036854775808

def defaultClientOptions : ClientOptions where
  reconnectInterval := 1000000000
  maxReconnectInterval := 60000000000
  int64 := by decide

inductive StreamEnd where
  | eof
  | error (err : String)

/-- What the relay makes of one call of `GetFlows`. Of each response it says whether it carries
a flow. -/
inductive Stream where
  | refused (err : String)
  | opened (responses : List Bool) (last : StreamEnd)

def streamFlows : Stream → Option String
  | .refused err => some s!"GetFlows: {err}"
  | .opened _ .eof => none
  | .opened _ (.error err) => some s!"stream recv: {err}"

def Stream.flows : Stream → Nat
  | .refused _ => 0
  | .opened responses _ => responses.count true

def Stream.failed (s : Stream) : Bool := (streamFlows s).isSome && s.flows == 0

/-- A turn of the loop that is not stopped. After a connect error the wait is over. -/
inductive Turn where
  | connectError
  | streamed (s : Stream)

/-- Where a run is stopped, or looked at no further. -/
inductive Stop where
  | atTop
  | waiting
  | streaming

structure Attempt where
  failed : Bool
  wait : Option Int

def Stop.attempts : Stop → List Attempt
  | .atTop => []
  | .waiting => [⟨true, none⟩]
  | .streaming => [⟨false, none⟩]

namespace ClientOptions

variable (opts : ClientOptions)

/-- The product is one of `int64` values. -/
def nextReconnectInterval (current : Int) : Int :=
  let next := (current * 2).bmod 18446744073709551616
  if next > opts.maxReconnectInterval then opts.maxReconnectInterval else next

def connectionLoop (interval : Int) : List Turn → Stop → List Attempt
  | [], stop => stop.attempts
  | .connectError :: turns, stop =>
    ⟨true, some interval⟩ :: connectionLoop (opts.nextReconnectInterval interval) turns stop
  | .streamed s :: turns, stop =>
    ⟨s.failed, none⟩ :: connectionLoop opts.reconnectInterval turns stop

def attempts (turns : List Turn) (stop : Stop) : List Attempt :=
  opts.connectionLoop opts.reconnectInterval turns stop

/-- Between a failed attempt and the next one the loop waits for the base interval or longer, from
one failed attempt to the next the waits do not decrease, and none exceeds the maximum. -/
structure Paced (log : List Attempt) : Prop where
  pause : log.IsChain fun a _ => a.failed → ∃ d ∈ a.wait, opts.reconnectInterval ≤ d
  grow : log.IsChain fun a b => a.failed → b.failed → ∀ d ∈ a.wait, ∀ d' ∈ b.wait, d ≤ d'
  bound : ∀ a ∈ log, ∀ d ∈ a.wait, d ≤ opts.maxReconnectInterval

/-- A stream that fails with no flow received is the last thing of the run. -/
def FailedStreamsLast (turns : List Turn) (stop : Stop) : Prop :=
  ∀ s rest, .streamed s :: rest <:+ turns → s.failed → rest = [] ∧ stop = .atTop

def backoff (errors : Nat) : Int := min (opts.reconnectInterval * 2 ^ errors) opts.maxReconnectInterval

/-- Connect errors follow one another no further than the interval can be doubled in an `int64`. -/
def Doubles (turns : List Turn) : Prop :=
  ∀ n, List.replicate (n + 2) .connectError <:+: turns → opts.backoff n < 4611686018427387904

section Backoff

variable {opts} (hpos : 0 < opts.reconnectInterval)
  (hle : opts.reconnectInterval ≤ opts.maxReconnectInterval)

include hle in
theorem backoff_zero : opts.backoff 0 = opts.reconnectInterval := by
  simpa [backoff] using hle

omit hpos hle in
theorem backoff_succ (n : Nat) :
    opts.backoff (n + 1) = min (2 * (opts.reconnectInterval * 2 ^ n)) opts.maxReconnectInterval := by
  rw [backoff, pow_succ]
  ring_nf

include hpos in
theorem backoff_le_succ (n : Nat) : opts.backoff n ≤ opts.backoff (n + 1) := by
  have hpow : 0 < opts.reconnectInterval * 2 ^ n := by positivity
  rw [backoff_succ, backoff]
  omega

include hpos in
theorem backoff_mono {m n : Nat} (h : m ≤ n) : opts.backoff m ≤ opts.backoff n := by
  induction h with
  | refl => exact Int.le_refl _
  | step _ ih => exact Int.le_trans ih (backoff_le_succ hpos _)

include hpos hle in
theorem reconnectInterval_le_backoff (n : Nat) : opts.reconnectInterval ≤ opts.backoff n := by
  rw [← backoff_zero hle]
  exact backoff_mono hpos n.zero_le

theorem backoff_le_max (n : Nat) : opts.backoff n ≤ opts.maxReconnectInterval := min_le_right _ _

include hpos hle in
theorem next_backoff {n : Nat} (h : opts.backoff n < 4611686018427387904) :
    opts.nextReconnectInterval (opts.backoff n) = opts.backoff (n + 1) := by
  have hlow := reconnectInterval_le_backoff hpos hle n
  have hexact : (opts.backoff n * 2).bmod 18446744073709551616 = opts.backoff n * 2 := by
    rw [Int.bmod]
    omega
  rw [nextReconnectInterval, hexact, backoff_succ, backoff]
  omega

theorem next_backoff_neg {n : Nat} (h : 4611686018427387904 ≤ opts.backoff n) :
    opts.nextReconnectInterval (opts.backoff n) < 0 := by
  have hhigh : opts.backoff n ≤ opts.maxReconnectInterval := backoff_le_max n
  have hint := opts.int64
  have hwrap : (opts.backoff n * 2).bmod 18446744073709551616 < 0 := by
    rw [Int.bmod]
    omega
  rw [nextReconnectInterval]
  omega

end Backoff

variable {opts}

theorem paced_cons_iff {a : Attempt} {log : List Attempt} :
    opts.Paced (a :: log) ↔
      (∀ b ∈ log.head?, a.failed → (∃ d ∈ a.wait, opts.reconnectInterval ≤ d) ∧
        (b.failed → ∀ d ∈ a.wait, ∀ d' ∈ b.wait, d ≤ d')) ∧
      (∀ d ∈ a.wait, d ≤ opts.maxReconnectInterval) ∧ opts.Paced log := by
  constructor
  · rintro ⟨hpause, hgrow, hbound⟩
    rw [List.isChain_cons] at hpause hgrow
    rw [List.forall_mem_cons] at hbound
    exact ⟨fun b hb ha => ⟨hpause.1 b hb ha, hgrow.1 b hb ha⟩, hbound.1, hpause.2, hgrow.2, hbound.2⟩
  · rintro ⟨hnext, hmax, hpause, hgrow, hbound⟩
    exact ⟨List.isChain_cons.mpr ⟨fun b hb ha => (hnext b hb ha).1, hpause⟩,
      List.isChain_cons.mpr ⟨fun b hb ha => (hnext b hb ha).2, hgrow⟩,
      List.forall_mem_cons.mpr ⟨hmax, hbound⟩⟩

theorem failedStreamsLast_connectError {turns : List Turn} {stop : Stop} :
    FailedStreamsLast (.connectError :: turns) stop ↔ FailedStreamsLast turns stop := by
  simp [FailedStreamsLast, List.suffix_cons_iff]

theorem failedStreamsLast_streamed {s : Stream} {turns : List Turn} {stop : Stop} :
    FailedStreamsLast (.streamed s :: turns) stop ↔
      (s.failed → turns = [] ∧ stop = .atTop) ∧ FailedStreamsLast turns stop := by
  constructor
  · intro h
    exact ⟨h s turns (List.suffix_refl _), fun s' rest hs => h s' rest (hs.trans (List.suffix_cons _ _))⟩
  · rintro ⟨hs, hrest⟩ s' rest hsuffix hfailed
    rw [List.suffix_cons_iff] at hsuffix
    rcases hsuffix with heq | hsuffix
    · cases heq
      exact hs hfailed
    · exact hrest s' rest hsuffix hfailed

def DoublesFrom (opts : ClientOptions) (errors : Nat) : List Turn → Prop
  | [] => True
  | .connectError :: turns =>
    (turns.head? = some .connectError → opts.backoff errors < 4611686018427387904) ∧
      DoublesFrom opts (errors + 1) turns
  | .streamed _ :: turns => DoublesFrom opts 0 turns

theorem connectionLoop_eq_of_head {turns : List Turn} (h : turns.head? ≠ some .connectError) (stop : Stop)
    (interval interval' : Int) :
    opts.connectionLoop interval turns stop = opts.connectionLoop interval' turns stop := by
  cases turns with
  | nil => rfl
  | cons turn turns =>
    cases turn with
    | connectError => exact absurd rfl h
    | streamed s => rfl

theorem wait_head_connectionLoop {turns : List Turn} (h : turns.head? ≠ some .connectError) (stop : Stop)
    (interval : Int) : ∀ b ∈ (opts.connectionLoop interval turns stop).head?, b.wait = none := by
  intro b hb
  cases turns with
  | nil => cases stop <;> cases hb <;> rfl
  | cons turn turns =>
    cases turn with
    | connectError => exact absurd rfl h
    | streamed s => cases hb; rfl

theorem head_connectionLoop {turns : List Turn} (h : turns.head? = some .connectError) (stop : Stop)
    (interval : Int) : (opts.connectionLoop interval turns stop).head? = some ⟨true, some interval⟩ := by
  obtain ⟨turns', rfl⟩ := List.head?_eq_some_iff.mp h
  rfl

theorem connectionLoop_eq_nil_iff {turns : List Turn} {stop : Stop} (interval : Int) :
    opts.connectionLoop interval turns stop = [] ↔ turns = [] ∧ stop = .atTop := by
  cases turns with
  | nil => cases stop <;> simp [connectionLoop, Stop.attempts]
  | cons turn turns => cases turn <;> simp [connectionLoop]

theorem paced_stop (stop : Stop) : opts.Paced stop.attempts := by
  cases stop <;> exact ⟨by simp [Stop.attempts], by simp [Stop.attempts], by simp [Stop.attempts]⟩

section Runs

variable (hpos : 0 < opts.reconnectInterval) (hle : opts.reconnectInterval ≤ opts.maxReconnectInterval)

include hpos hle in
theorem paced_connectError_iff (errors : Nat) (turns : List Turn) (stop : Stop) :
    opts.Paced (opts.connectionLoop (opts.backoff errors) (.connectError :: turns) stop) ↔
      (turns.head? = some .connectError → opts.backoff errors < 4611686018427387904) ∧
        opts.Paced (opts.connectionLoop (opts.backoff (errors + 1)) turns stop) := by
  have hlow := reconnectInterval_le_backoff hpos hle errors
  have hhigh : opts.backoff errors ≤ opts.maxReconnectInterval := backoff_le_max errors
  rw [connectionLoop, paced_cons_iff]
  by_cases hhead : turns.head? = some .connectError
  · by_cases hsmall : opts.backoff errors < 4611686018427387904
    · have hgrow := backoff_le_succ hpos errors
      rw [next_backoff hpos hle hsmall, head_connectionLoop hhead]
      simp [hlow, hhigh, hgrow, hsmall]
    · have hneg := next_backoff_neg (not_lt.mp hsmall)
      rw [head_connectionLoop hhead]
      simp only [Option.mem_def, Option.some.injEq, forall_eq', hhead, forall_const, hsmall, false_and,
        iff_false, not_and]
      intro hwaits
      have hdecreases := hwaits.2
      omega
  · have hwait : ∀ b ∈ (opts.connectionLoop (opts.backoff (errors + 1)) turns stop).head?, b.wait = none :=
      wait_head_connectionLoop hhead stop _
    rw [connectionLoop_eq_of_head hhead stop _ (opts.backoff (errors + 1))]
    simp only [Option.mem_def, Option.some.injEq, forall_eq', exists_eq_left', hlow, true_and, hhigh, hhead,
      false_implies, and_iff_right_iff_imp]
    intro _ b hb _ _ d' hd'
    rw [hwait b hb] at hd'
    cases hd'

include hle in
theorem paced_streamed_iff (interval : Int) (s : Stream) (turns : List Turn) (stop : Stop) :
    opts.Paced (opts.connectionLoop interval (.streamed s :: turns) stop) ↔
      (s.failed → turns = [] ∧ stop = .atTop) ∧
        opts.Paced (opts.connectionLoop (opts.backoff 0) turns stop) := by
  rw [connectionLoop, paced_cons_iff, backoff_zero hle, ← connectionLoop_eq_nil_iff opts.reconnectInterval]
  generalize opts.connectionLoop opts.reconnectInterval turns stop = log
  cases log <;> cases s.failed <;> simp

include hpos hle in
theorem paced_connectionLoop_iff (errors : Nat) (turns : List Turn) (stop : Stop) :
    opts.Paced (opts.connectionLoop (opts.backoff errors) turns stop) ↔
      FailedStreamsLast turns stop ∧ opts.DoublesFrom errors turns := by
  induction turns generalizing errors with
  | nil => simp [connectionLoop, paced_stop, FailedStreamsLast, DoublesFrom]
  | cons turn turns ih =>
    cases turn with
    | connectError =>
      rw [paced_connectError_iff hpos hle, ih, failedStreamsLast_connectError, DoublesFrom]
      tauto
    | streamed s =>
      rw [paced_streamed_iff hle, ih, failedStreamsLast_streamed, DoublesFrom, and_assoc]

omit hpos hle in
theorem doubles_cons_iff (turn : Turn) (turns : List Turn) :
    opts.Doubles (turn :: turns) ↔
      (∀ n, List.replicate (n + 2) .connectError <+: turn :: turns → opts.backoff n < 4611686018427387904) ∧
        opts.Doubles turns := by
  simp only [Doubles, List.infix_cons_iff, or_imp, forall_and]

omit hpos hle in
theorem forall_errors_first_iff {P : Nat → Prop} (turns : List Turn) :
    (∀ n, List.replicate (n + 2) .connectError <+: .connectError :: turns → P n) ↔
      (turns.head? = some .connectError → P 0) ∧
        ∀ n, List.replicate (n + 2) .connectError <+: turns → P (n + 1) := by
  have hcons (n : Nat) : List.replicate (n + 2) .connectError <+: .connectError :: turns ↔
      List.replicate (n + 1) .connectError <+: turns := by
    rw [List.replicate_succ, List.cons_prefix_cons, and_iff_right rfl]
  have hone : List.replicate 1 .connectError <+: turns ↔ turns.head? = some .connectError := by
    cases turns <;> simp [eq_comm]
  simp only [hcons, ← hone]
  exact Nat.and_forall_add_one.symm

include hpos in
theorem doublesFrom_iff (errors : Nat) (turns : List Turn) :
    opts.DoublesFrom errors turns ↔
      (∀ n, List.replicate (n + 2) .connectError <+: turns → opts.backoff (errors + n) < 4611686018427387904) ∧
        opts.Doubles turns := by
  induction turns generalizing errors with
  | nil => simp [DoublesFrom, Doubles, List.replicate_succ]
  | cons turn turns ih =>
    cases turn with
    | connectError =>
      rw [DoublesFrom, ih, doubles_cons_iff, forall_errors_first_iff]
      simp only [← add_assoc, add_right_comm errors 1, add_zero]
      constructor
      · rintro ⟨hhead, hfirst, hinfix⟩
        refine ⟨⟨hhead, hfirst⟩, ?_, hinfix⟩
        have hle (n : Nat) : opts.backoff n ≤ opts.backoff (errors + n) :=
          backoff_mono hpos (Nat.le_add_left n errors)
        rw [forall_errors_first_iff]
        exact ⟨fun h => lt_of_le_of_lt (hle 0) (hhead h), fun n h => lt_of_le_of_lt (hle (n + 1)) (hfirst n h)⟩
      · rintro ⟨⟨hhead, hfirst⟩, -, hinfix⟩
        exact ⟨hhead, hfirst, hinfix⟩
    | streamed s =>
      rw [DoublesFrom, ih, doubles_cons_iff]
      simp only [List.replicate_succ, List.cons_prefix_cons, reduceCtorEq, false_and, false_implies,
        implies_true, true_and, and_iff_right_iff_imp]
      intro hinfix n hn
      simpa using hinfix n hn.isInfix

include hpos in
theorem doublesFrom_zero_iff (turns : List Turn) : opts.DoublesFrom 0 turns ↔ opts.Doubles turns := by
  rw [doublesFrom_iff hpos, and_iff_right_iff_imp]
  intro h n hn
  simpa using h n hn.isInfix

end Runs

/-- The two ways in which a run is not paced: a stream fails and the next attempt follows at
once, or the interval is doubled past what an `int64` holds. -/
theorem attempts_paced_iff (opts : ClientOptions) (hpos : 0 < opts.reconnectInterval)
    (hle : opts.reconnectInterval ≤ opts.maxReconnectInterval) (turns : List Turn) (stop : Stop) :
    opts.Paced (opts.attempts turns stop) ↔ FailedStreamsLast turns stop ∧ opts.Doubles turns := by
  rw [attempts, ← backoff_zero hle, paced_connectionLoop_iff hpos hle, doublesFrom_zero_iff hpos]

theorem dialled_again_paced :
    (0 : Int) < defaultClientOptions.reconnectInterval ∧
      defaultClientOptions.reconnectInterval ≤ defaultClientOptions.maxReconnectInterval ∧
      defaultClientOptions.Paced (defaultClientOptions.attempts
        [.connectError, .connectError, .streamed (.opened [true] (.error "transport is closing")), .connectError]
        .streaming) := by
  refine ⟨by decide, by decide, ?_⟩
  refine (attempts_paced_iff defaultClientOptions (by decide) (by decide) _ _).mpr ⟨?_, ?_⟩
  · intro s rest hsuffix hfailed
    simp only [List.suffix_cons_iff, List.cons.injEq, reduceCtorEq, Turn.streamed.injEq, false_and, false_or,
      List.suffix_nil, or_false] at hsuffix
    obtain ⟨rfl, -⟩ := hsuffix
    exact absurd hfailed (by decide)
  · intro n _
    exact lt_of_le_of_lt (backoff_le_max n) (by decide)

theorem refused_stream_not_paced :
    ¬ defaultClientOptions.Paced (defaultClientOptions.attempts
      [.streamed (.refused "rpc error: code = Unavailable"), .streamed (.refused "rpc error: code = Unavailable")]
      .atTop) := by
  intro h
  obtain ⟨d, hd, -⟩ := (List.isChain_cons_cons.mp h.pause).1 (by decide)
  cases hd

end ClientOptions
end Nightjar.Hubble
