import Mathlib.Data.List.Basic

namespace Nightjar.Lib

/-- A buffered Go channel with what it has taken and given since it was made. What went
in is what came out and what is inside, in the same order. -/
structure Channel (α : Type) where
  cap : Nat
  closed : Bool := false
  accepted : List α := []
  received : List α := []
  buffer : List α := []
  conserved : accepted = received ++ buffer

inductive Offer (α : Type) where
  | sent (ch : Channel α)
  | full
  | panics

/-- The case that a select with a send, a case for the end of the context and a default
case takes. -/
inductive Selected (α : Type) where
  | sent (ch : Channel α)
  | dropped
  | stopped
  | panics

namespace Channel

variable {α : Type} {ch ch' : Channel α} {x : α} {rest : List α}

def make (cap : Nat) : Channel α where
  cap := cap
  conserved := rfl

def HasRoom (ch : Channel α) : Prop := ch.buffer.length < ch.cap

instance (ch : Channel α) : Decidable ch.HasRoom := inferInstanceAs (Decidable (_ < _))

def push (ch : Channel α) (x : α) : Channel α :=
  { ch with
    accepted := ch.accepted ++ [x]
    buffer := ch.buffer ++ [x]
    conserved := by rw [ch.conserved, List.append_assoc] }

def offer (ch : Channel α) (x : α) : Offer α :=
  if ch.closed then .panics else if ch.HasRoom then .sent (ch.push x) else .full

/-- The select of a goroutine that sends `x`. Among the ready cases any one is taken, and
`stop` says that it is the end of the context. The default case is taken when none is
ready. -/
def select (ch : Channel α) (x : α) (cancelled stop : Bool) : Option (Selected α) :=
  if stop then
    if cancelled then some .stopped else none
  else
    match ch.offer x with
    | .sent ch => some (.sent ch)
    | .full => if cancelled then none else some .dropped
    | .panics => some .panics

def pop (ch : Channel α) (h : ch.buffer = x :: rest) : Channel α :=
  { ch with
    received := ch.received ++ [x]
    buffer := rest
    conserved := by rw [ch.conserved, h, List.append_assoc, List.singleton_append] }

def receive (ch : Channel α) : Option (α × Channel α) :=
  match h : ch.buffer with
  | [] => none
  | x :: _ => some (x, ch.pop h)

def close (ch : Channel α) : Option (Channel α) := if ch.closed then none else some { ch with closed := true }

theorem offer_of_open (h : ch.closed = false) : ch.offer x = if ch.HasRoom then .sent (ch.push x) else .full := by
  rw [offer, h, if_neg Bool.false_ne_true]

theorem select_sound {cancelled stop : Bool} {r : Selected α} (h : ch.select x cancelled stop = some r) :
    r = .stopped ∨ r = .dropped ∨ (ch.closed = false ∧ r = .sent (ch.push x)) ∨ (ch.closed = true ∧ r = .panics) := by
  unfold select at h
  split at h
  · split at h
    · cases h
      exact .inl rfl
    · cases h
  · cases hc : ch.closed with
    | false =>
        rw [offer_of_open hc] at h
        by_cases hroom : ch.HasRoom
        · rw [if_pos hroom] at h
          cases h
          exact .inr (.inr (.inl ⟨rfl, rfl⟩))
        · rw [if_neg hroom] at h
          dsimp only at h
          split at h
          · cases h
          · cases h
            exact .inr (.inl rfl)
    | true =>
        rw [offer, if_pos hc] at h
        cases h
        exact .inr (.inr (.inr ⟨rfl, rfl⟩))

theorem receive_eq_some (h : ch.receive = some (x, ch')) : ∃ rest, ∃ hb : ch.buffer = x :: rest, ch' = ch.pop hb := by
  unfold receive at h
  split at h
  · cases h
  · rename_i hb
    cases h
    exact ⟨_, hb, rfl⟩

theorem receive_of_buffer (h : ch.buffer = x :: rest) : ch.receive = some (x, ch.pop h) := by
  unfold receive
  split
  · rename_i hb
    rw [hb] at h
    cases h
  · rename_i hb
    obtain ⟨rfl, rfl⟩ := List.cons.inj (hb.symm.trans h)
    rfl

theorem buffer_of_receive_none (h : ch.receive = none) : ch.buffer = [] := by
  cases hb : ch.buffer with
  | nil => rfl
  | cons x rest =>
      rw [receive_of_buffer hb] at h
      cases h

theorem close_of_open (h : ch.closed = false) : ch.close = some { ch with closed := true } := by
  rw [close, h, if_neg Bool.false_ne_true]

end Channel

end Nightjar.Lib
