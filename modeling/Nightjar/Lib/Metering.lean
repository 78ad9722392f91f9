import Mathlib.Data.Rat.Cast.Order
import Mathlib.Algebra.Order.Field.Rat
import Mathlib.Tactic.Linarith
import Mathlib.Tactic.NormNum

namespace Nightjar.Lib

/-- A store of permits that is operated at given times. `level` is what it could hand out
at a time, and `granted` what an operation does hand out. -/
structure Meter (S O : Type) where
  step : S → Int × O → S
  granted : S → Int × O → Nat
  level : S → Int → Rat
  rate : Rat
  burst : Rat

namespace Meter

variable {S O : Type}

/-- In the states of the invariant, permits are paid from the level, which is at most the
burst and refills at the rate. -/
structure Lawful (M : Meter S O) (I : S → Int → Prop) : Prop where
  rate_nonneg : 0 ≤ M.rate
  kept : ∀ {s clock l}, I s clock → clock ≤ l.1 → I (M.step s l) l.1
  paid : ∀ {s clock l}, I s clock → clock ≤ l.1 → M.granted s l + M.level (M.step s l) l.1 ≤ M.level s l.1
  refill : ∀ {s clock t t'}, I s clock → clock ≤ t → t ≤ t' → M.level s t' ≤ M.level s t + (t' - t) * M.rate
  nonneg : ∀ {s clock t}, I s clock → clock ≤ t → 0 ≤ M.level s t
  le_burst : ∀ {s clock t}, I s clock → clock ≤ t → M.level s t ≤ M.burst

def grantedIn (M : Meter S O) (a b : Int) : S → List (Int × O) → Nat
  | _, [] => 0
  | s, l :: ls => (if a ≤ l.1 ∧ l.1 ≤ b then M.granted s l else 0) + M.grantedIn a b (M.step s l) ls

variable {M : Meter S O} {I : S → Int → Prop} {s : S} {a b clock : Int} {ls : List (Int × O)}

theorem grantedIn_of_late (hlate : ∀ l ∈ ls, b < l.1) : M.grantedIn a b s ls = 0 := by
  induction ls generalizing s with
  | nil => rfl
  | cons l ls ih =>
      obtain ⟨hl, htail⟩ := List.forall_mem_cons.mp hlate
      rw [grantedIn, if_neg (fun h => absurd h.2 (not_le.mpr hl)), ih htail]

theorem late_of_head {l : Int × O} (hb : ¬ l.1 ≤ b) (hhead : ∀ l' ∈ ls, l.1 ≤ l'.1) : ∀ l' ∈ l :: ls, b < l'.1 := by
  have hfirst := not_le.mp hb
  exact List.forall_mem_cons.mpr ⟨hfirst, fun l' hl' => hfirst.trans_le (hhead l' hl')⟩

theorem Lawful.refilled_nonneg (h : M.Lawful I) {t : Int} (htb : t ≤ b) : (0 : Rat) ≤ (b - t) * M.rate := by
  have hgap : (0 : Rat) ≤ b - t := by exact_mod_cast sub_nonneg.mpr htb
  exact mul_nonneg hgap h.rate_nonneg

theorem Lawful.burst_nonneg (h : M.Lawful I) (hI : I s clock) : 0 ≤ M.burst :=
  (h.nonneg hI (le_refl clock)).trans (h.le_burst hI (le_refl clock))

theorem grantedIn_le_level (h : M.Lawful I) (hI : I s clock) {t : Int} (hclock : clock ≤ t)
    (hfrom : ∀ l ∈ ls, t ≤ l.1) (hsorted : ls.Pairwise (fun l l' => l.1 ≤ l'.1)) (htb : t ≤ b) :
    (M.grantedIn a b s ls : Rat) ≤ M.level s t + (b - t) * M.rate := by
  induction ls generalizing s clock t with
  | nil => simpa [grantedIn] using add_nonneg (h.nonneg hI hclock) (h.refilled_nonneg htb)
  | cons l ls ih =>
      have hl := hfrom l List.mem_cons_self
      obtain ⟨hhead, htail⟩ := List.pairwise_cons.mp hsorted
      by_cases hb : l.1 ≤ b
      · have hrest := ih (h.kept hI (hclock.trans hl)) (le_refl l.1) hhead htail hb
        have hpaid := h.paid hI (hclock.trans hl)
        have hrefill := h.refill hI hclock hl
        have hcount : ((if a ≤ l.1 ∧ l.1 ≤ b then M.granted s l else 0 : Nat) : Rat) ≤ M.granted s l := by
          split <;> simp
        rw [grantedIn, Nat.cast_add]
        linarith
      · rw [grantedIn_of_late (late_of_head hb hhead)]
        simpa using add_nonneg (h.nonneg hI hclock) (h.refilled_nonneg htb)

theorem grantedIn_le (h : M.Lawful I) (hI : I s clock) (hfrom : ∀ l ∈ ls, clock ≤ l.1)
    (hsorted : ls.Pairwise (fun l l' => l.1 ≤ l'.1)) (hab : a ≤ b) :
    (M.grantedIn a b s ls : Rat) ≤ M.burst + (b - a) * M.rate := by
  have hburst := h.burst_nonneg hI
  induction ls generalizing s clock with
  | nil => simpa [grantedIn] using add_nonneg hburst (h.refilled_nonneg hab)
  | cons l ls ih =>
      have hl := hfrom l List.mem_cons_self
      obtain ⟨hhead, htail⟩ := List.pairwise_cons.mp hsorted
      by_cases ha : a ≤ l.1
      · by_cases hb : l.1 ≤ b
        · have hfromHead : ∀ l' ∈ l :: ls, l.1 ≤ l'.1 := List.forall_mem_cons.mpr ⟨le_refl _, hhead⟩
          have hbound := grantedIn_le_level (a := a) h hI hl hfromHead hsorted hb
          have hlevel := h.le_burst hI hl
          have hbefore := h.refilled_nonneg ha
          linarith
        · rw [grantedIn_of_late (late_of_head hb hhead)]
          simpa using add_nonneg hburst (h.refilled_nonneg hab)
      · rw [grantedIn, if_neg (fun hin => ha hin.1), Nat.zero_add]
        exact ih (h.kept hI hl) hhead htail

end Meter

end Nightjar.Lib
