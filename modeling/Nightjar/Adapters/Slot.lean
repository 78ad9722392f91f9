import Nightjar.Util

namespace Nightjar.Adapters

open Lib.Strings Apimachinery

/-- The place in an object from which an adapter derives one constraint: the
object as a whole, the `i`-th limit or webhook, or the `i`-th Kyverno rule. -/
inductive Slot where
  | whole
  | entry (i : Nat)
  | rule (i : Nat)
deriving DecidableEq, Repr

namespace Slot

def suffix : Slot → String
  | whole => ""
  | entry i => "-" ++ toString i
  | rule i => "-rule-" ++ toString i

def uid (u : UID) (s : Slot) : UID := u ++ s.suffix

theorem repr_ne_rule {i : Nat} {cs : List Char} : (toString i).toList ≠ 'r' :: cs := by
  intro h
  have hm : 'r' ∈ (toString i).toList := by rw [h]; exact List.mem_cons_self
  exact absurd (isDigit_of_mem_repr hm) (by decide)

theorem suffix_entry_ne_rule (i j : Nat) : (entry i).suffix ≠ (rule j).suffix := by
  intro h
  have hl := congrArg String.toList h
  simp only [suffix, String.toList_append] at hl
  have hd : (toString i).toList = 'r' :: ("ule-".toList ++ (toString j).toList) := List.cons.inj hl |>.2
  exact repr_ne_rule hd

theorem suffix_injective : Function.Injective suffix := by
  intro s t h
  cases s with
  | whole =>
      cases t with
      | whole => rfl
      | entry j | rule j => simpa [suffix] using congrArg String.toList h
  | entry i =>
      cases t with
      | whole => simpa [suffix] using congrArg String.toList h
      | entry j => rw [repr_injective ((String.append_right_inj "-").mp h)]
      | rule j => exact absurd h (suffix_entry_ne_rule i j)
  | rule i =>
      cases t with
      | whole => simpa [suffix] using congrArg String.toList h
      | entry j => exact absurd h.symm (suffix_entry_ne_rule j i)
      | rule j => rw [repr_injective ((String.append_right_inj "-rule-").mp h)]

theorem uid_injective (u : UID) : Function.Injective (uid u) := by
  intro s t h
  exact suffix_injective ((String.append_right_inj u).mp h)

@[simp] theorem uid_whole (u : UID) : uid u whole = u := by simp [uid, suffix]

end Slot

theorem nodup_filterMap_zipIdx {α : Type} (xs : List α) (place : α × Nat → Option Slot) (mk : Nat → Slot)
    (hmk : Function.Injective mk) (hplace : ∀ e s, place e = some s → s = mk e.2) :
    (xs.zipIdx.filterMap place).Nodup := by
  have hidx : xs.zipIdx.Pairwise (fun a b => a.2 ≠ b.2) := by
    have hn : (xs.zipIdx.map Prod.snd).Nodup := by
      rw [List.zipIdx_map_snd]
      exact List.nodup_range'
    exact List.pairwise_map.mp hn
  apply List.Pairwise.filterMap place _ hidx
  intro a b hab s hs t ht he
  rw [hplace a s hs, hplace b t ht] at he
  exact hab (hmk he)

variable [Apimachinery]

/-- A parse result that files exactly one constraint for each of the given
places of the object, in order, and refers back to the object. A rejected
object has no places. -/
def FiledIn (obj : Unstructured) (slots : List Slot) : Except String (List Constraint) → Prop
  | .ok cs => cs.map Constraint.uid = slots.map (Slot.uid (getUID obj)) ∧ ∀ c ∈ cs, c.rawObject = some obj
  | .error _ => slots = []

theorem FiledIn.nodup_iff {obj : Unstructured} {slots : List Slot} {cs : List Constraint}
    (h : FiledIn obj slots (.ok cs)) : (cs.map Constraint.uid).Nodup ↔ slots.Nodup := by
  rw [h.1]
  exact List.nodup_map_iff (Slot.uid_injective _)

theorem filedIn_filterMap {α : Type} {obj : Unstructured} (entries : List α)
    (place : α → Option Slot) (build : α → Option Constraint)
    (huid : ∀ e, (build e).map Constraint.uid = (place e).map (Slot.uid (getUID obj)))
    (hraw : ∀ e c, build e = some c → c.rawObject = some obj) :
    FiledIn obj (entries.filterMap place) (.ok (entries.filterMap build)) := by
  constructor
  · rw [List.map_filterMap, List.map_filterMap]
    exact List.filterMap_congr (fun e _ => huid e)
  · intro c hc
    obtain ⟨e, _, he⟩ := List.mem_filterMap.mp hc
    exact hraw e c he

end Nightjar.Adapters
