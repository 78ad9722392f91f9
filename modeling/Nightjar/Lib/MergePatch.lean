import Nightjar.Lib.Json

namespace Nightjar.Lib.Json

/-- The members of an object; no other value has any. -/
def fields : Json → List (String × Json)
  | obj fields => fields
  | _ => []

theorem lookup_fields (j : Json) (key : String) : j.fields.lookup key = j.get? key := by
  cases j <;> rfl

def remove (members : List (String × Json)) (key : String) : List (String × Json) :=
  members.filter (fun e => e.1 ≠ key)

theorem lookup_cons_ite (e : String × Json) (members : List (String × Json)) (key : String) :
    (e :: members).lookup key = if key = e.1 then some e.2 else members.lookup key := by
  rw [List.lookup_cons]
  by_cases h : key = e.1
  · simp [h]
  · rw [beq_false_of_ne h, if_neg h]

theorem lookup_remove (members : List (String × Json)) (key other : String) :
    (remove members key).lookup other = if other = key then none else members.lookup other := by
  induction members with
  | nil => simp [remove]
  | cons e members ih =>
      unfold remove at ih ⊢
      rw [List.filter_cons]
      by_cases he : e.1 = key
      · rw [if_neg (by simpa using he), ih, lookup_cons_ite, he]
        split <;> rfl
      · rw [if_pos (by simpa using he), lookup_cons_ite, lookup_cons_ite, ih]
        by_cases ho : other = e.1
        · rw [if_pos ho, if_pos ho, if_neg (ho ▸ he)]
        · rw [if_neg ho, if_neg ho]

mutual

/-- A JSON merge patch: an object is merged member by member, where `null` removes a member;
any other value takes the place of the target. -/
def mergePatch (target : Option Json) : Json → Json
  | obj patch => obj (mergeFields (target.elim [] fields) patch)
  | patch => patch

def mergeFields (members : List (String × Json)) : List (String × Json) → List (String × Json)
  | [] => members
  | (key, null) :: patch => mergeFields (remove members key) patch
  | (key, value) :: patch =>
      mergeFields ((key, mergePatch (members.lookup key) value) :: remove members key) patch

end

def patchedMember (old : Option Json) : Option Json → Option Json
  | none => old
  | some null => none
  | some value => some (mergePatch old value)

theorem mergeFields_cons (members : List (String × Json)) (key : String) (value : Json)
    (patch : List (String × Json)) :
    ∃ members', mergeFields members ((key, value) :: patch) = mergeFields members' patch ∧
      ∀ other, members'.lookup other =
        if other = key then patchedMember (members.lookup key) (some value) else members.lookup other := by
  cases value with
  | null =>
      refine ⟨remove members key, by rw [mergeFields], ?_⟩
      intro other
      rw [lookup_remove]
      rfl
  | bool _ | num _ | str _ | arr _ | obj _ =>
      refine ⟨_, by rw [mergeFields]; simp, ?_⟩
      intro other
      rw [lookup_cons_ite, lookup_remove]
      split <;> rfl

theorem lookup_mergeFields {patch : List (String × Json)} (hkeys : (patch.map Prod.fst).Nodup)
    (members : List (String × Json)) (key : String) :
    (mergeFields members patch).lookup key = patchedMember (members.lookup key) (patch.lookup key) := by
  induction patch generalizing members with
  | nil => rfl
  | cons e patch ih =>
      obtain ⟨k, value⟩ := e
      rw [List.map_cons, List.nodup_cons] at hkeys
      obtain ⟨members', hmerge, hlookup⟩ := mergeFields_cons members k value patch
      rw [hmerge, ih hkeys.2, hlookup, lookup_cons_ite]
      by_cases h : key = k
      · subst h
        have hnone : patch.lookup key = none := by
          rw [List.lookup_eq_none_iff]
          intro e he
          have hne : key ≠ e.1 := fun h => hkeys.1 (List.mem_map.mpr ⟨e, he, h.symm⟩)
          simpa using hne
        rw [if_pos rfl, if_pos rfl, hnone]
        rfl
      · rw [if_neg h, if_neg h]

theorem get?_mergePatch {patch : List (String × Json)} (hkeys : (patch.map Prod.fst).Nodup) (target : Option Json)
    (key : String) :
    (mergePatch target (obj patch)).get? key = patchedMember (target.bind (·.get? key)) (patch.lookup key) := by
  rw [mergePatch, get?, lookup_mergeFields hkeys]
  cases target with
  | none => rfl
  | some j => rw [Option.elim_some, lookup_fields, Option.bind_some]

end Nightjar.Lib.Json
