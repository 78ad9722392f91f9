import Mathlib.Algebra.Group.Nat.Defs
import Mathlib.Data.List.Infix
import Mathlib.Data.List.Sort
import Mathlib.Data.List.Dedup
import Mathlib.Data.List.DropRight

namespace Nightjar.Lib.Strings

/-- The tables of the Unicode standard that Go's `strings` and `strconv` read.
Only their values on ASCII are fixed. -/
class Unicode where
  toLower : Char → Char
  isPrint : Char → Bool
  toLower_ascii : ∀ c : Char, c.toNat < 128 → toLower c = c.toLower
  isPrint_ascii : ∀ c : Char, c.toNat < 128 → isPrint c = decide (32 ≤ c.toNat ∧ c.toNat < 127)

@[reducible] def asciiTables : Unicode where
  toLower := Char.toLower
  isPrint c := decide (32 ≤ c.toNat ∧ c.toNat ≠ 127)
  toLower_ascii _ _ := rfl
  isPrint_ascii c hc := by
    have h : (32 ≤ c.toNat ∧ c.toNat ≠ 127) ↔ (32 ≤ c.toNat ∧ c.toNat < 127) := by omega
    simp only [h]

/-- The upper-case table, likewise. -/
class UpperCase where
  toUpper : Char → Char
  toUpper_ascii : ∀ c : Char, c.toNat < 128 → toUpper c = c.toUpper

@[reducible] def asciiUpperCase : UpperCase := ⟨Char.toUpper, fun _ _ => rfl⟩

section Unicode
variable [Unicode]

def toLower (s : String) : String := String.ofList (s.toList.map Unicode.toLower)

theorem length_toLower (s : String) : (toLower s).toList.length = s.toList.length := by
  simp [toLower]

def hexDigit (n : Nat) : Char := Nat.digitChar (n % 16)

def hex : Nat → Nat → List Char
  | 0, _ => []
  | width + 1, n => hexDigit (n / 16 ^ width) :: hex width n

def quoteRune (c : Char) : List Char :=
  if c = '"' ∨ c = '\\' then ['\\', c]
  else if Unicode.isPrint c then [c]
  else if c.toNat = 7 then ['\\', 'a']
  else if c.toNat = 8 then ['\\', 'b']
  else if c.toNat = 12 then ['\\', 'f']
  else if c.toNat = 10 then ['\\', 'n']
  else if c.toNat = 13 then ['\\', 'r']
  else if c.toNat = 9 then ['\\', 't']
  else if c.toNat = 11 then ['\\', 'v']
  else if c.toNat < 32 ∨ c.toNat = 127 then '\\' :: 'x' :: hex 2 c.toNat
  else if c.toNat < 65536 then '\\' :: 'u' :: hex 4 c.toNat
  else '\\' :: 'U' :: hex 8 c.toNat

def quote (s : String) : String :=
  String.ofList ('"' :: s.toList.flatMap quoteRune ++ ['"'])

end Unicode

def contains (s sub : String) : Bool := decide (sub.toList <:+: s.toList)

def hasSuffix (s suffix : String) : Bool := decide (suffix.toList <:+ s.toList)

def trimSuffix (s suffix : String) : String :=
  if hasSuffix s suffix then String.ofList (s.toList.take (s.toList.length - suffix.toList.length)) else s

def trimPrefix (s start : String) : String :=
  if start.toList <+: s.toList then String.ofList (s.toList.drop start.toList.length) else s

def splitOnce (sep : Char) (s : String) : List String :=
  if sep ∈ s.toList then
    [String.ofList (s.toList.takeWhile (· ≠ sep)), String.ofList ((s.toList.dropWhile (· ≠ sep)).tail)]
  else [s]

def split (sep : Char) (s : String) : List String :=
  (s.toList.splitOn sep).map String.ofList

/-- The characters with the `White_Space` property. -/
def isSpace (c : Char) : Bool :=
  decide (c.toNat ∈ [9, 10, 11, 12, 13, 32, 0x85, 0xA0, 0x1680, 0x2028, 0x2029, 0x202f, 0x205f, 0x3000]) ||
    decide (0x2000 ≤ c.toNat ∧ c.toNat ≤ 0x200a)

def trimSpace (s : String) : String := String.ofList ((s.toList.dropWhile isSpace).rdropWhile isSpace)

def sortedKeys (keys : List String) : List String := keys.dedup.insertionSort (· ≤ ·)

def unique (xs : List String) : List String :=
  xs.foldl (fun seen x => if x ∈ seen then seen else seen ++ [x]) []

theorem mem_unique {x : String} {xs : List String} : x ∈ unique xs ↔ x ∈ xs := by
  have hfold (seen : List String) :
      x ∈ xs.foldl (fun seen y => if y ∈ seen then seen else seen ++ [y]) seen ↔ x ∈ seen ∨ x ∈ xs := by
    induction xs generalizing seen with
    | nil => simp
    | cons y ys ih =>
        rw [List.foldl_cons, ih, List.mem_cons]
        split <;> grind
  simpa [unique] using hfold []

theorem pairwise_sortedKeys (xs : List String) : (sortedKeys xs).Pairwise (· ≤ ·) := List.pairwise_insertionSort _ _

theorem mem_sortedKeys {x : String} {xs : List String} : x ∈ sortedKeys xs ↔ x ∈ xs := by
  rw [sortedKeys, List.mem_insertionSort, List.mem_dedup]

theorem nodup_sortedKeys (xs : List String) : (sortedKeys xs).Nodup :=
  (List.perm_insertionSort _ _).nodup_iff.mpr (List.nodup_dedup xs)

/-- A sorted list without repetitions is settled by its members. -/
theorem eq_sortedKeys {ys xs : List String} (hsorted : ys.Pairwise (· ≤ ·)) (hnodup : ys.Nodup)
    (hmem : ∀ x, x ∈ ys ↔ x ∈ xs) : ys = sortedKeys xs := by
  have hperm : ys.Perm (sortedKeys xs) :=
    (List.perm_ext_iff_of_nodup hnodup (nodup_sortedKeys xs)).mpr (fun x => (hmem x).trans mem_sortedKeys.symm)
  exact hperm.eq_of_pairwise (fun _ _ _ _ => String.le_antisymm) hsorted (pairwise_sortedKeys xs)

theorem trimPrefix_append (start s : String) : trimPrefix (start ++ s) start = s := by
  simp [trimPrefix]

theorem trimSuffix_append (s suffix : String) : trimSuffix (s ++ suffix) suffix = s := by
  simp [trimSuffix, hasSuffix]

theorem eq_append_of_hasSuffix {s suffix : String} (h : hasSuffix s suffix = true) : ∃ t, s = t ++ suffix := by
  obtain ⟨t, ht⟩ := of_decide_eq_true h
  refine ⟨String.ofList t, String.toList_inj.mp ?_⟩
  rw [String.toList_append, String.toList_ofList, ht]

/-- What stands before the first separator is read back. -/
theorem append_sep_inj {c : Char} {sep a b s t : String} (hsep : sep.toList = [c]) (ha : c ∉ a.toList)
    (hb : c ∉ b.toList) : a ++ sep ++ s = b ++ sep ++ t ↔ a = b ∧ s = t := by
  refine ⟨fun h => ?_, fun ⟨hab, hst⟩ => by rw [hab, hst]⟩
  have hlist := congrArg String.toList h
  simp only [String.toList_append, hsep, List.append_assoc, List.cons_append, List.nil_append] at hlist
  have hbefore (a s : List Char) (ha : c ∉ a) : (a ++ c :: s).takeWhile (· ≠ c) = a := by
    have hall : ∀ x ∈ a, decide (x ≠ c) = true := by
      intro x hx
      exact decide_eq_true (ne_of_mem_of_not_mem hx ha)
    rw [List.takeWhile_append_of_pos hall]
    simp
  have heq : a.toList = b.toList := by
    rw [← hbefore a.toList s.toList ha, hlist, hbefore b.toList t.toList hb]
  rw [heq, List.append_cancel_left_eq, List.cons.injEq] at hlist
  exact ⟨String.toList_inj.mp heq, String.toList_inj.mp hlist.2⟩

theorem append_last_sep_inj {c : Char} {sep a b s t : String} (hsep : sep.toList = [c]) (hs : c ∉ s.toList)
    (ht : c ∉ t.toList) : a ++ sep ++ s = b ++ sep ++ t ↔ a = b ∧ s = t := by
  refine ⟨fun h => ?_, fun ⟨hab, hst⟩ => by rw [hab, hst]⟩
  have hlist := congrArg String.toList h
  simp only [String.toList_append, hsep, List.append_assoc, List.cons_append, List.nil_append] at hlist
  have hafter (a s : List Char) (hs : c ∉ s) : (a ++ c :: s).rtakeWhile (· ≠ c) = s := by
    have hall : ∀ x ∈ s.reverse, decide (x ≠ c) = true := by
      intro x hx
      exact decide_eq_true (ne_of_mem_of_not_mem (List.mem_reverse.mp hx) hs)
    rw [List.rtakeWhile, List.reverse_append, List.reverse_cons, List.append_assoc, List.takeWhile_append_of_pos hall]
    simp
  have heq : s.toList = t.toList := by
    rw [← hafter a.toList s.toList hs, hlist, hafter b.toList t.toList ht]
  rw [heq, List.append_cancel_right_eq] at hlist
  exact ⟨String.toList_inj.mp hlist, String.toList_inj.mp heq⟩

theorem exists_last_sep {c : Char} {sep s : String} (hsep : sep.toList = [c]) (h : c ∈ s.toList) :
    ∃ before after, s = before ++ sep ++ after ∧ c ∉ after.toList := by
  obtain ⟨after, before, heq, hafter⟩ := List.eq_append_cons_of_mem (List.mem_reverse.mpr h)
  refine ⟨String.ofList before.reverse, String.ofList after.reverse, ?_, by simpa using hafter⟩
  rw [← String.toList_inj, ← List.reverse_inj, heq]
  simp [hsep]

/-- Texts of one length with something appended to each are equal only if they are. -/
theorem append_inj_of_length {u v s t : String} (hlength : u.toList.length = v.toList.length)
    (h : u ++ s = v ++ t) : u = v := by
  have hl := congrArg String.toList h
  rw [String.toList_append, String.toList_append] at hl
  exact String.toList_inj.mp (List.append_inj_left hl hlength)

theorem append_right_inj {a b suffix : String} : a ++ suffix = b ++ suffix ↔ a = b := by
  rw [← String.toList_inj, String.toList_append, String.toList_append, List.append_cancel_right_eq, String.toList_inj]

/-- No finite list has all texts, not even up to their length. -/
theorem exists_longer (ts : List String) : ∃ s : String, ∀ t ∈ ts, t.toList.length < s.toList.length := by
  induction ts with
  | nil => exact ⟨"", nofun⟩
  | cons t ts ih =>
      obtain ⟨s, hs⟩ := ih
      refine ⟨t ++ s ++ "x", fun u hu => ?_⟩
      rw [String.toList_append, String.toList_append, List.length_append, List.length_append]
      change _ < _ + 1
      rcases List.mem_cons.mp hu with rfl | hu
      · omega
      · have := hs u hu
        omega

theorem splitOnce_of_not_mem {sep : Char} {s : String} (h : sep ∉ s.toList) : splitOnce sep s = [s] := if_neg h

theorem splitOnce_append {sep : Char} {sepText before after : String} (hsep : sepText.toList = [sep])
    (h : sep ∉ before.toList) : splitOnce sep (before ++ sepText ++ after) = [before, after] := by
  have htext : (before ++ sepText ++ after).toList = before.toList ++ sep :: after.toList := by
    simp [hsep]
  have hall : ∀ c ∈ before.toList, decide (c ≠ sep) = true := by
    intro c hc
    exact decide_eq_true (ne_of_mem_of_not_mem hc h)
  rw [splitOnce, if_pos (by simp [htext]), htext, List.takeWhile_append_of_pos hall,
    List.dropWhile_append_of_pos hall]
  simp

theorem repr_injective {m n : Nat} (h : toString m = toString n) : m = n := by
  have hm := congrArg (fun s : String => Nat.ofDigitChars 10 s.toList 0) h
  simpa using hm

theorem isDigit_of_mem_repr {n : Nat} {c : Char} (h : c ∈ (toString n).toList) : c.isDigit = true := by
  rw [show (toString n).toList = Nat.toDigits 10 n by simp] at h
  exact Nat.isDigit_of_mem_toDigits (by decide) (by decide) h

theorem sign_or_digit_of_mem_repr {n : Int} {c : Char} (h : c ∈ (toString n).toList) : c = '-' ∨ c.isDigit = true := by
  cases n with
  | ofNat n => exact .inr (isDigit_of_mem_repr (n := n) h)
  | negSucc n =>
      rw [show toString (Int.negSucc n) = "-" ++ toString (n + 1) from rfl, String.toList_append, List.mem_append] at h
      obtain hsign | hdigit := h
      · exact .inl (List.mem_singleton.mp hsign)
      · exact .inr (isDigit_of_mem_repr hdigit)

theorem int_repr_injective {m n : Int} (h : toString m = toString n) : m = n := by
  have hsign (m n : Nat) : toString (Int.ofNat m) ≠ toString (Int.negSucc n) := by
    intro h
    have hmem : '-' ∈ (toString m).toList := by
      rw [show toString m = "-" ++ toString (n + 1) from h]
      simp
    exact absurd (isDigit_of_mem_repr hmem) (by decide)
  cases m with
  | ofNat m =>
      cases n with
      | ofNat n => rw [repr_injective (m := m) (n := n) h]
      | negSucc n => exact absurd h (hsign m n)
  | negSucc m =>
      cases n with
      | ofNat n => exact absurd h.symm (hsign n m)
      | negSucc n =>
          have hsucc := repr_injective ((String.append_right_inj "-").mp h)
          rw [Nat.succ.inj hsucc]

end Nightjar.Lib.Strings
