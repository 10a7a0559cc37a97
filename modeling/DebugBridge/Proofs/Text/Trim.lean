import Mathlib
import DebugBridge.Text.Trim

/-!
# Taking characters off the ends of a text

What `afterFront?`, `dropLastWhile` and `trimBlank` leave of a text, by what it is put together from.
-/

namespace DebugBridge

/-- The characters at the end that satisfy `p` go, if no others do. -/
theorem dropLastWhile_append {α : Type} {p : α → Bool} {kept dropped : List α} (keep : ∀ x ∈ kept, p x = false)
    (drop : ∀ x ∈ dropped, p x = true) : dropLastWhile p (kept ++ dropped) = kept := by
  have stops : kept.reverse.dropWhile p = kept.reverse := by
    cases shape : kept.reverse with
    | nil => rfl
    | cons x others =>
        have last : p x = false := keep x (List.mem_reverse.mp (shape ▸ List.mem_cons_self))
        exact List.dropWhile_cons_of_neg (by simp [last])
  have reversed : ∀ x ∈ dropped.reverse, p x = true := fun x member => drop x (List.mem_reverse.mp member)
  rw [dropLastWhile, List.reverse_append, List.dropWhile_append_of_pos reversed, stops, List.reverse_reverse]

theorem afterFront?_append (front text : List Char) : afterFront? front (front ++ text) = some text := by
  induction front with
  | nil => rfl
  | cons c front ih => simp [afterFront?, ih]

/-- What comes after a front is the rest of a text that has it. -/
theorem afterFront?_eq_some_iff {front text rest : List Char} :
    afterFront? front text = some rest ↔ text = front ++ rest := by
  induction front generalizing text with
  | nil => simp [afterFront?]
  | cons c front ih =>
      cases text with
      | nil => simp [afterFront?]
      | cons d text =>
          by_cases same : c = d
          · simp [afterFront?, same, ih]
          · simp [afterFront?, same, Ne.symm same]

/-- What is dropped at the end is all of one kind. -/
theorem exists_dropLastWhile {α : Type} (p : α → Bool) (xs : List α) :
    ∃ dropped, xs = dropLastWhile p xs ++ dropped ∧ ∀ x ∈ dropped, p x = true :=
  ⟨xs.rtakeWhile p, List.rdropWhile_append_rtakeWhile.symm, fun _ member => List.mem_rtakeWhile_imp member⟩

theorem dropLastWhile_congr {α : Type} {p q : α → Bool} {xs : List α} (same : ∀ x ∈ xs, p x = q x) :
    dropLastWhile p xs = dropLastWhile q xs := by
  have ends {ys : List α} (same : ∀ y ∈ ys, p y = q y) : ys.dropWhile p = ys.dropWhile q := by
    induction ys with
    | nil => rfl
    | cons y ys ih =>
        obtain ⟨here, there⟩ := List.forall_mem_cons.mp same
        simp only [List.dropWhile_cons, here, ih there]
  rw [dropLastWhile, dropLastWhile, ends fun x member => same x (List.mem_reverse.mp member)]

/-- What has nothing to take off its own end stays in front of whatever has. -/
theorem dropLastWhile_append_right {α : Type} {p : α → Bool} {front : List α} (keeps : dropLastWhile p front = front)
    (xs : List α) : dropLastWhile p (front ++ xs) = front ++ dropLastWhile p xs := by
  induction xs using List.reverseRecOn with
  | nil => rw [List.append_nil, keeps]; exact (List.append_nil front).symm
  | append_singleton xs x ih =>
      rw [← List.append_assoc]
      by_cases drop : p x = true
      · exact (List.rdropWhile_concat_pos p _ x drop).trans
          (ih.trans (congrArg (front ++ ·) (List.rdropWhile_concat_pos p xs x drop).symm))
      · exact (List.rdropWhile_concat_neg p _ x drop).trans
          ((List.append_assoc front xs [x]).trans (congrArg (front ++ ·) (List.rdropWhile_concat_neg p xs x drop).symm))

/-- A blank at the end makes no difference. -/
theorem trimBlank_concat {c : Char} (blank : isBlank c = true) (cs : List Char) :
    trimBlank (cs ++ [c]) = trimBlank cs := by
  rw [trimBlank, trimBlank, List.dropWhile_append]
  split
  · next none =>
      rw [List.isEmpty_iff.mp none, List.dropWhile_cons_of_pos blank]
      rfl
  · exact List.rdropWhile_concat_pos isBlank _ c blank

/-- Blanks that are taken off the end would have been trimmed as well. -/
theorem trimBlank_dropLastWhile {p : Char → Bool} (blank : ∀ c, p c = true → isBlank c = true) (cs : List Char) :
    trimBlank (dropLastWhile p cs) = trimBlank cs := by
  induction cs using List.reverseRecOn with
  | nil => rfl
  | append_singleton cs c ih =>
      by_cases drop : p c = true
      · rw [trimBlank_concat (blank c drop), ← ih]
        exact congrArg trimBlank (List.rdropWhile_concat_pos p cs c drop)
      · exact congrArg trimBlank (List.rdropWhile_concat_neg p cs c drop)

/-- Blanks within a text stay. -/
theorem trimBlank_between {blanks inner : List Char} {first last : Char} (blank : ∀ c ∈ blanks, isBlank c = true)
    (starts : isBlank first = false) (ends : isBlank last = false) :
    trimBlank (blanks ++ first :: (inner ++ [last])) = first :: (inner ++ [last]) := by
  rw [trimBlank, List.dropWhile_append_of_pos blank, List.dropWhile_cons_of_neg (by simp [starts]), ← List.cons_append]
  exact List.rdropWhile_concat_neg isBlank _ last (by simp [ends])

/-- Trimming leaves a text without blanks if it stands there with nothing but blanks around it. -/
theorem trimBlank_eq_iff {text value : List Char} (some : text ≠ []) (plain : ∀ c ∈ text, isBlank c = false) :
    trimBlank value = text ↔
      ∃ before after, value = before ++ (text ++ after) ∧ (∀ c ∈ before, isBlank c = true) ∧
        ∀ c ∈ after, isBlank c = true := by
  constructor
  · rintro rfl
    obtain ⟨after, ends, blank⟩ := exists_dropLastWhile isBlank (value.dropWhile isBlank)
    refine ⟨value.takeWhile isBlank, after, ?_, fun c member => List.mem_takeWhile_imp member, blank⟩
    rw [trimBlank, ← ends, List.takeWhile_append_dropWhile]
  · rintro ⟨before, after, rfl, blank, blanks⟩
    obtain ⟨c, rest, rfl⟩ := List.exists_cons_of_ne_nil some
    have starts : (before ++ (c :: rest ++ after)).dropWhile isBlank = c :: rest ++ after := by
      rw [List.dropWhile_append_of_pos blank]
      exact List.dropWhile_cons_of_neg (by simp [plain c List.mem_cons_self])
    rw [trimBlank, starts, dropLastWhile_append plain blanks]

end DebugBridge
