import AboutPages.Text.Split

/-!
# Cutting a list and putting it together

A list is cut where a condition first fails, or at every separator and nowhere else. The latter
distributes over a separator between two lists, and a list without separators stays whole.
-/

namespace AboutPages.Text

/-! ## Cutting a list where a condition first fails -/

/-- Taking and dropping both stop at the seam of two lists, if the condition holds throughout the
first and fails where the second begins. -/
theorem takeWhile_dropWhile_seam {α : Type} {p : α → Bool} {front back : List α}
    (hfront : ∀ a ∈ front, p a = true) (hback : ∀ a ∈ back.head?, p a = false) :
    (front ++ back).takeWhile p = front ∧ (front ++ back).dropWhile p = back := by
  have hstop : back.takeWhile p = [] ∧ back.dropWhile p = back := by
    cases back with
    | nil => simp
    | cons a rest => simp [hback a rfl]
  rw [List.takeWhile_append_of_pos hfront, List.dropWhile_append_of_pos hfront, hstop.1, hstop.2]
  simp

theorem head?_dropWhile_eq_false {α : Type} {p : α → Bool} {l : List α} :
    ∀ a ∈ (l.dropWhile p).head?, p a = false := by
  intro a ha
  have hstop := List.head?_dropWhile_not p l
  rw [Option.mem_def.mp ha] at hstop
  simpa using hstop

theorem drop_length_takeWhile {α : Type} (p : α → Bool) (l : List α) :
    l.drop (l.takeWhile p).length = l.dropWhile p := by
  calc
    l.drop (l.takeWhile p).length
        = (l.takeWhile p ++ l.dropWhile p).drop (l.takeWhile p).length := by
          rw [List.takeWhile_append_dropWhile]
    _ = l.dropWhile p := List.drop_left

/-! ## Cutting a list at every separator -/

variable {α : Type} [DecidableEq α] {sep : α}

theorem pieces_cons_sep (sep : α) (xs : List α) : pieces sep (sep :: xs) = [] :: pieces sep xs := by
  simp [pieces]

theorem pieces_cons_of_ne {a : α} (hne : a ≠ sep) {xs piece : List α} {more : List (List α)}
    (hpieces : pieces sep xs = piece :: more) : pieces sep (a :: xs) = (a :: piece) :: more := by
  simp [pieces, hne, hpieces]

theorem exists_pieces_eq_cons (sep : α) (xs : List α) :
    ∃ piece more, pieces sep xs = piece :: more :=
  List.exists_cons_of_ne_nil (pieces_ne_nil sep xs)

theorem pieces_of_not_mem {xs : List α} (hsep : sep ∉ xs) : pieces sep xs = [xs] := by
  induction xs with
  | nil => rfl
  | cons a rest ih =>
      have hne : a ≠ sep := fun heq => hsep (heq ▸ List.mem_cons_self)
      have hrest : sep ∉ rest := fun hmem => hsep (List.mem_cons_of_mem a hmem)
      exact pieces_cons_of_ne hne (ih hrest)

/-- Cutting on both sides of a separator does not look across it. -/
theorem pieces_append_sep (sep : α) (xs ys : List α) :
    pieces sep (xs ++ sep :: ys) = pieces sep xs ++ pieces sep ys := by
  induction xs with
  | nil => exact pieces_cons_sep sep ys
  | cons a rest ih =>
      by_cases hsep : a = sep
      · subst hsep
        rw [List.cons_append, pieces_cons_sep, pieces_cons_sep, ih, List.cons_append]
      · obtain ⟨piece, more, hpieces⟩ := exists_pieces_eq_cons sep rest
        rw [hpieces, List.cons_append] at ih
        rw [List.cons_append, pieces_cons_of_ne hsep ih, pieces_cons_of_ne hsep hpieces,
          List.cons_append]

/-- Whole lines are cut into the lines, and nothing follows the last break. -/
theorem pieces_flatMap_append_sep {lines : List (List α)} (hlines : ∀ line ∈ lines, sep ∉ line) :
    pieces sep (lines.flatMap (· ++ [sep])) = lines ++ [[]] := by
  induction lines with
  | nil => rfl
  | cons line rest ih =>
      rw [List.forall_mem_cons] at hlines
      rw [List.flatMap_cons, List.append_assoc, List.singleton_append, pieces_append_sep,
        pieces_of_not_mem hlines.1, ih hlines.2]
      rfl

/-- Texts with a separator between neighbours: the first, then each of the others behind one. -/
theorem toList_intercalate (sep first : String) (more : List String) :
    (String.intercalate sep (first :: more)).toList =
      first.toList ++ more.flatMap fun text => sep.toList ++ text.toList := by
  induction more generalizing first with
  | nil => simp
  | cons second more ih =>
      rw [String.intercalate_cons_cons, String.toList_append, String.toList_append, ih]
      simp

end AboutPages.Text
