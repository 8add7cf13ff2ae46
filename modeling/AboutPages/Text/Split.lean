/-!
# Cutting a list at a separator
-/

namespace AboutPages.Text

/-- The stretches between the occurrences of `sep`, empty ones included: never the empty list. -/
def pieces {α : Type} [DecidableEq α] (sep : α) : List α → List (List α)
  | [] => [[]]
  | a :: rest =>
      if a = sep then [] :: pieces sep rest
      else
        match pieces sep rest with
        | [] => [[a]]
        | piece :: more => (a :: piece) :: more

theorem pieces_ne_nil {α : Type} [DecidableEq α] (sep : α) (xs : List α) :
    pieces sep xs ≠ [] := by
  cases xs with
  | nil => simp [pieces]
  | cons a rest =>
      unfold pieces
      split
      · simp
      · split <;> simp

/-- Everything before and after the last occurrence of `sep`, if it occurs. -/
def cutLast? {α : Type} [DecidableEq α] (sep : α) (xs : List α) : Option (List α × List α) :=
  if sep ∈ xs then
    let after := (xs.reverse.takeWhile (fun a => decide (a ≠ sep))).reverse
    some (xs.take (xs.length - after.length - 1), after)
  else none

def joined {α : Type} (sep : List α) : List (List α) → List α
  | [] => []
  | [part] => part
  | part :: more => part ++ sep ++ joined sep more

end AboutPages.Text
