import Mathlib.Data.List.Forall2

/-!
# Folds whose steps may fail

Tables and sets of capabilities are filled by folds that stop at the first failing step. Such a fold
succeeds if each step does, and fails with the error of the step before which all others succeed.
-/

namespace AboutPages

variable {α β ε : Type} {step : β → α → Except ε β}

theorem bind_eq_ok_iff {first : Except ε α} {next : α → Except ε β} {final : β} :
    first >>= next = .ok final ↔ ∃ middle, first = .ok middle ∧ next middle = .ok final := by
  cases first with
  | error error => simp [bind, Except.bind]
  | ok middle => simp [bind, Except.bind]

theorem foldlM_cons_eq_ok_iff {a : α} {rest : List α} {start final : β} :
    (a :: rest).foldlM step start = .ok final ↔
      ∃ middle, step start a = .ok middle ∧ rest.foldlM step middle = .ok final := by
  rw [List.foldlM_cons, bind_eq_ok_iff]

theorem foldlM_cons_of_ok {a : α} {rest : List α} {start middle : β}
    (hfirst : step start a = .ok middle) :
    (a :: rest).foldlM step start = rest.foldlM step middle := by
  rw [List.foldlM_cons, hfirst]
  rfl

theorem foldlM_cons_of_error {a : α} {rest : List α} {start : β} {error : ε}
    (hfirst : step start a = .error error) :
    (a :: rest).foldlM step start = .error error := by
  rw [List.foldlM_cons, hfirst]
  rfl

/-- The error of a fold is that of one step, up to which the fold succeeds. -/
theorem foldlM_eq_error_iff {l : List α} {start : β} {error : ε} :
    l.foldlM step start = .error error ↔
      ∃ before a after middle, l = before ++ a :: after ∧
        before.foldlM step start = .ok middle ∧ step middle a = .error error := by
  constructor
  · intro hfails
    induction l generalizing start with
    | nil => cases hfails
    | cons a rest ih =>
        cases hfirst : step start a with
        | error first =>
            rw [foldlM_cons_of_error hfirst] at hfails
            cases hfails
            exact ⟨[], a, rest, start, rfl, rfl, hfirst⟩
        | ok middle =>
            rw [foldlM_cons_of_ok hfirst] at hfails
            obtain ⟨before, b, after, last, rfl, hbefore, hlast⟩ := ih hfails
            exact ⟨a :: before, b, after, last, rfl,
              foldlM_cons_eq_ok_iff.mpr ⟨middle, hfirst, hbefore⟩, hlast⟩
  · rintro ⟨before, a, after, middle, rfl, hbefore, hfails⟩
    rw [List.foldlM_append, hbefore]
    exact foldlM_cons_of_error hfails

/-- If a step looks at the element alone to see whether it fails, the fold needs nothing but that
each element passes. -/
theorem exists_foldlM_eq_ok_iff {passes : α → Prop}
    (hstep : ∀ b a, (∃ next, step b a = .ok next) ↔ passes a) {l : List α} {start : β} :
    (∃ final, l.foldlM step start = .ok final) ↔ ∀ a ∈ l, passes a := by
  induction l generalizing start with
  | nil => exact ⟨fun _ => by simp, fun _ => ⟨start, rfl⟩⟩
  | cons a rest ih =>
      rw [List.forall_mem_cons]
      constructor
      · rintro ⟨final, hfold⟩
        obtain ⟨middle, hfirst, hrest⟩ := foldlM_cons_eq_ok_iff.mp hfold
        exact ⟨(hstep start a).mp ⟨middle, hfirst⟩, ih.mp ⟨final, hrest⟩⟩
      · rintro ⟨hpasses, hall⟩
        obtain ⟨middle, hfirst⟩ := (hstep start a).mpr hpasses
        rw [foldlM_cons_of_ok hfirst]
        exact ih.mpr hall

/-! ## Two lists side by side -/

theorem foldlM_eq_of_forall₂ {R : α → α → Prop}
    (hstep : ∀ a other, R a other → ∀ b, step b a = step b other) {l others : List α}
    (hall : List.Forall₂ R l others) (start : β) :
    l.foldlM step start = others.foldlM step start := by
  induction hall generalizing start with
  | nil => rfl
  | cons hfirst _ ih =>
      rw [List.foldlM_cons, List.foldlM_cons, hstep _ _ hfirst]
      simp only [ih]

theorem exists_right_of_forall₂ {R : α → β → Prop} {l : List α} {m : List β}
    (hall : List.Forall₂ R l m) : ∀ a ∈ l, ∃ b ∈ m, R a b := by
  induction hall with
  | nil => simp
  | @cons a b _ _ hfirst _ ih =>
      rw [List.forall_mem_cons]
      refine ⟨⟨b, List.mem_cons_self, hfirst⟩, ?_⟩
      intro other hother
      obtain ⟨partner, hpartner, hrelated⟩ := ih other hother
      exact ⟨partner, List.mem_cons_of_mem b hpartner, hrelated⟩

theorem exists_left_of_forall₂ {R : α → β → Prop} {l : List α} {m : List β}
    (hall : List.Forall₂ R l m) : ∀ b ∈ m, ∃ a ∈ l, R a b :=
  exists_right_of_forall₂ (R := fun b a => R a b) hall.flip

end AboutPages
