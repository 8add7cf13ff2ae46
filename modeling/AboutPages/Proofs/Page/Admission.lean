import AboutPages.Proofs.Page.Enumeration
import AboutPages.Proofs.Page.Resolution

/-!
# Admission to a table

A page is refused for its name, for a name that is taken, or for its target. Of several faults the
first in this order is reported, with the name as it was given, and the capabilities have no say. A
name that is refused for its letter case alone is cured by lower-casing it, because lower-casing
brings in no character that names must not hold.
-/

namespace AboutPages

open Text

/-! ## Names -/

/-- Some character of the name is one that names must not hold. -/
def HoldsReserved (name : String) : Prop :=
  ∃ c ∈ name.toList,
    (c = '?' ∨ c = '#' ∨ c = ':' ∨ c = '/') ∨ isBlank c = true ∨ isControl c = true

/-- A name that a page may have in some table. -/
structure WellNamed (name : String) : Prop where
  ne_empty : name ≠ ""
  free : ¬HoldsReserved name
  lower : lowercase name = name

theorem any_isReserved_iff (name : String) :
    name.toList.any isReserved = true ↔ HoldsReserved name := by
  simp [HoldsReserved, isReserved, or_assoc]

theorem not_holdsReserved_iff (name : String) :
    ¬HoldsReserved name ↔ ∀ c ∈ name.toList, isReserved c = false := by
  simp [← any_isReserved_iff]

theorem checkName_eq_ok_iff_wellNamed (name : String) :
    checkName name = .ok () ↔ WellNamed name := by
  rw [checkName_eq_ok_iff, ← not_holdsReserved_iff]
  constructor
  · rintro ⟨hempty, hfree, hlower⟩
    exact ⟨hempty, hfree, hlower⟩
  · intro hname
    exact ⟨hname.ne_empty, hname.free, hname.lower⟩

/-- The three faults of a name, each looked for only where there is none of those before it. -/
theorem checkName_eq_error_iff {name : String} {error : EntryError} :
    checkName name = .error error ↔
      (name = "" ∧ error = .emptyName) ∨
      (name ≠ "" ∧ HoldsReserved name ∧ error = .reservedCharacter name) ∨
      (name ≠ "" ∧ ¬HoldsReserved name ∧ lowercase name ≠ name ∧ error = .notLowercase name) := by
  unfold checkName
  rw [← any_isReserved_iff]
  by_cases hempty : name = ""
  · rw [if_pos hempty]
    simp only [hempty, ne_eq, not_true_eq_false, false_and, or_false, true_and,
      Except.error.injEq, eq_comm]
  · by_cases hreserved : name.toList.any isReserved = true
    · rw [if_neg hempty, if_pos hreserved]
      simp [hempty, hreserved, eq_comm]
    · rw [if_neg hempty, if_neg hreserved]
      by_cases hlower : lowercase name = name
      · simp [hempty, hreserved, hlower]
      · simp [hempty, hreserved, hlower, eq_comm]

/-! ## Lower-casing a name -/

theorem isReserved_of_wordlike {c : Char} (hwordlike : Wordlike c) : isReserved c = false := by
  obtain ⟨hlow, hblank, hcontrol⟩ := hwordlike
  rw [isReserved_eq_false_iff]
  refine ⟨⟨?_, ?_, ?_, ?_⟩, hblank, hcontrol⟩ <;>
    · rintro rfl
      exact absurd hlow (by decide)

theorem lowercase_free {text : String} (hfree : ∀ c ∈ text.toList, isReserved c = false) :
    ∀ c ∈ (lowercase text).toList, isReserved c = false := by
  intro c hc
  rcases mem_or_wordlike_of_mem_lowercase hc with hkept | hwordlike
  · exact hfree c hkept
  · exact isReserved_of_wordlike hwordlike

theorem wellNamed_lowercase {name : String} (hempty : name ≠ "") (hfree : ¬HoldsReserved name) :
    WellNamed (lowercase name) where
  ne_empty := lowercase_ne_empty hempty
  free := by
    rw [not_holdsReserved_iff] at hfree ⊢
    exact lowercase_free hfree
  lower := lowercase_lowercase name

/-! ## Pages -/

/-- When each error is due for a page with this name and target. Nothing that the capabilities hold
is asked for, and no error about them is ever due. -/
def EntryError.Due (table : PageTable) (name target : String) : EntryError → Prop
  | .emptyName => name = ""
  | .reservedCharacter given => given = name ∧ name ≠ "" ∧ HoldsReserved name
  | .notLowercase given =>
      given = name ∧ name ≠ "" ∧ ¬HoldsReserved name ∧ lowercase name ≠ name
  | .duplicateName given => given = name ∧ WellNamed name ∧ name ∈ table.names
  | .invalidTarget given refused reason =>
      (given = name ∧ refused = target) ∧ WellNamed name ∧ name ∉ table.names ∧
        ∃ fault, Target.check target = .error fault ∧ reason = fault.reason
  | .unknownCapability _ => False

/-- Nothing is said against a name that is in order except that it is taken. -/
theorem EntryError.Due.of_wellNamed {table : PageTable} {name target : String}
    (hname : WellNamed name) {error : EntryError} (hdue : error.Due table name target) :
    error = .duplicateName name ∨ ∃ reason, error = .invalidTarget name target reason := by
  cases error with
  | emptyName => exact absurd hdue hname.ne_empty
  | reservedCharacter given => exact absurd hdue.2.2 hname.free
  | notLowercase given => exact absurd hname.lower hdue.2.2.2
  | duplicateName given => exact Or.inl (congrArg EntryError.duplicateName hdue.1)
  | invalidTarget given refused reason =>
      obtain ⟨⟨rfl, rfl⟩, _⟩ := hdue
      exact Or.inr ⟨reason, rfl⟩
  | unknownCapability given => exact absurd hdue id

namespace PageTable

theorem insert_eq_error_iff_due {table : PageTable} {page : Page} {error : EntryError} :
    table.insert page = .error error ↔ error.Due table page.name page.target := by
  rw [insert_eq_error_iff, checkName_eq_error_iff, checkName_eq_ok_iff_wellNamed, ← mem_names_iff,
    ← not_mem_names_iff]
  constructor
  · rintro ((⟨hempty, rfl⟩ | ⟨hempty, hreserved, rfl⟩ | ⟨hempty, hfree, hcase, rfl⟩) |
      ⟨hname, htaken, rfl⟩ | ⟨hname, hnew, hcheck⟩)
    · exact hempty
    · exact ⟨rfl, hempty, hreserved⟩
    · exact ⟨rfl, hempty, hfree, hcase⟩
    · exact ⟨rfl, hname, htaken⟩
    · obtain ⟨fault, htarget, rfl⟩ := checkTarget_eq_error_iff.mp hcheck
      exact ⟨⟨rfl, rfl⟩, hname, hnew, fault, htarget, rfl⟩
  · intro hdue
    cases error with
    | emptyName => exact Or.inl (Or.inl ⟨hdue, rfl⟩)
    | reservedCharacter given =>
        obtain ⟨rfl, hempty, hreserved⟩ := hdue
        exact Or.inl (Or.inr (Or.inl ⟨hempty, hreserved, rfl⟩))
    | notLowercase given =>
        obtain ⟨rfl, hempty, hfree, hcase⟩ := hdue
        exact Or.inl (Or.inr (Or.inr ⟨hempty, hfree, hcase, rfl⟩))
    | duplicateName given =>
        obtain ⟨rfl, hname, htaken⟩ := hdue
        exact Or.inr (Or.inl ⟨hname, htaken, rfl⟩)
    | invalidTarget given refused reason =>
        obtain ⟨⟨rfl, rfl⟩, hname, hnew, fault, htarget, rfl⟩ := hdue
        exact Or.inr (Or.inr ⟨hname, hnew,
          checkTarget_eq_error_iff.mpr ⟨fault, htarget, rfl⟩⟩)
    | unknownCapability given => exact absurd hdue id

theorem insert_eq_ok_iff_wellNamed {table : PageTable} {page : Page} :
    table.insert page = .ok (table.put page) ↔
      WellNamed page.name ∧ page.name ∉ table.names ∧ Target.check page.target = .ok () := by
  rw [insert_eq_ok_iff, Page.inOrder_iff, checkName_eq_ok_iff_wellNamed, checkTarget_eq_ok_iff,
    not_mem_names_iff]
  constructor
  · rintro ⟨⟨hname, htarget⟩, hnew, _⟩
    exact ⟨hname, hnew, htarget⟩
  · rintro ⟨hname, hnew, htarget⟩
    exact ⟨⟨hname, htarget⟩, hnew, rfl⟩

/-- A page is refused for the first of its faults, whatever its capabilities are, and accepted if it
has none. A name that is refused for its letter case is in order once it is lower-cased: what can
still be said against the page is that the name is taken, or its target. -/
theorem refused_for_first_fault (table : PageTable) (page : Page) :
    (∀ error, table.insert page = .error error ↔ error.Due table page.name page.target) ∧
    (table.insert page = .ok (table.put page) ↔
      WellNamed page.name ∧ page.name ∉ table.names ∧ Target.check page.target = .ok ()) ∧
    (∀ set error, table.insert { page with capabilities := set } = .error error ↔
      table.insert page = .error error) ∧
    (table.insert page = .error (.notLowercase page.name) →
      ∀ (other : PageTable) (target : String) (set : Capabilities) (error : EntryError),
        other.insert ⟨lowercase page.name, target, set⟩ = .error error →
          error = .duplicateName (lowercase page.name) ∨
          ∃ reason, error = .invalidTarget (lowercase page.name) target reason) := by
  refine ⟨fun error => insert_eq_error_iff_due, insert_eq_ok_iff_wellNamed, ?_, ?_⟩
  · intro set error
    rw [insert_eq_error_iff_due, insert_eq_error_iff_due]
  · intro hrefused other target set error herror
    obtain ⟨_, hempty, hfree, _⟩ := insert_eq_error_iff_due.mp hrefused
    exact (insert_eq_error_iff_due.mp herror).of_wellNamed (wellNamed_lowercase hempty hfree)

/-- A name with a dotted capital I and a sigma at its end is refused for its letter case. Its
lower-case form is one character longer and is accepted, unless there is something against the
target. -/
theorem refused_for_first_fault_dotted :
    PageTable.empty.insert ⟨"İΣ", "nowhere", ⟨255⟩⟩ = .error (.notLowercase "İΣ") ∧
    lowercase "İΣ" = "i\u0307ς" ∧
    ∀ error, PageTable.empty.insert ⟨"i\u0307ς", "nowhere", ⟨0⟩⟩ = .error error →
      ∃ reason, error = .invalidTarget "i\u0307ς" "nowhere" reason := by
  obtain ⟨hdue, _, _, hcured⟩ :=
    refused_for_first_fault PageTable.empty ⟨"İΣ", "nowhere", ⟨255⟩⟩
  have hlower : lowercase "İΣ" = "i\u0307ς" := by decide +kernel
  have hfree : ¬HoldsReserved "İΣ" := by
    rw [← any_isReserved_iff]
    decide +kernel
  have hrefused := (hdue (.notLowercase "İΣ")).mpr ⟨rfl, by decide, hfree, by rw [hlower]; decide⟩
  refine ⟨hrefused, hlower, ?_⟩
  intro error herror
  rw [← hlower] at herror ⊢
  rcases hcured hrefused PageTable.empty "nowhere" ⟨0⟩ error herror with rfl | hreason
  · obtain ⟨_, _, htaken⟩ := insert_eq_error_iff_due.mp herror
    exact absurd htaken (not_mem_names_iff.mpr (find?_empty _))
  · exact hreason

end PageTable

end AboutPages
