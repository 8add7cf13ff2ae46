import AboutPages.Page.Basic
import AboutPages.Proofs.Address.Parts
import AboutPages.Proofs.Fold
import AboutPages.Proofs.Text.Casing

/-!
# Names of capabilities

A text names a capability if it is the stable name, in any letter case, with nothing but blanks
around it. A list of names is read as a set exactly if each of them names a capability; otherwise
the first one that does not is reported as it was written.
-/

namespace AboutPages

open Text

/-! ## Trimming -/

namespace Text

/-- Trimming takes nothing but blanks away. -/
theorem exists_trimBlankList (cs : List Char) :
    ∃ before after, cs = before ++ trimBlankList cs ++ after ∧
      (∀ c ∈ before, isBlank c = true) ∧ ∀ c ∈ after, isBlank c = true := by
  let rest := cs.dropWhile isBlank
  refine ⟨cs.takeWhile isBlank, (rest.reverse.takeWhile isBlank).reverse, ?_, ?_, ?_⟩
  · have hend : trimBlankList cs ++ (rest.reverse.takeWhile isBlank).reverse = rest := by
      rw [trimBlankList, ← List.reverse_append, List.takeWhile_append_dropWhile,
        List.reverse_reverse]
    rw [List.append_assoc, hend, List.takeWhile_append_dropWhile]
  · exact List.all_eq_true.mp List.all_takeWhile
  · intro c hc
    exact List.all_eq_true.mp List.all_takeWhile c (List.mem_reverse.mp hc)

/-- Trimming takes all blanks away up to a text that neither begins nor ends with one. -/
theorem trimBlankList_append {before core after : List Char} (hne : core ≠ [])
    (hbefore : ∀ c ∈ before, isBlank c = true) (hafter : ∀ c ∈ after, isBlank c = true)
    (hfirst : ∀ c ∈ core.head?, isBlank c = false)
    (hlast : ∀ c ∈ core.getLast?, isBlank c = false) :
    trimBlankList (before ++ core ++ after) = core := by
  have hstart : (before ++ core ++ after).dropWhile isBlank = core ++ after := by
    rw [List.append_assoc]
    refine (takeWhile_dropWhile_seam hbefore ?_).2
    rwa [List.head?_append, Option.or_of_isSome (by simpa using hne)]
  have hend : (after.reverse ++ core.reverse).dropWhile isBlank = core.reverse := by
    refine (takeWhile_dropWhile_seam ?_ ?_).2
    · intro c hc
      exact hafter c (List.mem_reverse.mp hc)
    · rwa [List.head?_reverse]
  rw [trimBlankList, hstart, List.reverse_append, hend, List.reverse_reverse]

end Text

/-! ## One name -/

namespace Capability

/-- The text is the stable name of the capability, up to blanks around it and the case of A to
Z. -/
def Named (capability : Capability) (text : String) : Prop :=
  ∃ before core after, text.toList = before ++ core ++ after ∧
    (∀ c ∈ before, isBlank c = true) ∧ (∀ c ∈ after, isBlank c = true) ∧
    core.map Char.toLower = capability.stableName.toList

theorem stableName_injective {a b : Capability} (hname : a.stableName = b.stableName) : a = b := by
  revert hname
  cases a <;> cases b <;> decide

/-- A stable name is in small letters, and no blank stands at its ends. -/
theorem stableName_shape (capability : Capability) :
    let name := capability.stableName.toList
    name.map Char.toLower = name ∧ name ≠ [] ∧
      (∀ c ∈ name.head?, isBlank c = false) ∧ ∀ c ∈ name.getLast?, isBlank c = false := by
  intro name
  have hends : name.map Char.toLower = name ∧ name ≠ [] ∧
      name.head?.any isBlank = false ∧ name.getLast?.any isBlank = false := by
    cases capability <;> decide +kernel
  obtain ⟨hsmall, hne, hfirst, hlast⟩ := hends
  refine ⟨hsmall, hne, ?_, ?_⟩
  · intro c hc
    simpa [Option.mem_def.mp hc] using hfirst
  · intro c hc
    simpa [Option.mem_def.mp hc] using hlast

theorem sameIgnoringCase_stableName_iff (capability : Capability) (core : List Char) :
    sameIgnoringCase core capability.stableName.toList = true ↔
      core.map Char.toLower = capability.stableName.toList := by
  rw [sameIgnoringCase, decide_eq_true_iff, (stableName_shape capability).1]

theorem named_iff (capability : Capability) (text : String) :
    capability.Named text ↔
      (trimBlankList text.toList).map Char.toLower = capability.stableName.toList := by
  obtain ⟨_, hne, hfirst, hlast⟩ := stableName_shape capability
  constructor
  · rintro ⟨before, core, after, htext, hbefore, hafter, hcore⟩
    rw [← hcore] at hne hfirst hlast
    have htrim : trimBlankList (before ++ core ++ after) = core := by
      refine trimBlankList_append (by simpa using hne) hbefore hafter ?_ ?_
      · intro c hc
        rw [← isBlank_toLower]
        exact hfirst _ (by simpa using ⟨c, hc, rfl⟩)
      · intro c hc
        rw [← isBlank_toLower]
        exact hlast _ (by simpa using ⟨c, hc, rfl⟩)
    rw [htext, htrim, hcore]
  · intro hname
    obtain ⟨before, after, htext, hbefore, hafter⟩ := exists_trimBlankList text.toList
    exact ⟨before, _, after, htext, hbefore, hafter, hname⟩

theorem Named.unique {a b : Capability} {text : String} (ha : a.Named text) (hb : b.Named text) :
    a = b := by
  rw [named_iff] at ha hb
  exact stableName_injective (String.toList_inj.mp (ha.symm.trans hb))

theorem ofStableName?_eq_some_iff {text : String} {capability : Capability} :
    ofStableName? text = some capability ↔ capability.Named text := by
  have hmatch : ∀ other : Capability,
      sameIgnoringCase (trimBlankList text.toList) other.stableName.toList = true ↔
        other.Named text := by
    intro other
    rw [sameIgnoringCase_stableName_iff, named_iff]
  have hfound : ∀ {other}, ofStableName? text = some other → other.Named text := by
    intro other hfind
    have hsame := List.find?_some hfind
    exact (hmatch other).mp hsame
  constructor
  · exact hfound
  · intro hnamed
    cases hfind : ofStableName? text with
    | none =>
        exact absurd ((hmatch capability).mpr hnamed)
          (List.find?_eq_none.mp hfind capability (mem_all capability))
    | some other => rw [(hfound hfind).unique hnamed]

end Capability

def NamesCapability (text : String) : Prop := ∃ capability : Capability, capability.Named text

theorem ofStableName?_eq_none_iff {text : String} :
    Capability.ofStableName? text = none ↔ ¬NamesCapability text := by
  rw [Option.eq_none_iff_forall_ne_some]
  simp only [NamesCapability, not_exists, ne_eq, Capability.ofStableName?_eq_some_iff]

/-! ## Lists of names -/

namespace Capabilities

theorem exists_ofNames_eq_ok_iff {names : List String} :
    (∃ set, ofNames names = .ok set) ↔ ∀ name ∈ names, NamesCapability name := by
  refine exists_foldlM_eq_ok_iff ?_
  intro set name
  cases hfind : Capability.ofStableName? name with
  | some capability =>
      have hnamed := Capability.ofStableName?_eq_some_iff.mp hfind
      simpa using ⟨capability, hnamed⟩
  | none => simpa using ofStableName?_eq_none_iff.mp hfind

/-- Of the names that are not known, the first is reported. -/
theorem ofNames_eq_error_iff {names : List String} {name : String} :
    ofNames names = .error name ↔
      ∃ before after, names = before ++ name :: after ∧
        (∀ known ∈ before, NamesCapability known) ∧ ¬NamesCapability name := by
  rw [ofNames, foldlM_eq_error_iff]
  constructor
  · rintro ⟨before, a, after, middle, rfl, hbefore, hfails⟩
    cases hfind : Capability.ofStableName? a with
    | some capability => simp [hfind] at hfails
    | none =>
        simp only [hfind, Except.error.injEq] at hfails
        subst hfails
        exact ⟨before, after, rfl, exists_ofNames_eq_ok_iff.mp ⟨middle, hbefore⟩,
          ofStableName?_eq_none_iff.mp hfind⟩
  · rintro ⟨before, after, rfl, hbefore, hunknown⟩
    obtain ⟨middle, hmiddle⟩ := exists_ofNames_eq_ok_iff.mpr hbefore
    refine ⟨before, name, after, middle, rfl, hmiddle, ?_⟩
    simp only [ofStableName?_eq_none_iff.mpr hunknown]

end Capabilities

end AboutPages
