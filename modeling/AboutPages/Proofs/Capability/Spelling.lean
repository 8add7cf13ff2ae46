import AboutPages.Proofs.Capability.Encoding
import Mathlib.Data.List.TakeWhile

/-!
# Lists of names as sets

What a list of names stands for is decided by the capabilities that its names denote, and by nothing
else: the order, repetitions, the case of A to Z and blanks around a name do not matter. All this
follows from one description of the sets that lists are read as.
-/

namespace AboutPages

open Text

/-! ## Other spellings of a text -/

namespace Text

/-- The same text with blanks around it, and in another case of A to Z. -/
def Respells (text written : String) : Prop :=
  ∃ before core after, written.toList = before ++ core ++ after ∧
    (∀ c ∈ before, isBlank c = true) ∧ (∀ c ∈ after, isBlank c = true) ∧
    core.map Char.toLower = text.toList.map Char.toLower

theorem dropWhile_isBlank_map_toLower (cs : List Char) :
    (cs.map Char.toLower).dropWhile isBlank = (cs.dropWhile isBlank).map Char.toLower := by
  have hblank : isBlank ∘ Char.toLower = isBlank := funext isBlank_toLower
  rw [List.dropWhile_map, hblank]

theorem trimBlankList_map_toLower (cs : List Char) :
    trimBlankList (cs.map Char.toLower) = (trimBlankList cs).map Char.toLower := by
  rw [trimBlankList, dropWhile_isBlank_map_toLower, ← List.map_reverse,
    dropWhile_isBlank_map_toLower, ← List.map_reverse, trimBlankList]

/-- Blanks around a list make no difference to trimming, whatever is in the list. -/
theorem trimBlankList_surrounded {before after : List Char} (core : List Char)
    (hbefore : ∀ c ∈ before, isBlank c = true) (hafter : ∀ c ∈ after, isBlank c = true) :
    trimBlankList (before ++ core ++ after) = trimBlankList core := by
  have hend : ∀ c ∈ after.reverse, isBlank c = true :=
    fun c hc => hafter c (List.mem_reverse.mp hc)
  rw [trimBlankList, trimBlankList, List.append_assoc, List.dropWhile_append_of_pos hbefore,
    List.dropWhile_append]
  cases hcore : core.dropWhile isBlank with
  | nil =>
      have hnothing : after.dropWhile isBlank = [] := List.dropWhile_eq_nil_iff.mpr hafter
      simp [hnothing]
  | cons c rest =>
      rw [List.isEmpty_cons, if_neg (by simp), List.reverse_append,
        List.dropWhile_append_of_pos hend]

/-- All spellings of a text are the same after trimming, up to the case of A to Z. -/
theorem Respells.trimmed {text written : String} (hspells : Respells text written) :
    (trimBlankList written.toList).map Char.toLower =
      (trimBlankList text.toList).map Char.toLower := by
  obtain ⟨before, core, after, hwritten, hbefore, hafter, hcore⟩ := hspells
  rw [hwritten, trimBlankList_surrounded core hbefore hafter, ← trimBlankList_map_toLower, hcore,
    trimBlankList_map_toLower]

end Text

theorem Capability.named_iff_of_respells {text written : String} (hspells : Respells text written)
    (capability : Capability) : capability.Named written ↔ capability.Named text := by
  rw [named_iff, named_iff, hspells.trimmed]

/-! ## What a list denotes -/

def Capability.DenotedBy (capability : Capability) (list : List String) : Prop :=
  ∃ name ∈ list, capability.Named name

namespace Capabilities

open Capability

theorem addName_eq_ok_iff {a next : Capabilities} {name : String} :
    a.addName name = .ok next ↔
      ∃ capability : Capability, capability.Named name ∧ next = a.union (single capability) := by
  simp only [← ofStableName?_eq_some_iff, addName]
  cases ofStableName? name with
  | none => simp
  | some capability => simp [eq_comm]

theorem has_of_foldlM_addName {list : List String} {start set : Capabilities}
    (hread : list.foldlM addName start = .ok set) (capability : Capability) :
    set.has capability = true ↔ start.has capability = true ∨ capability.DenotedBy list := by
  induction list generalizing start with
  | nil =>
      cases hread
      simp [DenotedBy]
  | cons name rest ih =>
      obtain ⟨middle, hfirst, hrest⟩ := foldlM_cons_eq_ok_iff.mp hread
      obtain ⟨named, hnamed, rfl⟩ := addName_eq_ok_iff.mp hfirst
      have hhead : capability.Named name ↔ named = capability :=
        ⟨hnamed.unique, fun heq => heq ▸ hnamed⟩
      simp only [ih hrest, has_union, has_single, Bool.or_eq_true, decide_eq_true_eq, DenotedBy,
        List.mem_cons, exists_eq_or_imp, hhead, or_assoc]

/-- A list of names is read as the set of what it denotes, if each name denotes something. -/
theorem ofNames_eq_ok_iff {list : List String} {set : Capabilities} :
    ofNames list = .ok set ↔
      (∀ name ∈ list, NamesCapability name) ∧ set.Known ∧
        ∀ capability, set.has capability = true ↔ capability.DenotedBy list := by
  have hmembers : ∀ {read}, ofNames list = .ok read → ∀ capability : Capability,
      read.has capability = true ↔ capability.DenotedBy list := by
    intro read hread capability
    simpa using has_of_foldlM_addName hread capability
  constructor
  · intro hread
    exact ⟨exists_ofNames_eq_ok_iff.mp ⟨set, hread⟩, known_of_ofNames hread, hmembers hread⟩
  · rintro ⟨hnames, hknown, hhas⟩
    obtain ⟨read, hread⟩ := exists_ofNames_eq_ok_iff.mpr hnames
    have hsame : read = set := by
      refine eq_of_has (known_of_ofNames hread) hknown ?_
      intro capability
      rw [Bool.eq_iff_iff, hmembers hread, hhas]
    rw [hread, hsame]

/-! ## Lists that denote the same -/

/-- If each name of either list is respelled in the other, both stand for the same set. -/
theorem ofNames_congr {list other : List String} {set : Capabilities}
    (hread : ofNames list = .ok set)
    (hthere : ∀ name ∈ list, ∃ written ∈ other, Respells name written)
    (hback : ∀ written ∈ other, ∃ name ∈ list, Respells name written) :
    ofNames other = .ok set := by
  obtain ⟨hnames, hknown, hhas⟩ := ofNames_eq_ok_iff.mp hread
  refine ofNames_eq_ok_iff.mpr ⟨?_, hknown, ?_⟩
  · intro written hwritten
    obtain ⟨name, hname, hspells⟩ := hback written hwritten
    obtain ⟨capability, hnamed⟩ := hnames name hname
    exact ⟨capability, (named_iff_of_respells hspells capability).mpr hnamed⟩
  · intro capability
    rw [hhas]
    constructor
    · rintro ⟨name, hname, hnamed⟩
      obtain ⟨written, hwritten, hspells⟩ := hthere name hname
      exact ⟨written, hwritten, (named_iff_of_respells hspells capability).mpr hnamed⟩
    · rintro ⟨written, hwritten, hnamed⟩
      obtain ⟨name, hname, hspells⟩ := hback written hwritten
      exact ⟨name, hname, (named_iff_of_respells hspells capability).mp hnamed⟩

theorem ofNames_of_mem_iff {list other : List String} {set : Capabilities}
    (hread : ofNames list = .ok set) (hmem : ∀ name, name ∈ other ↔ name ∈ list) :
    ofNames other = .ok set := by
  have hself : ∀ name, Respells name name := fun name => ⟨[], name.toList, [], by simp⟩
  refine ofNames_congr hread ?_ ?_
  · exact fun name hname => ⟨name, (hmem name).mpr hname, hself name⟩
  · exact fun name hname => ⟨name, (hmem name).mp hname, hself name⟩

theorem ofNames_of_respells {list other : List String} {set : Capabilities}
    (hread : ofNames list = .ok set) (hspells : List.Forall₂ Respells list other) :
    ofNames other = .ok set :=
  ofNames_congr hread (exists_right_of_forall₂ hspells) (exists_left_of_forall₂ hspells)

/-! ## Lists put together -/

theorem denotedBy_append {capability : Capability} {first second : List String} :
    capability.DenotedBy (first ++ second) ↔
      capability.DenotedBy first ∨ capability.DenotedBy second := by
  simp only [DenotedBy, List.mem_append, or_and_right, exists_or]

/-- Two lists one after the other stand for the union, unless there is a first unknown name. -/
theorem ofNames_append (first second : List String) :
    ofNames (first ++ second) =
      match ofNames first with
      | .error name => .error name
      | .ok set => (ofNames second).map set.union := by
  cases hfirst : ofNames first with
  | error name =>
      obtain ⟨before, after, rfl, hbefore, hname⟩ := ofNames_eq_error_iff.mp hfirst
      exact ofNames_eq_error_iff.mpr ⟨before, after ++ second, by simp, hbefore, hname⟩
  | ok set =>
      obtain ⟨hnames, hknown, hhas⟩ := ofNames_eq_ok_iff.mp hfirst
      cases hsecond : ofNames second with
      | error name =>
          obtain ⟨before, after, rfl, hbefore, hname⟩ := ofNames_eq_error_iff.mp hsecond
          refine ofNames_eq_error_iff.mpr ⟨first ++ before, after, by simp, ?_, hname⟩
          intro known hmem
          exact (List.mem_append.mp hmem).elim (hnames known) (hbefore known)
      | ok more =>
          obtain ⟨hmoreNames, hmoreKnown, hmoreHas⟩ := ofNames_eq_ok_iff.mp hsecond
          refine ofNames_eq_ok_iff.mpr ⟨?_, hknown.union hmoreKnown, ?_⟩
          · intro known hmem
            exact (List.mem_append.mp hmem).elim (hnames known) (hmoreNames known)
          · intro capability
            rw [has_union, Bool.or_eq_true, hhas, hmoreHas, denotedBy_append]

/-! ## The names of a set -/

/-- The names of what was read are the denoted capabilities, once each and in their order. -/
theorem names_of_ofNames {list : List String} {set : Capabilities}
    (hread : ofNames list = .ok set) :
    ∃ denoted : List Capability, denoted.Nodup ∧ denoted.Sublist all ∧
      (∀ capability, capability ∈ denoted ↔ capability.DenotedBy list) ∧
      set.names = denoted.map stableName := by
  obtain ⟨_, _, hhas⟩ := ofNames_eq_ok_iff.mp hread
  have hsublist : set.toList.Sublist all := List.filter_sublist
  have hall : all.Nodup := by decide
  refine ⟨set.toList, hsublist.nodup hall, hsublist, ?_, rfl⟩
  intro capability
  rw [mem_toList, hhas]

theorem ofNames_names_of_ofNames {list : List String} {set : Capabilities}
    (hread : ofNames list = .ok set) : ofNames set.names = .ok set := by
  rw [ofNames_names, known_of_ofNames hread]

end Capabilities

end AboutPages
