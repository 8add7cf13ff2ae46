import AboutPages.Proofs.Capability.Spelling
import AboutPages.Proofs.Settings.Table

/-!
# Flags in settings

The flags of an extra page are a list of names, and count only for the set that they stand for. So
settings whose flags are written in the standard way describe the same table as before, or fail for
the same reason.
-/

namespace AboutPages

open Text

/-- The same extra page, with its flags written as the names of the set that they stand for. -/
structure ExtraPage.Standardized (extra written : ExtraPage) : Prop where
  name_eq : written.name = extra.name
  target_eq : written.target = extra.target
  flags_eq : ∃ set, capabilitiesOfNames extra.flags = .ok set ∧ written.flags = set.names

theorem ExtraPage.Standardized.capabilities_eq {extra written : ExtraPage}
    (hstandard : extra.Standardized written) :
    capabilitiesOfNames written.flags = capabilitiesOfNames extra.flags := by
  obtain ⟨set, hread, hflags⟩ := hstandard.flags_eq
  have hset := capabilitiesOfNames_eq_ok_iff.mp hread
  rw [hread, hflags, capabilitiesOfNames_eq_ok_iff]
  exact Capabilities.ofNames_names_of_ofNames hset

theorem PageTable.insertExtra_standardized (extra written : ExtraPage)
    (hstandard : extra.Standardized written) (table : PageTable) :
    table.insertExtra extra = table.insertExtra written := by
  rw [insertExtra_eq, insertExtra_eq, hstandard.capabilities_eq, hstandard.name_eq,
    hstandard.target_eq]

theorem Settings.buildTable_standardized (settings : Settings) {extras : List ExtraPage}
    (hstandard : List.Forall₂ ExtraPage.Standardized settings.extraPages extras) :
    { settings with extraPages := extras }.buildTable = settings.buildTable := by
  rw [buildTable, buildTable]
  exact (foldlM_eq_of_forall₂ PageTable.insertExtra_standardized hstandard _).symm

/-! ## What lists of flags are read as -/

/-- The set is that of the capabilities which the list denotes. It is also read from every list with
the same names in any order and number, from every list that spells them otherwise, and from its own
names, which are those of the denoted capabilities in their order. -/
structure Capabilities.ReadFrom (set : Capabilities) (list : List String) : Prop where
  known : set.Known
  has_iff : ∀ capability, set.has capability = true ↔ capability.DenotedBy list
  of_same_names : ∀ other : List String, (∀ name, name ∈ other ↔ name ∈ list) →
    capabilitiesOfNames other = .ok set
  of_respelled : ∀ other, List.Forall₂ Respells list other → capabilitiesOfNames other = .ok set
  names_eq : ∃ denoted : List Capability, denoted.Nodup ∧ denoted.Sublist Capability.all ∧
    (∀ capability, capability ∈ denoted ↔ capability.DenotedBy list) ∧
    set.names = denoted.map Capability.stableName
  of_names : capabilitiesOfNames set.names = .ok set

theorem Capabilities.readFrom_of_ofNames {list : List String} {set : Capabilities}
    (hread : ofNames list = .ok set) : set.ReadFrom list := by
  obtain ⟨_, hknown, hhas⟩ := ofNames_eq_ok_iff.mp hread
  exact
    { known := hknown
      has_iff := hhas
      of_same_names := fun other hmem =>
        capabilitiesOfNames_eq_ok_iff.mpr (ofNames_of_mem_iff hread hmem)
      of_respelled := fun other hspells =>
        capabilitiesOfNames_eq_ok_iff.mpr (ofNames_of_respells hread hspells)
      names_eq := names_of_ofNames hread
      of_names := capabilitiesOfNames_eq_ok_iff.mpr (ofNames_names_of_ofNames hread) }

theorem capabilitiesOfNames_append (first second : List String) :
    capabilitiesOfNames (first ++ second) =
      match capabilitiesOfNames first with
      | .error error => .error error
      | .ok set => (capabilitiesOfNames second).map set.union := by
  rw [capabilitiesOfNames, capabilitiesOfNames, capabilitiesOfNames, Capabilities.ofNames_append]
  cases Capabilities.ofNames first with
  | error name => rfl
  | ok set => cases Capabilities.ofNames second <;> rfl

/-- Flags count for the set of what they denote. A list of flags is read exactly if each of them is
the name of a capability, between blanks and in any case of A to Z; otherwise the first that is not
is reported as it was written. What is read depends on the denoted capabilities alone, and two lists
one after the other give the union. So the flags of extra pages may be rewritten as the names of the
sets that they stand for: the settings describe the same table or fail alike. -/
theorem flags_count_as_sets (list : List String) :
    ((∃ set, capabilitiesOfNames list = .ok set) ↔ ∀ name ∈ list, NamesCapability name) ∧
    (∀ error, capabilitiesOfNames list = .error error ↔
      ∃ before name after, list = before ++ name :: after ∧
        (∀ known ∈ before, NamesCapability known) ∧ ¬NamesCapability name ∧
        error = .unknownCapability name) ∧
    (∀ set, capabilitiesOfNames list = .ok set → set.ReadFrom list) ∧
    (∀ more, capabilitiesOfNames (list ++ more) =
      match capabilitiesOfNames list with
      | .error error => .error error
      | .ok set => (capabilitiesOfNames more).map set.union) ∧
    ∀ (settings : Settings) (extras : List ExtraPage),
      List.Forall₂ ExtraPage.Standardized settings.extraPages extras →
        { settings with extraPages := extras }.buildTable = settings.buildTable := by
  refine ⟨?_, ?_, ?_, capabilitiesOfNames_append list, ?_⟩
  · simp only [capabilitiesOfNames_eq_ok_iff]
    exact Capabilities.exists_ofNames_eq_ok_iff
  · intro error
    rw [capabilitiesOfNames_eq_error_iff]
    simp only [Capabilities.ofNames_eq_error_iff]
    constructor
    · rintro ⟨name, ⟨before, after, hlist, hbefore, hname⟩, herror⟩
      exact ⟨before, name, after, hlist, hbefore, hname, herror⟩
    · rintro ⟨before, name, after, hlist, hbefore, hname, herror⟩
      exact ⟨name, ⟨before, after, hlist, hbefore, hname⟩, herror⟩
  · intro set hread
    exact Capabilities.readFrom_of_ofNames (capabilitiesOfNames_eq_ok_iff.mp hread)
  · intro settings extras hstandard
    exact settings.buildTable_standardized hstandard

/-- One capability is named twice, in other letters and between blanks. A name with the sign of the
kelvin for its third letter is not known, and it is the first such. -/
theorem flags_count_as_sets_kelvin :
    (∃ set : Capabilities, set.ReadFrom [" Allow-Script\t", "hide-from-listing", "ALLOW-SCRIPT"] ∧
      set.names = ["allow-script", "hide-from-listing"]) ∧
    capabilitiesOfNames ["make-linkable", "ma\u212Ae-linkable ", "fast"] =
      .error (.unknownCapability "ma\u212Ae-linkable ") ∧
    Settings.buildTable ⟨false, "about", [⟨"é", "x:y", ["allow-script"]⟩]⟩ =
      (Settings.accented false).buildTable := by
  have hread : capabilitiesOfNames [" Allow-Script\t", "hide-from-listing", "ALLOW-SCRIPT"] =
      .ok ⟨6⟩ := by decide +kernel
  have hlinkable : NamesCapability "make-linkable" :=
    ⟨.makeLinkable, Capability.ofStableName?_eq_some_iff.mp (by decide +kernel)⟩
  have hkelvin : ¬NamesCapability "ma\u212Ae-linkable " :=
    ofStableName?_eq_none_iff.mp (by decide +kernel)
  have hstandard : ExtraPage.accented.Standardized ⟨"é", "x:y", ["allow-script"]⟩ :=
    ⟨rfl, rfl, ⟨2⟩, by decide +kernel, by decide +kernel⟩
  obtain ⟨_, _, hset, _, hsettings⟩ :=
    flags_count_as_sets [" Allow-Script\t", "hide-from-listing", "ALLOW-SCRIPT"]
  obtain ⟨_, herror, _⟩ := flags_count_as_sets ["make-linkable", "ma\u212Ae-linkable ", "fast"]
  refine ⟨⟨⟨6⟩, hset _ hread, by decide +kernel⟩, ?_, ?_⟩
  · exact (herror _).mpr
      ⟨["make-linkable"], _, ["fast"], rfl, by simpa using hlinkable, hkelvin, rfl⟩
  · exact hsettings (Settings.accented false) _ (.cons hstandard .nil)

end AboutPages
