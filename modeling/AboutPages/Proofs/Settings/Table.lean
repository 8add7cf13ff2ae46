import AboutPages.Proofs.Capability.Naming
import AboutPages.Proofs.Page.Enumeration
import AboutPages.Settings.Basic

/-!
# The table that settings describe

Extra pages are accepted one at a time on top of the built-in pages, up to the first that fails.
What this comes to is said here without the fold: which settings describe a table, what is in the
table, and which page is blamed for what if there is none.
-/

namespace AboutPages

open Text

/-- The page that an extra page stands for: its name and target as they are given, and the
capabilities that its flags name. -/
structure ExtraPage.StandsFor (extra : ExtraPage) (page : Page) : Prop where
  name_eq : page.name = extra.name
  target_eq : page.target = extra.target
  capabilities_eq : Capabilities.ofNames extra.flags = .ok page.capabilities

/-- Why an extra page is refused where some names are taken. The flags come first: the first of them
that is not known is named, whatever else is wrong. -/
inductive ExtraPage.Refused (taken : List String) (extra : ExtraPage) : EntryError → Prop where
  | unknownFlag {before after : List String} {flag : String}
      (hflags : extra.flags = before ++ flag :: after)
      (hbefore : ∀ known ∈ before, NamesCapability known) (hflag : ¬NamesCapability flag) :
      Refused taken extra (.unknownCapability flag)
  | name {cause : EntryError} (hflags : ∀ flag ∈ extra.flags, NamesCapability flag)
      (hname : checkName extra.name = .error cause) : Refused taken extra cause
  | duplicate (hflags : ∀ flag ∈ extra.flags, NamesCapability flag)
      (hname : checkName extra.name = .ok ()) (htaken : extra.name ∈ taken) :
      Refused taken extra (.duplicateName extra.name)
  | target {fault : TargetFault} (hflags : ∀ flag ∈ extra.flags, NamesCapability flag)
      (hname : checkName extra.name = .ok ()) (hnew : extra.name ∉ taken)
      (htarget : Target.check extra.target = .error fault) :
      Refused taken extra (.invalidTarget extra.name extra.target fault.reason)

/-! ## One extra page -/

theorem capabilitiesOfNames_eq_ok_iff {names : List String} {set : Capabilities} :
    capabilitiesOfNames names = .ok set ↔ Capabilities.ofNames names = .ok set := by
  unfold capabilitiesOfNames
  cases Capabilities.ofNames names <;> simp

theorem capabilitiesOfNames_eq_error_iff {names : List String} {cause : EntryError} :
    capabilitiesOfNames names = .error cause ↔
      ∃ name, Capabilities.ofNames names = .error name ∧ cause = .unknownCapability name := by
  unfold capabilitiesOfNames
  cases Capabilities.ofNames names <;> simp [eq_comm]

theorem mapError_eq_ok_iff {α ε δ : Type} {result : Except ε α} {f : ε → δ} {a : α} :
    result.mapError f = .ok a ↔ result = .ok a := by
  cases result <;> simp [Except.mapError]

theorem mapError_eq_error_iff {α ε δ : Type} {result : Except ε α} {f : ε → δ} {error : δ} :
    result.mapError f = .error error ↔ ∃ cause, result = .error cause ∧ f cause = error := by
  cases result <;> simp [Except.mapError]

namespace PageTable

/-- The flags are read, then the page is entered; any error goes under the name of the page. -/
theorem insertExtra_eq (table : PageTable) (extra : ExtraPage) :
    table.insertExtra extra =
      match capabilitiesOfNames extra.flags with
      | .error cause => .error ⟨extra.name, cause⟩
      | .ok set => (table.insert ⟨extra.name, extra.target, set⟩).mapError (⟨extra.name, ·⟩) := by
  unfold insertExtra
  cases capabilitiesOfNames extra.flags <;> rfl

theorem insertExtra_eq_ok_iff {table next : PageTable} {extra : ExtraPage} :
    table.insertExtra extra = .ok next ↔
      ∃ page, extra.StandsFor page ∧ table.insert page = .ok next := by
  rw [insertExtra_eq]
  constructor
  · intro haccepted
    cases hflags : capabilitiesOfNames extra.flags with
    | error cause => simp [hflags] at haccepted
    | ok set =>
        simp only [hflags, mapError_eq_ok_iff] at haccepted
        exact ⟨⟨extra.name, extra.target, set⟩,
          ⟨rfl, rfl, capabilitiesOfNames_eq_ok_iff.mp hflags⟩, haccepted⟩
  · rintro ⟨⟨name, target, set⟩, ⟨rfl, rfl, hflags⟩, haccepted⟩
    simp only [capabilitiesOfNames_eq_ok_iff.mpr hflags, mapError_eq_ok_iff]
    exact haccepted

theorem insertExtra_eq_error_of_known {table : PageTable} {extra : ExtraPage} {cause : EntryError}
    (hflags : ∀ flag ∈ extra.flags, NamesCapability flag)
    (hinsert : ∀ set, table.insert ⟨extra.name, extra.target, set⟩ = .error cause) :
    table.insertExtra extra = .error ⟨extra.name, cause⟩ := by
  obtain ⟨set, hset⟩ := Capabilities.exists_ofNames_eq_ok_iff.mpr hflags
  rw [insertExtra_eq, capabilitiesOfNames_eq_ok_iff.mpr hset]
  exact mapError_eq_error_iff.mpr ⟨cause, hinsert set, rfl⟩

/-- An extra page is blamed for what `ExtraPage.Refused` says, if the names in the table are the
taken ones. -/
theorem insertExtra_eq_error_iff {table : PageTable} {taken : List String}
    (htaken : ∀ name, (table.find? name).isSome = true ↔ name ∈ taken) {extra : ExtraPage}
    {error : ExtraPageError} :
    table.insertExtra extra = .error error ↔
      extra.Refused taken error.cause ∧ error.name = extra.name := by
  have hnew : ∀ name, table.find? name = none ↔ name ∉ taken := by
    intro name
    rw [← htaken, Option.not_isSome_iff_eq_none]
  obtain ⟨name, cause⟩ := error
  constructor
  · intro hrefused
    rw [insertExtra_eq] at hrefused
    cases hflags : capabilitiesOfNames extra.flags with
    | error flagCause =>
        obtain ⟨flag, hflag, rfl⟩ := capabilitiesOfNames_eq_error_iff.mp hflags
        obtain ⟨before, after, hsplit, hbefore, hunknown⟩ :=
          Capabilities.ofNames_eq_error_iff.mp hflag
        simp only [hflags] at hrefused
        cases hrefused
        exact ⟨.unknownFlag hsplit hbefore hunknown, rfl⟩
    | ok set =>
        have hknown : ∀ flag ∈ extra.flags, NamesCapability flag :=
          Capabilities.exists_ofNames_eq_ok_iff.mp ⟨set, capabilitiesOfNames_eq_ok_iff.mp hflags⟩
        simp only [hflags, mapError_eq_error_iff] at hrefused
        obtain ⟨first, hinsert, hsame⟩ := hrefused
        cases hsame
        refine ⟨?_, rfl⟩
        rcases insert_eq_error_iff.mp hinsert with
          hname | ⟨hname, hold, rfl⟩ | ⟨hname, hfree, hcheck⟩
        · exact .name hknown hname
        · exact .duplicate hknown hname ((htaken _).mp hold)
        · obtain ⟨fault, htarget, rfl⟩ := checkTarget_eq_error_iff.mp hcheck
          exact .target hknown hname ((hnew _).mp hfree) htarget
  · rintro ⟨hrefused, rfl⟩
    cases hrefused with
    | unknownFlag hsplit hbefore hflag =>
        have hflags := Capabilities.ofNames_eq_error_iff.mpr ⟨_, _, hsplit, hbefore, hflag⟩
        rw [insertExtra_eq, capabilitiesOfNames_eq_error_iff.mpr ⟨_, hflags, rfl⟩]
    | name hflags hname =>
        exact insertExtra_eq_error_of_known hflags fun _ => insert_eq_error_iff.mpr (.inl hname)
    | duplicate hflags hname hold =>
        exact insertExtra_eq_error_of_known hflags fun _ =>
          insert_eq_error_iff.mpr (.inr (.inl ⟨hname, (htaken _).mpr hold, rfl⟩))
    | target hflags hname hfree htarget =>
        exact insertExtra_eq_error_of_known hflags fun _ =>
          insert_eq_error_iff.mpr (.inr (.inr ⟨hname, (hnew _).mpr hfree,
            checkTarget_eq_error_iff.mpr ⟨_, htarget, rfl⟩⟩))

/-! ## All extra pages -/

theorem foldlM_insertExtra_eq_ok_iff {extras : List ExtraPage} {table next : PageTable} :
    extras.foldlM PageTable.insertExtra table = .ok next ↔
      ∃ pages, List.Forall₂ ExtraPage.StandsFor extras pages ∧
        pages.foldlM PageTable.insert table = .ok next := by
  induction extras generalizing table with
  | nil => simp [pure, Except.pure]
  | cons extra rest ih =>
      rw [foldlM_cons_eq_ok_iff]
      constructor
      · rintro ⟨middle, hfirst, hrest⟩
        obtain ⟨page, hpage, haccepted⟩ := insertExtra_eq_ok_iff.mp hfirst
        obtain ⟨pages, hpages, hlater⟩ := ih.mp hrest
        exact ⟨page :: pages, .cons hpage hpages,
          foldlM_cons_eq_ok_iff.mpr ⟨middle, haccepted, hlater⟩⟩
      · rintro ⟨_, hall, haccepted⟩
        cases hall with
        | cons hpage hpages =>
            obtain ⟨middle, hfirst, hrest⟩ := foldlM_cons_eq_ok_iff.mp haccepted
            exact ⟨middle, insertExtra_eq_ok_iff.mpr ⟨_, hpage, hfirst⟩,
              ih.mpr ⟨_, hpages, hrest⟩⟩

end PageTable

/-! ## Extra pages and the pages they stand for -/

section StandsFor

variable {extras : List ExtraPage} {pages : List Page}

theorem ExtraPage.exists_standsFor_iff {extra : ExtraPage} :
    (∃ page, extra.StandsFor page) ↔ ∀ flag ∈ extra.flags, NamesCapability flag := by
  rw [← Capabilities.exists_ofNames_eq_ok_iff]
  constructor
  · rintro ⟨page, hpage⟩
    exact ⟨page.capabilities, hpage.capabilities_eq⟩
  · rintro ⟨set, hset⟩
    exact ⟨⟨extra.name, extra.target, set⟩, rfl, rfl, hset⟩

theorem exists_forall₂_standsFor_iff :
    (∃ pages, List.Forall₂ ExtraPage.StandsFor extras pages) ↔
      ∀ extra ∈ extras, ∀ flag ∈ extra.flags, NamesCapability flag := by
  induction extras with
  | nil => simp
  | cons extra rest ih =>
      rw [List.forall_mem_cons, ← ih, ← ExtraPage.exists_standsFor_iff]
      constructor
      · rintro ⟨_, hall⟩
        cases hall with
        | cons hpage hpages => exact ⟨⟨_, hpage⟩, _, hpages⟩
      · rintro ⟨⟨page, hpage⟩, pages, hpages⟩
        exact ⟨page :: pages, .cons hpage hpages⟩

theorem map_name_of_standsFor (hpages : List.Forall₂ ExtraPage.StandsFor extras pages) :
    pages.map Page.name = extras.map ExtraPage.name := by
  induction hpages with
  | nil => rfl
  | cons hpage _ ih => rw [List.map_cons, List.map_cons, hpage.name_eq, ih]

theorem forall_name_iff_of_standsFor (hpages : List.Forall₂ ExtraPage.StandsFor extras pages)
    (p : String → Prop) : (∀ page ∈ pages, p page.name) ↔ ∀ extra ∈ extras, p extra.name := by
  have hmap := map_name_of_standsFor hpages
  rw [← List.forall_mem_map (f := Page.name), hmap, List.forall_mem_map]

theorem exists_extra_of_standsFor (hpages : List.Forall₂ ExtraPage.StandsFor extras pages) :
    ∀ page ∈ pages, ∃ extra ∈ extras, extra.StandsFor page :=
  exists_left_of_forall₂ hpages

theorem exists_page_of_standsFor (hpages : List.Forall₂ ExtraPage.StandsFor extras pages) :
    ∀ extra ∈ extras, ∃ page ∈ pages, extra.StandsFor page :=
  exists_right_of_forall₂ hpages

theorem inOrder_iff_of_standsFor (hpages : List.Forall₂ ExtraPage.StandsFor extras pages) :
    (∀ page ∈ pages, page.InOrder) ↔
      ∀ extra ∈ extras, checkName extra.name = .ok () ∧ Target.check extra.target = .ok () := by
  induction hpages with
  | nil => simp
  | cons hpage _ ih =>
      rw [List.forall_mem_cons, List.forall_mem_cons, ih, Page.inOrder_iff, checkTarget_eq_ok_iff,
        hpage.name_eq, hpage.target_eq]

end StandsFor

/-! ## Settings as a whole -/

theorem agrees_builtin (servicesSync : Bool) :
    Agrees (PageTable.builtin servicesSync) (builtinPages servicesSync) :=
  (Start.builtin servicesSync).agrees

theorem find?_builtin_eq_none_iff {servicesSync : Bool} {name : String} :
    (PageTable.builtin servicesSync).find? name = none ↔
      name ∉ (builtinPages servicesSync).map Page.name := by
  rw [← Option.not_isSome_iff_eq_none, (agrees_builtin servicesSync).isSome_iff, List.mem_map]

namespace Settings

/-- What settings have to fulfil to describe a table. No condition looks at the order of the extra
pages. -/
structure Acceptable (settings : Settings) : Prop where
  flags : ∀ extra ∈ settings.extraPages, ∀ flag ∈ extra.flags, NamesCapability flag
  names : ∀ extra ∈ settings.extraPages, checkName extra.name = .ok ()
  targets : ∀ extra ∈ settings.extraPages, Target.check extra.target = .ok ()
  distinct : (settings.extraPages.map ExtraPage.name).Nodup
  new : ∀ extra ∈ settings.extraPages,
    extra.name ∉ (builtinPages settings.servicesSync).map Page.name

theorem Acceptable.all_distinct {settings : Settings} (haccept : settings.Acceptable)
    {pages : List Page} (hpages : List.Forall₂ ExtraPage.StandsFor settings.extraPages pages) :
    ((builtinPages settings.servicesSync ++ pages).map Page.name).Nodup := by
  rw [List.map_append, map_name_of_standsFor hpages, List.nodup_append]
  refine ⟨builtinPages_distinct _, haccept.distinct, ?_⟩
  rintro name hbuiltin other hother rfl
  obtain ⟨extra, hextra, rfl⟩ := List.mem_map.mp hother
  exact haccept.new extra hextra hbuiltin

/-- The pages that the extra pages stand for are accepted one after another exactly if the settings
are acceptable. -/
theorem foldlM_insert_builtin_eq_ok_iff {settings : Settings} {pages : List Page}
    (hpages : List.Forall₂ ExtraPage.StandsFor settings.extraPages pages) {table : PageTable} :
    pages.foldlM PageTable.insert (PageTable.builtin settings.servicesSync) = .ok table ↔
      settings.Acceptable ∧
        table = pages.foldl PageTable.put (PageTable.builtin settings.servicesSync) := by
  have hnew : (∀ page ∈ pages, (PageTable.builtin settings.servicesSync).find? page.name = none) ↔
      ∀ extra ∈ settings.extraPages,
        extra.name ∉ (builtinPages settings.servicesSync).map Page.name := by
    simp only [find?_builtin_eq_none_iff]
    exact forall_name_iff_of_standsFor hpages (· ∉ (builtinPages _).map Page.name)
  rw [PageTable.foldlM_insert_eq_ok_iff, inOrder_iff_of_standsFor hpages,
    map_name_of_standsFor hpages, hnew]
  constructor
  · rintro ⟨hchecks, hdistinct, hnames, htable⟩
    refine ⟨⟨exists_forall₂_standsFor_iff.mp ⟨pages, hpages⟩, ?_, ?_, hdistinct, hnames⟩, htable⟩
    · exact fun extra hextra => (hchecks extra hextra).1
    · exact fun extra hextra => (hchecks extra hextra).2
  · rintro ⟨haccept, htable⟩
    exact ⟨fun extra hextra => ⟨haccept.names extra hextra, haccept.targets extra hextra⟩,
      haccept.distinct, haccept.new, htable⟩

theorem Acceptable.exists_buildTable {settings : Settings} (haccept : settings.Acceptable)
    {pages : List Page} (hpages : List.Forall₂ ExtraPage.StandsFor settings.extraPages pages) :
    ∃ table, settings.buildTable = .ok table ∧
      Agrees table (builtinPages settings.servicesSync ++ pages) := by
  have haccepted := (foldlM_insert_builtin_eq_ok_iff hpages).mpr ⟨haccept, rfl⟩
  exact ⟨_, PageTable.foldlM_insertExtra_eq_ok_iff.mpr ⟨pages, hpages, haccepted⟩,
    (agrees_builtin _).foldlM_insert haccepted⟩

/-- Acceptable settings describe a table, and no others do. It holds the built-in pages and the
pages that the extra pages stand for. -/
theorem buildTable_eq_ok_iff {settings : Settings} {table : PageTable} :
    settings.buildTable = .ok table ↔
      settings.Acceptable ∧ ∃ pages, List.Forall₂ ExtraPage.StandsFor settings.extraPages pages ∧
        Agrees table (builtinPages settings.servicesSync ++ pages) := by
  constructor
  · intro hbuild
    obtain ⟨pages, hpages, haccepted⟩ := PageTable.foldlM_insertExtra_eq_ok_iff.mp hbuild
    exact ⟨((foldlM_insert_builtin_eq_ok_iff hpages).mp haccepted).1, pages, hpages,
      (agrees_builtin _).foldlM_insert haccepted⟩
  · rintro ⟨haccept, pages, hpages, hagrees⟩
    obtain ⟨other, hbuild, hother⟩ := haccept.exists_buildTable hpages
    rw [hagrees.unique hother]
    exact hbuild

theorem exists_buildTable_eq_ok_iff {settings : Settings} :
    (∃ table, settings.buildTable = .ok table) ↔ settings.Acceptable := by
  constructor
  · rintro ⟨table, hbuild⟩
    exact (buildTable_eq_ok_iff.mp hbuild).1
  · intro haccept
    obtain ⟨pages, hpages⟩ := exists_forall₂_standsFor_iff.mpr haccept.flags
    obtain ⟨table, hbuild, _⟩ := haccept.exists_buildTable hpages
    exact ⟨table, hbuild⟩

theorem built_of_buildTable {settings : Settings} {table : PageTable}
    (hbuild : settings.buildTable = .ok table) : table.Built := by
  obtain ⟨pages, _, haccepted⟩ := PageTable.foldlM_insertExtra_eq_ok_iff.mp hbuild
  exact (PageTable.built_builtin _).foldlM_insert haccepted

theorem pages_perm_of_buildTable {settings : Settings} {table : PageTable}
    (hbuild : settings.buildTable = .ok table) :
    ∃ pages, List.Forall₂ ExtraPage.StandsFor settings.extraPages pages ∧
      table.pages.Perm (builtinPages settings.servicesSync ++ pages) := by
  obtain ⟨haccept, pages, hpages, hagrees⟩ := buildTable_eq_ok_iff.mp hbuild
  exact ⟨pages, hpages,
    hagrees.pages_perm (built_of_buildTable hbuild) (haccept.all_distinct hpages)⟩

theorem isSome_find?_of_buildTable {settings : Settings} {table : PageTable}
    (hbuild : settings.buildTable = .ok table) (name : String) :
    (table.find? name).isSome = true ↔
      name ∈ (builtinPages settings.servicesSync).map Page.name ++
        settings.extraPages.map ExtraPage.name := by
  obtain ⟨_, pages, hpages, hagrees⟩ := buildTable_eq_ok_iff.mp hbuild
  rw [hagrees.isSome_iff, ← map_name_of_standsFor hpages, ← List.map_append, List.mem_map]

/-- The error is that of the first extra page that the table of those before it refuses. -/
theorem buildTable_eq_error_iff {settings : Settings} {error : ExtraPageError} :
    settings.buildTable = .error error ↔
      ∃ before extra after, settings.extraPages = before ++ extra :: after ∧
        { settings with extraPages := before }.Acceptable ∧
        extra.Refused ((builtinPages settings.servicesSync).map Page.name ++
          before.map ExtraPage.name) error.cause ∧
        error.name = extra.name := by
  rw [buildTable, foldlM_eq_error_iff]
  constructor
  · rintro ⟨before, extra, after, middle, hsplit, hbefore, hrefused⟩
    -- The pages before are those of shorter settings, which tells the names in their table.
    have hbuild : { settings with extraPages := before }.buildTable = .ok middle := hbefore
    exact ⟨before, extra, after, hsplit, exists_buildTable_eq_ok_iff.mp ⟨middle, hbuild⟩,
      (PageTable.insertExtra_eq_error_iff (isSome_find?_of_buildTable hbuild)).mp hrefused⟩
  · rintro ⟨before, extra, after, hsplit, haccept, hrefused⟩
    obtain ⟨middle, hbuild⟩ := exists_buildTable_eq_ok_iff.mpr haccept
    exact ⟨before, extra, after, middle, hsplit, hbuild,
      (PageTable.insertExtra_eq_error_iff (isSome_find?_of_buildTable hbuild)).mpr hrefused⟩

/-- Settings extend the built-in pages and cannot alter them. A table is described exactly by
acceptable settings; it then consists of the built-in pages as they are and of one page for each
extra page, under distinct names. Otherwise the first extra page is blamed that fails after those
before it were accepted. -/
theorem extras_extend_builtins (settings : Settings) :
    (builtinPages settings.servicesSync).foldlM PageTable.insert PageTable.empty =
      .ok (PageTable.builtin settings.servicesSync) ∧
    ((∃ table, settings.buildTable = .ok table) ↔ settings.Acceptable) ∧
    (∀ table, settings.buildTable = .ok table →
      ∃ pages, List.Forall₂ ExtraPage.StandsFor settings.extraPages pages ∧
        ((builtinPages settings.servicesSync ++ pages).map Page.name).Nodup ∧
        table.pages.Perm (builtinPages settings.servicesSync ++ pages) ∧
        ∀ name page, table.find? name = some page ↔
          page ∈ builtinPages settings.servicesSync ++ pages ∧ page.name = name) ∧
    ∀ error, settings.buildTable = .error error ↔
      ∃ before extra after, settings.extraPages = before ++ extra :: after ∧
        (∃ table, { settings with extraPages := before }.buildTable = .ok table) ∧
        extra.Refused ((builtinPages settings.servicesSync).map Page.name ++
          before.map ExtraPage.name) error.cause ∧
        error.name = extra.name ∧
        error.message = "extra entry " ++ quoted extra.name ++ ": " ++ error.cause.message := by
  refine ⟨PageTable.foldlM_insert_builtinPages _, exists_buildTable_eq_ok_iff, ?_, ?_⟩
  · intro table hbuild
    obtain ⟨haccept, pages, hpages, hagrees⟩ := buildTable_eq_ok_iff.mp hbuild
    have hdistinct := haccept.all_distinct hpages
    refine ⟨pages, hpages, hdistinct, ?_, ?_⟩
    · exact hagrees.pages_perm (built_of_buildTable hbuild) hdistinct
    · intro name page
      exact hagrees.find?_eq_some_iff hdistinct
  · intro error
    rw [buildTable_eq_error_iff]
    simp only [exists_buildTable_eq_ok_iff]
    constructor
    · rintro ⟨before, extra, after, hsplit, haccept, hrefused, hname⟩
      refine ⟨before, extra, after, hsplit, haccept, hrefused, hname, ?_⟩
      change "extra entry " ++ quoted error.name ++ ": " ++ error.cause.message = _
      rw [hname]
    · rintro ⟨before, extra, after, hsplit, haccept, hrefused, hname, _⟩
      exact ⟨before, extra, after, hsplit, haccept, hrefused, hname⟩

end Settings

/-- An extra page with an accented name, and with its flag between blanks and in mixed case. -/
def ExtraPage.accented : ExtraPage := ⟨"é", "x:y", [" Allow-Script\t"]⟩

namespace Settings

def accented (servicesSync : Bool) : Settings := ⟨servicesSync, "about", [.accented]⟩

theorem acceptable_accented (servicesSync : Bool) : Acceptable (accented servicesSync) := by
  have hscript : NamesCapability " Allow-Script\t" :=
    ⟨.allowScript, Capability.ofStableName?_eq_some_iff.mp (by decide +kernel)⟩
  refine ⟨by simpa [accented, ExtraPage.accented] using hscript, ?_, ?_, by simp [accented], ?_⟩ <;>
    cases servicesSync <;> decide +kernel

theorem isSome_find?_accented {servicesSync : Bool} {table : PageTable}
    (hbuild : (accented servicesSync).buildTable = .ok table) :
    (table.find? "é").isSome = true := by
  rw [isSome_find?_of_buildTable hbuild]
  exact List.mem_append_right _ List.mem_cons_self

/-- The first page is accepted. The second has an unknown flag, a name that is taken and a target
that is none: the flag is reported. -/
theorem extras_extend_builtins_unknownFlag :
    (∃ table, buildTable (accented false) = .ok table) ∧
    buildTable ⟨false, "about",
      [.accented, ⟨"home", "nowhere", ["make-linkable", "fast", ""]⟩]⟩ =
        .error ⟨"home", .unknownCapability "fast"⟩ := by
  obtain ⟨_, haccepted, _⟩ := extras_extend_builtins (accented false)
  have hfirst := haccepted.mpr (acceptable_accented false)
  obtain ⟨_, _, _, herror⟩ := extras_extend_builtins ⟨false, "about",
    [.accented, ⟨"home", "nowhere", ["make-linkable", "fast", ""]⟩]⟩
  have hlinkable : NamesCapability "make-linkable" :=
    ⟨.makeLinkable, Capability.ofStableName?_eq_some_iff.mp (by decide +kernel)⟩
  have hfast : ¬NamesCapability "fast" := ofStableName?_eq_none_iff.mp (by decide +kernel)
  have hsplit : ["make-linkable", "fast", ""] = ["make-linkable"] ++ "fast" :: [""] := rfl
  exact ⟨hfirst, (herror _).mpr ⟨[_], _, [], rfl, hfirst,
    .unknownFlag hsplit (by simpa using hlinkable) hfast, rfl, rfl⟩⟩

end Settings

end AboutPages
