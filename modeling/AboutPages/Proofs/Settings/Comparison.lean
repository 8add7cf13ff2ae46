import AboutPages.Page.Registration
import AboutPages.Proofs.Page.Resolution
import AboutPages.Proofs.Settings.Table
import Mathlib.Data.List.Perm.Basic

/-!
# Settings that differ in one respect

The order of the extra pages leaves no trace in the table. The switch for the synchronisation pages
decides about two names and nothing else: whether they are taken, and what they lead to.
-/

namespace AboutPages

open Text

namespace Settings

/-! ## Order of the extra pages -/

theorem Acceptable.of_perm {settings : Settings} (haccept : settings.Acceptable)
    {extras : List ExtraPage} (hperm : settings.extraPages.Perm extras) :
    { settings with extraPages := extras }.Acceptable where
  flags := fun extra hextra => haccept.flags extra (hperm.mem_iff.mpr hextra)
  names := fun extra hextra => haccept.names extra (hperm.mem_iff.mpr hextra)
  targets := fun extra hextra => haccept.targets extra (hperm.mem_iff.mpr hextra)
  distinct := (hperm.map ExtraPage.name).nodup_iff.mp haccept.distinct
  new := fun extra hextra => haccept.new extra (hperm.mem_iff.mpr hextra)

theorem buildTable_of_perm {settings : Settings} {extras : List ExtraPage}
    (hperm : settings.extraPages.Perm extras) {table : PageTable}
    (hbuild : settings.buildTable = .ok table) :
    { settings with extraPages := extras }.buildTable = .ok table := by
  obtain ⟨haccept, pages, hpages, hagrees⟩ := buildTable_eq_ok_iff.mp hbuild
  -- The pages are rearranged along with the extra pages that stand for them.
  obtain ⟨rearranged, hrearranged, hpagesPerm⟩ := List.perm_comp_forall₂ hperm.symm hpages
  have hdistinct := haccept.all_distinct hpages
  exact buildTable_eq_ok_iff.mpr ⟨haccept.of_perm hperm, rearranged, hrearranged,
    hagrees.of_perm hdistinct (hpagesPerm.symm.append_left _)⟩

/-- The order of the extra pages cannot be seen in what comes of them, nor can the order in which
the entries of the table are given out before they are sorted. -/
theorem order_of_extras_invisible (settings : Settings) {extras : List ExtraPage}
    (hperm : settings.extraPages.Perm extras) :
    let rearranged := { settings with extraPages := extras }
    ((∃ table, settings.buildTable = .ok table) ↔ ∃ table, rearranged.buildTable = .ok table) ∧
    ∀ table other, settings.buildTable = .ok table → rearranged.buildTable = .ok other →
      table.names = other.names ∧ table.pages = other.pages ∧ table.listing = other.listing ∧
      table.manifest = other.manifest ∧ table.size = other.size ∧
      (∀ address, table.resolveCapabilities address = other.resolveCapabilities address ∧
        table.resolveTarget address = other.resolveTarget address ∧
        table.plan address = other.plan address) ∧
      ∀ entries, table.Enumerates entries →
        (∀ arranged, Arranges id (entries.map Prod.fst) arranged ↔ arranged = other.names) ∧
        (∀ arranged, Arranges Page.name (entries.map Prod.snd) arranged ↔
          arranged = other.pages) ∧
        ∀ arranged, Arranges Page.name (entries.map Prod.snd) arranged →
          (arranged.filter fun page => !page.capabilities.has .hideFromListing) =
            other.listing := by
  intro rearranged
  refine ⟨⟨?_, ?_⟩, ?_⟩
  · rintro ⟨table, hbuild⟩
    exact ⟨table, buildTable_of_perm hperm hbuild⟩
  · rintro ⟨table, hbuild⟩
    have hback : rearranged.extraPages.Perm settings.extraPages := hperm.symm
    exact ⟨table, buildTable_of_perm hback hbuild⟩
  · intro table other hbuild hother
    have hsame : table = other := by
      have hagain := buildTable_of_perm hperm hbuild
      rw [hother] at hagain
      cases hagain
      rfl
    subst hsame
    refine ⟨rfl, rfl, rfl, rfl, rfl, fun _ => ⟨rfl, rfl, rfl⟩, ?_⟩
    intro entries hentries
    have hpages := hentries.arranges_pages_iff (built_of_buildTable hbuild)
    refine ⟨hentries.arranges_names_iff, hpages, ?_⟩
    intro arranged harranged
    rw [(hpages arranged).mp harranged]
    rfl

/-- Two extra pages change places, and the entries of the table are given out backwards. -/
theorem order_of_extras_invisible_swapped :
    ∃ table other,
      buildTable ⟨false, "about", [⟨"b", "x:", []⟩, ⟨"a", "y:", []⟩]⟩ = .ok table ∧
      buildTable ⟨false, "about", [⟨"a", "y:", []⟩, ⟨"b", "x:", []⟩]⟩ = .ok other ∧
      Arranges Page.name (table.byName.toList.reverse.map Prod.snd) other.pages := by
  have haccept : Acceptable ⟨false, "about", [⟨"b", "x:", []⟩, ⟨"a", "y:", []⟩]⟩ := by
    refine ⟨by simp, ?_, ?_, ?_, ?_⟩ <;> decide +kernel
  have hperm : [ExtraPage.mk "b" "x:" [], ⟨"a", "y:", []⟩].Perm
      [⟨"a", "y:", []⟩, ⟨"b", "x:", []⟩] := .swap _ _ _
  obtain ⟨table, hbuild⟩ := exists_buildTable_eq_ok_iff.mpr haccept
  obtain ⟨hsuccess, hseen⟩ := order_of_extras_invisible ⟨false, "about", _⟩ hperm
  obtain ⟨other, hother⟩ := hsuccess.mp ⟨table, hbuild⟩
  obtain ⟨_, _, _, _, _, _, hentries⟩ := hseen table other hbuild hother
  have hbackwards : table.Enumerates table.byName.toList.reverse :=
    ⟨List.nodup_reverse.mpr table.toList_nodup,
      fun name page => by rw [List.mem_reverse, PageTable.mem_toList_iff]⟩
  exact ⟨table, other, hbuild, hother, ((hentries _ hbackwards).2.1 _).mpr rfl⟩

/-! ## The switch for the synchronisation pages -/

theorem map_name_syncPages : syncPages.map Page.name = ["sync-progress", "sync-tabs"] := rfl

theorem syncPages_script : ∀ page ∈ syncPages, page.capabilities = .single .allowScript := by
  decide

/-- With the switch on, two more names are taken. -/
theorem acceptable_on_iff {scheme : String} {extras : List ExtraPage} :
    Acceptable ⟨true, scheme, extras⟩ ↔
      Acceptable ⟨false, scheme, extras⟩ ∧
        ∀ extra ∈ extras, extra.name ∉ syncPages.map Page.name := by
  have hnames : (builtinPages true).map Page.name =
      (builtinPages false).map Page.name ++ syncPages.map Page.name := rfl
  constructor
  · rintro ⟨hflags, hchecks, htargets, hdistinct, hnew⟩
    simp only [hnames, List.mem_append, not_or] at hnew
    exact ⟨⟨hflags, hchecks, htargets, hdistinct, fun extra hextra => (hnew extra hextra).1⟩,
      fun extra hextra => (hnew extra hextra).2⟩
  · rintro ⟨⟨hflags, hchecks, htargets, hdistinct, hnew⟩, hsync⟩
    refine ⟨hflags, hchecks, htargets, hdistinct, ?_⟩
    simp only [hnames, List.mem_append, not_or]
    exact fun extra hextra => ⟨hnew extra hextra, hsync extra hextra⟩

/-- With the switch off there is a table whenever there is one with the switch on, and the two
differ in the synchronisation pages. -/
theorem exists_buildTable_off {scheme : String} {extras : List ExtraPage} {on : PageTable}
    (hon : buildTable ⟨true, scheme, extras⟩ = .ok on) :
    ∃ off, buildTable ⟨false, scheme, extras⟩ = .ok off ∧
      (∀ name, name ∉ syncPages.map Page.name → on.find? name = off.find? name) ∧
      (∀ page ∈ syncPages, on.find? page.name = some page ∧ off.find? page.name = none) := by
  obtain ⟨haccept, pages, hpages, hagreesOn⟩ := buildTable_eq_ok_iff.mp hon
  obtain ⟨hacceptOff, hfree⟩ := acceptable_on_iff.mp haccept
  obtain ⟨off, hoff, hagreesOff⟩ := hacceptOff.exists_buildTable hpages
  have hdistinct := haccept.all_distinct hpages
  refine ⟨off, hoff, ?_, ?_⟩
  · intro name hname
    refine Option.ext fun page => ?_
    rw [hagreesOn.find?_eq_some_iff hdistinct,
      hagreesOff.find?_eq_some_iff (hacceptOff.all_distinct hpages)]
    refine and_congr_left fun hpage => ?_
    have hsync : page ∉ syncPages := fun hmem => hname (hpage ▸ List.mem_map_of_mem hmem)
    simp [builtinPages, hsync]
  · intro page hpage
    constructor
    · rw [hagreesOn.find?_eq_some_iff hdistinct]
      exact ⟨List.mem_append_left _ (List.mem_append_right _ hpage), rfl⟩
    · rw [← Option.not_isSome_iff_eq_none, isSome_find?_of_buildTable hoff, List.mem_append,
        not_or]
      -- No other built-in page has the name, and an extra page of that name would have been refused
      -- with the switch on.
      refine ⟨?_, ?_⟩
      · have hcore : ∀ page ∈ syncPages, page.name ∉ (builtinPages false).map Page.name := by
          decide +kernel
        exact hcore page hpage
      · intro hextra
        obtain ⟨extra, hmem, hname⟩ := List.mem_map.mp hextra
        exact hfree extra hmem (hname ▸ List.mem_map_of_mem hpage)

/-- The switch decides about two names. Where both tables exist they differ in these alone, which
lead to pages that may run scripts and nothing else; and turning the switch on is refused exactly if
an extra page has one of the two names. -/
theorem switch_touches_two_pages (scheme : String) (extras : List ExtraPage) :
    (∀ on, buildTable ⟨true, scheme, extras⟩ = .ok on →
      ∃ off, buildTable ⟨false, scheme, extras⟩ = .ok off ∧ ∀ address,
        (pageName address ∉ ["sync-progress", "sync-tabs"] →
          on.resolveCapabilities address = off.resolveCapabilities address ∧
          on.resolveTarget address = off.resolveTarget address ∧
          on.plan address = off.plan address) ∧
        (pageName address ∈ ["sync-progress", "sync-tabs"] →
          (∃ page ∈ syncPages, page.name = pageName address ∧
            on.resolveCapabilities address = .ok (.single .allowScript) ∧
            on.resolveTarget address = .ok ⟨page.target, .single .allowScript, .inherit⟩ ∧
            on.plan address =
              .ok ⟨address, page.name, page.target, .single .allowScript, .inherit⟩) ∧
          off.Refuses address ⟨pageName address⟩)) ∧
    ((∃ off, buildTable ⟨false, scheme, extras⟩ = .ok off) →
      ((∃ on, buildTable ⟨true, scheme, extras⟩ = .ok on) ↔
        ∀ extra ∈ extras, extra.name ∉ ["sync-progress", "sync-tabs"])) := by
  rw [← map_name_syncPages]
  constructor
  · intro on hon
    obtain ⟨off, hoff, hsame, hsync⟩ := exists_buildTable_off hon
    refine ⟨off, hoff, fun address => ⟨?_, ?_⟩⟩
    · intro hname
      exact PageTable.resolutions_congr (hsame _ hname)
    · intro hname
      obtain ⟨page, hpage, hpageName⟩ := List.mem_map.mp hname
      obtain ⟨hfound, hmissing⟩ := hsync page hpage
      rw [hpageName] at hfound hmissing
      refine ⟨⟨page, hpage, hpageName, ?_⟩, PageTable.refuses_of_find_none hmissing⟩
      obtain ⟨hcapabilities, htarget, hplan⟩ := PageTable.resolutions_of_find hfound
      rw [hcapabilities, htarget, hplan, syncPages_script page hpage, hpageName]
      exact ⟨rfl, rfl, rfl⟩
  · intro hoff
    rw [exists_buildTable_eq_ok_iff] at hoff ⊢
    rw [acceptable_on_iff]
    exact and_iff_right hoff

/-- The same settings with the switch on and off, asked for a page of the synchronisation service. -/
theorem switch_touches_two_pages_accented :
    ∃ on off,
      (accented true).buildTable = .ok on ∧
      (accented false).buildTable = .ok off ∧
      on.plan "É" = off.plan "É" ∧
      on.resolveCapabilities "about:Sync-Tabs#top" = .ok (.single .allowScript) ∧
      off.Refuses "about:Sync-Tabs#top" ⟨"sync-tabs"⟩ := by
  obtain ⟨on, hon⟩ := exists_buildTable_eq_ok_iff.mpr (acceptable_accented true)
  obtain ⟨hboth, _⟩ := switch_touches_two_pages "about" [.accented]
  obtain ⟨off, hoff, hseen⟩ := hboth on hon
  obtain ⟨_, _, hplan⟩ := (hseen "É").1 (by decide +kernel)
  have hname : pageName "about:Sync-Tabs#top" = "sync-tabs" := by decide +kernel
  obtain ⟨⟨_, _, _, hscript, _⟩, hrefuses⟩ := (hseen "about:Sync-Tabs#top").2 (by rw [hname]; simp)
  rw [hname] at hrefuses
  exact ⟨on, off, hon, hoff, hplan, hscript, hrefuses⟩

end Settings

end AboutPages
