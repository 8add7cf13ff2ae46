import AboutPages.Proofs.Command.Lookup
import AboutPages.Proofs.Text.Split

/-!
# The listing read back

A listing has a heading and a row for each page that it shows. A row begins with an address, and
that address leads back to the page of the row: the checks on schemes and on names together keep
everything out of an address that would end it early or cut it in the wrong place. They also keep
line breaks out. Targets are not checked for these, so that the lines of a listing are its rows only
where no target brings a line break of its own.
-/

namespace AboutPages

open Text

/-! ## What the checks keep out -/

theorem Settings.validate_eq_ok_iff (settings : Settings) :
    settings.validate = .ok () ↔
      settings.scheme ≠ "" ∧ ∀ c ∈ settings.scheme.toList, isReserved c = false := by
  unfold validate
  by_cases hempty : settings.scheme = ""
  · simp [hempty]
  · by_cases hreserved : settings.scheme.toList.any isReserved = true
    · have hsome : ¬∀ c ∈ settings.scheme.toList, isReserved c = false := by simpa using hreserved
      simp [hempty, hreserved, hsome]
    · have hnone : ∀ c ∈ settings.scheme.toList, isReserved c = false := by simpa using hreserved
      simpa [hempty, hreserved] using hnone

theorem Settings.validate_about (servicesSync : Bool) (extras : List ExtraPage) :
    validate ⟨servicesSync, "about", extras⟩ = .ok () := by
  have hempty : "about" ≠ "" := by decide
  have hreserved : ¬"about".toList.any isReserved = true := by decide
  rw [validate, if_neg hempty, if_neg hreserved]

/-- A scheme and a name without reserved characters, with a colon between them. -/
structure Printable (scheme name : String) : Prop where
  scheme_free : ∀ c ∈ scheme.toList, isReserved c = false
  name_free : ∀ c ∈ name.toList, isReserved c = false

namespace Printable

variable {scheme name : String}

theorem pageName_eq (hprintable : Printable scheme name) (hlower : lowercase name = name) :
    pageName (scheme ++ ":" ++ name) = name := by
  obtain ⟨hscheme, hcolon⟩ := plain_of_free hprintable.scheme_free
  obtain ⟨hname, _⟩ := plain_of_free hprintable.name_free
  have hsuffix : Address.Suffixed "" := by
    unfold Address.Suffixed
    decide
  have hparse := Address.parse_scheme_append hcolon hscheme hname hsuffix
  rw [String.append_empty] at hparse
  rw [pageName, hparse]
  exact hlower

theorem unbroken (hprintable : Printable scheme name) :
    ∀ c ∈ (scheme ++ ":" ++ name).toList, isBlank c = false ∧ isControl c = false := by
  have hcolon : isBlank ':' = false ∧ isControl ':' = false := by decide
  intro c hc
  simp only [String.toList_append, List.mem_append] at hc
  rcases hc with (hscheme | hmiddle) | hname
  · exact ((isReserved_eq_false_iff c).mp (hprintable.scheme_free c hscheme)).2
  · rw [List.mem_singleton.mp hmiddle]
    exact hcolon
  · exact ((isReserved_eq_false_iff c).mp (hprintable.name_free c hname)).2

end Printable

/-! ## One row -/

namespace Report

/-- The address that a row begins with: everything before its first blank. -/
def rowAddress (row : String) : String :=
  String.ofList (row.toList.takeWhile fun c => !isBlank c)

theorem toList_padded (width : Nat) (text : String) :
    (padded width text).toList =
      text.toList ++ List.replicate (width - text.toList.length) ' ' := by
  rw [padded, String.toList_append, String.toList_ofList]

theorem toList_listRow (scheme : String) (page : Page) :
    (listRow scheme page).toList =
      (padded 24 (scheme ++ ":" ++ page.name) ++ " " ++ page.target).toList ++ ['\n'] := by
  rw [listRow, String.toList_append]
  rfl

theorem rowAddress_listRow {scheme : String} {page : Page}
    (hprintable : Printable scheme page.name) :
    rowAddress (listRow scheme page) = scheme ++ ":" ++ page.name := by
  let address := scheme ++ ":" ++ page.name
  let behind := List.replicate (24 - address.toList.length) ' ' ++
    ' ' :: (page.target.toList ++ ['\n'])
  have hrow : (listRow scheme page).toList = address.toList ++ behind := by
    have hspace : " ".toList = [' '] := by decide
    rw [toList_listRow, String.toList_append, String.toList_append, toList_padded, hspace]
    simp [address, behind]
  have hfront : ∀ c ∈ address.toList, (!isBlank c) = true := by
    intro c hc
    rw [(hprintable.unbroken c hc).1]
    rfl
  -- Whether or not the address is filled up, a space follows it.
  have hback : ∀ c ∈ behind.head?, (!isBlank c) = false := by
    have hblank : isBlank ' ' = true := by decide
    intro c hc
    have hspace : c = ' ' := by
      cases hwidth : 24 - address.toList.length with
      | zero => simpa [behind, hwidth, eq_comm] using hc
      | succ n => simpa [behind, hwidth, List.replicate_succ, eq_comm] using hc
    rw [hspace, hblank]
    rfl
  rw [rowAddress, hrow, (takeWhile_dropWhile_seam hfront hback).1, String.ofList_toList]

/-- Of a row, only the target can bring line breaks besides the one at its end. -/
theorem count_listRow {scheme : String} {page : Page} (hprintable : Printable scheme page.name) :
    (listRow scheme page).toList.count '\n' = 1 + page.target.toList.count '\n' := by
  have haddress : (scheme ++ ":" ++ page.name).toList.count '\n' = 0 := by
    rw [List.count_eq_zero]
    intro hmem
    have hcontrol : isControl '\n' = true := by decide
    rw [(hprintable.unbroken '\n' hmem).2] at hcontrol
    cases hcontrol
  have hspace : " ".toList.count '\n' = 0 := by decide
  rw [toList_listRow, String.toList_append, String.toList_append, toList_padded,
    List.count_append, List.count_append, List.count_append, List.count_append, haddress, hspace,
    List.count_replicate]
  simp [Nat.add_comm]

/-! ## All rows -/

theorem list_eq {scheme : String} {pages : List Page} (hpages : pages ≠ []) :
    list scheme pages =
      "ADDRESS                  TARGET\n" ++ String.join (pages.map (listRow scheme)) := by
  rw [list, if_neg (by simpa using hpages)]

theorem count_list {scheme : String} {pages : List Page} (hpages : pages ≠ [])
    (hprintable : ∀ page ∈ pages, Printable scheme page.name) :
    (list scheme pages).toList.count '\n' =
      1 + pages.length + (pages.map fun page => page.target.toList.count '\n').sum := by
  have hheading : "ADDRESS                  TARGET\n".toList.count '\n' = 1 := by decide
  have hrows : (String.join (pages.map (listRow scheme))).toList.count '\n' =
      pages.length + (pages.map fun page => page.target.toList.count '\n').sum := by
    clear hpages
    induction pages with
    | nil => rfl
    | cons page rest ih =>
        rw [List.forall_mem_cons] at hprintable
        rw [List.map_cons, String.join_cons, String.toList_append, List.count_append,
          count_listRow hprintable.1, ih hprintable.2, List.length_cons, List.map_cons,
          List.sum_cons]
        omega
  rw [list_eq hpages, String.toList_append, List.count_append, hheading, hrows, Nat.add_assoc]

theorem count_list_eq_iff {scheme : String} {pages : List Page} (hpages : pages ≠ [])
    (hprintable : ∀ page ∈ pages, Printable scheme page.name) :
    (list scheme pages).toList.count '\n' = 1 + pages.length ↔
      ∀ page ∈ pages, '\n' ∉ page.target.toList := by
  rw [count_list hpages hprintable, Nat.add_eq_left, List.sum_eq_zero_iff_forall_eq_nat,
    List.forall_mem_map]
  simp only [List.count_eq_zero]

theorem pieces_list {scheme : String} {pages : List Page} (hpages : pages ≠ [])
    (hprintable : ∀ page ∈ pages, Printable scheme page.name)
    (htargets : ∀ page ∈ pages, '\n' ∉ page.target.toList) :
    pieces '\n' (list scheme pages).toList =
      "ADDRESS                  TARGET".toList ::
        pages.map (fun page =>
          (padded 24 (scheme ++ ":" ++ page.name) ++ " " ++ page.target).toList) ++ [[]] := by
  let line (page : Page) : List Char :=
    (padded 24 (scheme ++ ":" ++ page.name) ++ " " ++ page.target).toList
  have hheading : "ADDRESS                  TARGET\n".toList =
      "ADDRESS                  TARGET".toList ++ ['\n'] := by decide
  have hrows : (String.join (pages.map (listRow scheme))).toList =
      (pages.map line).flatMap (· ++ ['\n']) := by
    rw [String.toList_join, List.flatMap_map, List.flatMap_map]
    exact List.flatMap_congr fun page _ => toList_listRow scheme page
  have hlist : (list scheme pages).toList =
      ("ADDRESS                  TARGET".toList :: pages.map line).flatMap (· ++ ['\n']) := by
    rw [list_eq hpages, String.toList_append, hheading, hrows, List.flatMap_cons]
  have hline : ∀ page ∈ pages, '\n' ∉ line page := by
    intro page hpage
    have hcount := count_listRow (hprintable page hpage)
    rw [toList_listRow, List.count_append, List.count_eq_zero.mpr (htargets page hpage),
      List.count_singleton_self, Nat.add_zero, Nat.add_eq_right, List.count_eq_zero] at hcount
    exact hcount
  rw [hlist, pieces_flatMap_append_sep]
  rw [List.forall_mem_cons, List.forall_mem_map]
  exact ⟨by decide, hline⟩

end Report

/-! ## The pages that are shown -/

namespace PageTable

def shown (table : PageTable) (all : Bool) : List Page :=
  if all then table.pages else table.listing

theorem shown_sublist (table : PageTable) (all : Bool) : (table.shown all).Sublist table.pages := by
  cases all with
  | true => exact List.Sublist.refl _
  | false => exact List.filter_sublist

theorem mem_shown_of_visible {table : PageTable} {page : Page} (hpage : page ∈ table.pages)
    (hvisible : page.capabilities.has .hideFromListing = false) (all : Bool) :
    page ∈ table.shown all := by
  cases all with
  | true => exact hpage
  | false => exact List.mem_filter.mpr ⟨hpage, by rw [hvisible]; rfl⟩

theorem Built.printable_shown {table : PageTable} (hbuilt : table.Built) {scheme : String}
    (hscheme : ∀ c ∈ scheme.toList, isReserved c = false) {all : Bool} :
    ∀ page ∈ table.shown all, Printable scheme page.name := by
  intro page hpage
  have hfind := (mem_pages_iff hbuilt page).mp ((table.shown_sublist all).subset hpage)
  exact ⟨hscheme, (hbuilt.inOrder hfind).2.name_free⟩

end PageTable

/-- No settings empty the listing: some built-in page is shown whatever they say. -/
theorem Settings.shown_ne_nil {settings : Settings} {table : PageTable}
    (hbuild : settings.buildTable = .ok table) (all : Bool) : table.shown all ≠ [] := by
  have hvisible : ∃ page ∈ builtinPages settings.servicesSync,
      page.capabilities.has .hideFromListing = false := by
    cases settings.servicesSync <;> decide
  obtain ⟨page, hbuiltin, hshown⟩ := hvisible
  obtain ⟨pages, _, hperm⟩ := pages_perm_of_buildTable hbuild
  have hpage : page ∈ table.pages := hperm.mem_iff.mpr (List.mem_append_left pages hbuiltin)
  exact List.ne_nil_of_mem (PageTable.mem_shown_of_visible hpage hshown all)

theorem Session.list_prints (session : Session) (settings : Settings) (table : PageTable)
    (all : Bool) :
    session.Prints (session.answer settings table (.list all))
      (Report.list settings.scheme (table.shown all)) :=
  ⟨rfl, rfl⟩

/-! ## Addresses from the listing -/

/-- A row for a page: it begins with the address of the page, which is resolved to the name and
capabilities of the page and to the target that the row ends with. -/
structure PageTable.RowFor (table : PageTable) (scheme row : String) (page : Page) : Prop where
  address : Report.rowAddress row = scheme ++ ":" ++ page.name
  resolves : ∃ plan, table.plan (Report.rowAddress row) = .ok plan ∧
    plan.name = page.name ∧ plan.target = page.target ∧ plan.capabilities = page.capabilities ∧
    row = Report.padded 24 (Report.rowAddress row) ++ " " ++ plan.target ++ "\n"

theorem PageTable.Built.rowFor_listRow {table : PageTable} (hbuilt : table.Built) {scheme : String}
    (hscheme : ∀ c ∈ scheme.toList, isReserved c = false) {page : Page}
    (hpage : page ∈ table.pages) : table.RowFor scheme (Report.listRow scheme page) page := by
  have hfind := (mem_pages_iff hbuilt page).mp hpage
  obtain ⟨_, horder⟩ := hbuilt.inOrder hfind
  have hprintable : Printable scheme page.name := ⟨hscheme, horder.name_free⟩
  have haddress := Report.rowAddress_listRow hprintable
  obtain ⟨_, principal, _, _, hplan⟩ :=
    shows_of_pageName (hprintable.pageName_eq horder.name_lower) hfind
  rw [← haddress] at hplan
  refine ⟨haddress, _, hplan, rfl, rfl, rfl, ?_⟩
  rw [haddress]
  rfl

theorem PageTable.Built.rowAddresses_nodup {table : PageTable} (hbuilt : table.Built)
    {scheme : String} (hscheme : ∀ c ∈ scheme.toList, isReserved c = false) (all : Bool) :
    (((table.shown all).map (Report.listRow scheme)).map Report.rowAddress).Nodup := by
  have haddresses : ((table.shown all).map (Report.listRow scheme)).map Report.rowAddress =
      ((table.shown all).map Page.name).map fun name => scheme ++ ":" ++ name := by
    rw [List.map_map, List.map_map]
    exact List.map_congr_left fun page hpage =>
      Report.rowAddress_listRow (hbuilt.printable_shown hscheme page hpage)
  have hnames : ((table.shown all).map Page.name).Nodup :=
    hbuilt.map_name_pages_nodup.sublist ((table.shown_sublist all).map Page.name)
  rw [haddresses]
  refine hnames.map ?_
  intro name other hsame
  exact (String.append_right_inj _).mp hsame

namespace Session

/-- Every address that a listing prints can be asked for. The listing has one row for each page that
it shows, in their order; the row begins with an address, and the address leads to the page of the
row and to the target in it. No two rows begin with the same address. -/
theorem listed_addresses_resolve {settings : Settings} {table : PageTable}
    (hvalid : settings.validate = .ok ()) (hbuild : settings.buildTable = .ok table)
    (session : Session) (all : Bool) :
    ∃ rows : List String,
      session.Prints (session.answer settings table (.list all))
        ("ADDRESS                  TARGET\n" ++ String.join rows) ∧
      List.Forall₂ (table.RowFor settings.scheme) rows (table.shown all) ∧
      (rows.map Report.rowAddress).Nodup := by
  have hbuilt := settings.built_of_buildTable hbuild
  obtain ⟨_, hscheme⟩ := settings.validate_eq_ok_iff.mp hvalid
  refine ⟨(table.shown all).map (Report.listRow settings.scheme), ?_, ?_, ?_⟩
  · rw [← Report.list_eq (settings.shown_ne_nil hbuild all)]
    exact session.list_prints settings table all
  · rw [List.forall₂_map_left_iff, List.forall₂_same]
    intro page hpage
    exact hbuilt.rowFor_listRow hscheme ((table.shown_sublist all).subset hpage)
  · exact hbuilt.rowAddresses_nodup hscheme all

/-- The page of one's own has an accented name, and its flag is in mixed case. -/
theorem listed_addresses_resolve_accented :
    (Settings.accented false).validate = .ok () ∧
    ∃ table rows,
      (Settings.accented false).buildTable = .ok table ∧
      fresh.Prints (fresh.answer (Settings.accented false) table (.list false))
        ("ADDRESS                  TARGET\n" ++ String.join rows) ∧
      List.Forall₂ (table.RowFor "about") rows (table.shown false) ∧
      (rows.map Report.rowAddress).Nodup := by
  have hvalid : (Settings.accented false).validate = .ok () := Settings.validate_about false _
  obtain ⟨table, hbuild⟩ :=
    Settings.exists_buildTable_eq_ok_iff.mpr (Settings.acceptable_accented false)
  obtain ⟨rows, hlisting⟩ := listed_addresses_resolve hvalid hbuild fresh false
  exact ⟨hvalid, table, rows, hbuild, hlisting⟩

end Session

/-! ## Lines of the listing -/

theorem builtinPages_unbroken (servicesSync : Bool) :
    ∀ page ∈ builtinPages servicesSync, '\n' ∉ page.target.toList := by
  have hall : (builtinPages true).all (fun page => page.target.toList.all (· != '\n')) = true := by
    decide +kernel
  intro page hpage hbreak
  have htarget := List.all_eq_true.mp hall page (builtinPages_subset servicesSync hpage)
  exact absurd rfl (bne_iff_ne.mp (List.all_eq_true.mp htarget '\n' hbreak))

/-- Settings with a target that has a line break in it and goes on like a row for another page. -/
def Settings.lineBreak : Settings :=
  ⟨false, "about", [⟨"x", "y:\nabout:home               z:", []⟩]⟩

theorem Settings.acceptable_lineBreak : Acceptable lineBreak := by
  refine ⟨by simp [lineBreak], ?_, ?_, by simp [lineBreak], ?_⟩ <;> decide +kernel

namespace Session

/-- The lines of a listing are its heading and its rows, and one more for each line break that a
target brings. There is one line for each page exactly if no target that is shown has a line break;
then the lines are the heading and the rows. Only pages of one's own can have such targets. -/
theorem list_lines_by_targets {settings : Settings} {table : PageTable}
    (hvalid : settings.validate = .ok ()) (hbuild : settings.buildTable = .ok table)
    (session : Session) (all : Bool) :
    ∃ text,
      session.Prints (session.answer settings table (.list all)) text ∧
      text.toList.count '\n' = 1 + (table.shown all).length +
        ((table.shown all).map fun page => page.target.toList.count '\n').sum ∧
      (text.toList.count '\n' = 1 + (table.shown all).length ↔
        ∀ page ∈ table.shown all, '\n' ∉ page.target.toList) ∧
      ((∀ page ∈ table.shown all, '\n' ∉ page.target.toList) →
        pieces '\n' text.toList =
          "ADDRESS                  TARGET".toList ::
            (table.shown all).map (fun page =>
              (Report.padded 24 (settings.scheme ++ ":" ++ page.name) ++ " " ++
                page.target).toList) ++ [[]]) ∧
      ∀ page ∈ table.shown all, '\n' ∈ page.target.toList →
        ∃ extra ∈ settings.extraPages, extra.StandsFor page := by
  obtain ⟨_, hscheme⟩ := settings.validate_eq_ok_iff.mp hvalid
  have hprintable : ∀ page ∈ table.shown all, Printable settings.scheme page.name :=
    (settings.built_of_buildTable hbuild).printable_shown hscheme
  have hpages := settings.shown_ne_nil hbuild all
  refine ⟨_, session.list_prints settings table all, Report.count_list hpages hprintable,
    Report.count_list_eq_iff hpages hprintable, Report.pieces_list hpages hprintable, ?_⟩
  intro page hpage hbreak
  obtain ⟨pages, hstands, hperm⟩ := settings.pages_perm_of_buildTable hbuild
  have hmem := hperm.mem_iff.mp ((table.shown_sublist all).subset hpage)
  rcases List.mem_append.mp hmem with hbuiltin | hextra
  · exact absurd hbreak (builtinPages_unbroken _ page hbuiltin)
  · exact exists_extra_of_standsFor hstands page hextra

/-- The target of the only page of one's own is on one line, so that each page is. -/
theorem list_lines_by_targets_accented :
    (Settings.accented true).validate = .ok () ∧
    ∃ table text,
      (Settings.accented true).buildTable = .ok table ∧
      fresh.Prints (fresh.answer (Settings.accented true) table (.list true)) text ∧
      text.toList.count '\n' = 1 + (table.shown true).length := by
  have hvalid : (Settings.accented true).validate = .ok () := Settings.validate_about true _
  obtain ⟨table, hbuild⟩ :=
    Settings.exists_buildTable_eq_ok_iff.mpr (Settings.acceptable_accented true)
  obtain ⟨text, hprints, _, hlines, _, hblame⟩ :=
    list_lines_by_targets hvalid hbuild fresh true
  refine ⟨hvalid, table, text, hbuild, hprints, hlines.mpr ?_⟩
  intro page hpage hbreak
  obtain ⟨extra, hextra, hstands⟩ := hblame page hpage hbreak
  have honly : extra = .accented := List.mem_singleton.mp hextra
  have hunbroken : '\n' ∉ "x:y".toList := by decide
  rw [hstands.target_eq, honly] at hbreak
  exact hunbroken hbreak

/-- Settings that are valid and describe a table, and yet the lines of their listing are not the
heading and one for each page that it shows. -/
theorem list_lines_forged :
    Settings.lineBreak.validate = .ok () ∧
    ∃ table text,
      Settings.lineBreak.buildTable = .ok table ∧
      fresh.Prints (fresh.answer Settings.lineBreak table (.list false)) text ∧
      text.toList.count '\n' ≠ 1 + (table.shown false).length := by
  have hvalid : Settings.lineBreak.validate = .ok () := Settings.validate_about false _
  obtain ⟨_, hscheme⟩ := (Settings.validate_eq_ok_iff _).mp hvalid
  obtain ⟨table, hbuild⟩ := Settings.exists_buildTable_eq_ok_iff.mpr Settings.acceptable_lineBreak
  obtain ⟨pages, hstands, hperm⟩ := Settings.pages_perm_of_buildTable hbuild
  obtain ⟨page, hextra, hfor⟩ := exists_page_of_standsFor hstands _ List.mem_cons_self
  have hpage : page ∈ table.pages := hperm.mem_iff.mpr (List.mem_append_right _ hextra)
  have hvisible : page.capabilities.has .hideFromListing = false := by
    have hset : Except.ok Capabilities.empty = .ok page.capabilities := hfor.capabilities_eq
    rw [← Except.ok.inj hset]
    decide
  have hbreak : '\n' ∈ page.target.toList := by
    rw [hfor.target_eq]
    decide
  refine ⟨hvalid, table, _, hbuild, list_prints _ _ _ _, ?_⟩
  intro hlines
  rw [Report.count_list_eq_iff (Settings.shown_ne_nil hbuild false)
    ((Settings.built_of_buildTable hbuild).printable_shown hscheme)] at hlines
  exact hlines page (PageTable.mem_shown_of_visible hpage hvisible false) hbreak

end Session

end AboutPages
