import AboutPages.Proofs.Command.Listing
import AboutPages.Proofs.Command.Verdict
import AboutPages.Proofs.Text.Quoted

/-!
# Lines of the log

A look-up logs one event. The event quotes the address, but writes a name that nobody knows, and the
target of a page that was found, as they are. So it makes one line of the log exactly if that name
or that target has no line break. An address cannot break a line by its scheme or its suffix, and
not at all where it leads to a page.
-/

namespace AboutPages

open Text

/-! ## Line breaks of an event -/

namespace Event

/-- Among what an event writes, only `raw` can bring line breaks and other characters without a
picture of their own, apart from the break at the end of the line. -/
structure BreaksAs (event : Event) (raw : String) : Prop where
  text : ∀ c, isGraphic c = false → event.text.toList.count c = raw.toList.count c
  line : event.line.toList.count '\n' = 1 + raw.toList.count '\n'

theorem isGraphic_lineBreak : isGraphic '\n' = false :=
  isGraphic_eq_false_of_isControl (by decide)

theorem BreaksAs.of_text {event : Event} {raw : String}
    (hsource : isPlainText event.source.toList = true)
    (htext : ∀ c, isGraphic c = false → event.text.toList.count c = raw.toList.count c) :
    event.BreaksAs raw := by
  have hlevel : event.level.render.toList.count '\n' = 0 := by
    cases event.level <;> decide
  have hspace : " ".toList.count '\n' = 0 := by decide
  have hcolon : ": ".toList.count '\n' = 0 := by decide
  have hbreak : "\n".toList.count '\n' = 1 := by decide
  refine ⟨htext, ?_⟩
  simp only [Event.line, String.toList_append, List.count_append, hlevel, hspace, hcolon, hbreak,
    count_of_isPlainText isGraphic_lineBreak hsource, htext _ isGraphic_lineBreak]
  omega

theorem BreaksAs.oneLine_iff {event : Event} {raw : String} (hbreaks : event.BreaksAs raw) :
    event.line.toList.count '\n' = 1 ↔ '\n' ∉ raw.toList := by
  rw [hbreaks.line, Nat.add_eq_left, List.count_eq_zero]

theorem breaksAs_resolved (address target : String) :
    (resolved address target).BreaksAs target := by
  have hsource : isPlainText (resolved address target).source.toList = true := by
    show isPlainText "aboutredir::cli::commands::resolve".toList = true
    decide
  apply BreaksAs.of_text hsource
  intro c hpicture
  have hwords : "resolved address=".toList.count c = 0 :=
    count_of_isPlainText hpicture (by decide)
  have hlabel : " target=".toList.count c = 0 := count_of_isPlainText hpicture (by decide)
  change ("resolved address=" ++ quoted address ++ " target=" ++ target).toList.count c = _
  simp only [String.toList_append, List.count_append, hwords, hlabel, count_quoted hpicture,
    Nat.zero_add]

theorem breaksAs_unknownPage (address : String) (unknown : UnknownPage) :
    (unknownPage address unknown).BreaksAs unknown.name := by
  have hsource : isPlainText (unknownPage address unknown).source.toList = true := by
    show isPlainText "aboutredir_core::resolver".toList = true
    decide
  apply BreaksAs.of_text hsource
  intro c hpicture
  have hwords : "unknown about: name address=".toList.count c = 0 :=
    count_of_isPlainText hpicture (by decide)
  have hlabel : " name=".toList.count c = 0 := count_of_isPlainText hpicture (by decide)
  change ("unknown about: name address=" ++ quoted address ++ " name=" ++
    unknown.name).toList.count c = _
  simp only [String.toList_append, List.count_append, hwords, hlabel, count_quoted hpicture,
    Nat.zero_add]

end Event

theorem count_pageName (address : String) :
    (pageName address).toList.count '\n' = (Address.parse address).rawName.toList.count '\n' := by
  have hcontrol : isControl '\n' = true := by decide
  have hword : ¬Wordlike '\n' := by decide
  show (lowercase (Address.parse address).rawName).toList.count '\n' = _
  rw [lowercase, String.toList_ofList]
  exact count_lowerFrom (fixed_of_isControl hcontrol) hword _ false

/-! ## What a look-up logs -/

namespace Session

/-- The command adds just this event to the log, be that a file or the error stream. -/
structure LogsOnly (session : Session) (result : Except Failure Unit × Session) (event : Event) :
    Prop where
  tree : result.2.tree = (session.record event).tree
  errors : result.2.errors = (session.record event).errors

/-- Whatever asks for an address that leads nowhere logs the same event. -/
theorem logsOnly_unknownPage (session : Session) (settings : Settings) {table : PageTable}
    {address : String} (hmissing : table.find? (pageName address) = none) {query : Query}
    (haddress : query.address? = some address) :
    session.LogsOnly (session.answer settings table query)
      (.unknownPage address ⟨pageName address⟩) := by
  have hrefuses := PageTable.refuses_of_find_none hmissing
  cases query with
  | resolve other json =>
      cases haddress
      rw [answer, session.resolve_of_refuses hrefuses]
      exact ⟨rfl, rfl⟩
  | flags other legacy =>
      cases haddress
      rw [answer, session.flags_of_refuses hrefuses]
      exact ⟨rfl, rfl⟩
  | list all => cases haddress
  | manifest => cases haddress

theorem logsOnly_resolved (session : Session) (settings : Settings) {table : PageTable}
    {address : String} {page : Page} (hfind : table.find? (pageName address) = some page)
    (json : Bool) :
    session.LogsOnly (session.answer settings table (.resolve address json))
      (.resolved address page.target) := by
  obtain ⟨_, _, hplan⟩ := PageTable.resolutions_of_find hfind
  rw [answer, session.resolve_of_plan hplan]
  exact ⟨rfl, rfl⟩

end Session

theorem Settings.extra_of_lineBreak {settings : Settings} {table : PageTable}
    (hbuild : settings.buildTable = .ok table) {name : String} {page : Page}
    (hfind : table.find? name = some page) (hbreak : '\n' ∈ page.target.toList) :
    ∃ extra ∈ settings.extraPages, extra.StandsFor page := by
  obtain ⟨haccept, pages, hpages, hagrees⟩ := buildTable_eq_ok_iff.mp hbuild
  obtain ⟨hmem, _⟩ := (hagrees.find?_eq_some_iff (haccept.all_distinct hpages)).mp hfind
  rcases List.mem_append.mp hmem with hbuiltin | hextra
  · exact absurd hbreak (builtinPages_unbroken _ page hbuiltin)
  · exact exists_extra_of_standsFor hpages page hextra

namespace Session

/-- A look-up logs one event, and how many lines that makes depends on what is not quoted in it. For
an address that leads to a page this is the target: the event makes one line exactly if the target
has no line break, and only pages of one's own can have one. For an address that leads nowhere it is
the name: the event makes one line exactly if the raw name has no line break. -/
theorem lookup_lines_by_raw_text {settings : Settings} {table : PageTable}
    (hbuild : settings.buildTable = .ok table) (session : Session) (address : String) :
    (∃ page, table.find? (pageName address) = some page ∧
      (∀ json, session.LogsOnly (session.answer settings table (.resolve address json))
        (.resolved address page.target)) ∧
      (Event.resolved address page.target).BreaksAs page.target ∧
      ((Event.resolved address page.target).line.toList.count '\n' = 1 ↔
        '\n' ∉ page.target.toList) ∧
      ('\n' ∈ page.target.toList → ∃ extra ∈ settings.extraPages, extra.StandsFor page)) ∨
    (table.find? (pageName address) = none ∧
      (∀ query : Query, query.address? = some address →
        session.LogsOnly (session.answer settings table query)
          (.unknownPage address ⟨pageName address⟩)) ∧
      (Event.unknownPage address ⟨pageName address⟩).BreaksAs (pageName address) ∧
      ((Event.unknownPage address ⟨pageName address⟩).line.toList.count '\n' = 1 ↔
        '\n' ∉ (Address.parse address).rawName.toList)) := by
  cases hfind : table.find? (pageName address) with
  | some page =>
      have hbreaks := Event.breaksAs_resolved address page.target
      exact Or.inl ⟨page, rfl, session.logsOnly_resolved settings hfind, hbreaks,
        hbreaks.oneLine_iff, settings.extra_of_lineBreak hbuild hfind⟩
  | none =>
      have hbreaks := Event.breaksAs_unknownPage address ⟨pageName address⟩
      refine Or.inr ⟨rfl, fun _ => session.logsOnly_unknownPage settings hfind, hbreaks, ?_⟩
      rw [hbreaks.line, count_pageName, Nat.add_eq_left, List.count_eq_zero]

/-- The address goes on behind the name with a line break, and yet makes one line. -/
theorem lookup_lines_by_raw_text_suffix :
    ∃ (table : PageTable) (page : Page),
      (Settings.accented false).buildTable = .ok table ∧
      fresh.LogsOnly
        (fresh.answer (Settings.accented false) table
          (.resolve "about:É?\nINFO aboutredir::cli:" true))
        (.resolved "about:É?\nINFO aboutredir::cli:" page.target) ∧
      (Event.resolved "about:É?\nINFO aboutredir::cli:" page.target).line.toList.count '\n' = 1 := by
  obtain ⟨table, hbuild⟩ :=
    Settings.exists_buildTable_eq_ok_iff.mpr (Settings.acceptable_accented false)
  have hname : pageName "about:É?\nINFO aboutredir::cli:" = "é" := by decide +kernel
  have hfound := Settings.isSome_find?_accented hbuild
  rcases lookup_lines_by_raw_text hbuild fresh "about:É?\nINFO aboutredir::cli:" with
    ⟨page, _, hlogs, _, hline, hblame⟩ | ⟨hnone, _⟩
  · refine ⟨table, page, hbuild, hlogs true, hline.mpr ?_⟩
    intro hbreak
    obtain ⟨extra, hextra, hstands⟩ := hblame hbreak
    have honly : extra = .accented := List.mem_singleton.mp hextra
    have hunbroken : '\n' ∉ "x:y".toList := by decide
    rw [hstands.target_eq, honly] at hbreak
    exact hunbroken hbreak
  · rw [hname] at hnone
    rw [hnone] at hfound
    cases hfound

end Session

/-! ## Forged lines -/

/-- A target with a line break that goes on like the log of another look-up. -/
def forgingTarget : String :=
  "y:\nINFO aboutredir::cli::commands::resolve: resolved address=\"home\" target=z:"

def Settings.forging : Settings := ⟨false, "about", [⟨"x", forgingTarget, []⟩]⟩

theorem Settings.acceptable_forging : Acceptable forging := by
  refine ⟨by simp [forging], ?_, ?_, by simp [forging], ?_⟩ <;> decide +kernel

theorem Settings.acceptable_without_extras : Acceptable ⟨false, "about", []⟩ := by
  refine ⟨by simp, by simp, by simp, by simp, by simp⟩

theorem Event.line_forging :
    (Event.resolved "x" forgingTarget).line =
      (Event.resolved "x" "y:").line ++ (Event.resolved "home" "z:").line := by
  decide +kernel

theorem Settings.exists_find?_extra {settings : Settings} {table : PageTable}
    (hbuild : settings.buildTable = .ok table) {extra : ExtraPage}
    (hextra : extra ∈ settings.extraPages) :
    ∃ page, extra.StandsFor page ∧ table.find? extra.name = some page := by
  obtain ⟨haccept, pages, hpages, hagrees⟩ := buildTable_eq_ok_iff.mp hbuild
  obtain ⟨page, hpage, hstands⟩ := exists_page_of_standsFor hpages extra hextra
  refine ⟨page, hstands, ?_⟩
  rw [hagrees.find?_eq_some_iff (haccept.all_distinct hpages)]
  exact ⟨List.mem_append_right _ hpage, hstands.name_eq⟩

/-- A target can forge a line: the log of one look-up reads like that of two. And a name can split
one. -/
theorem Session.lookup_lines_forged :
    (∃ table,
      Settings.forging.buildTable = .ok table ∧
      fresh.LogsOnly (fresh.answer Settings.forging table (.resolve "x" false))
        (.resolved "x" forgingTarget) ∧
      (Event.resolved "x" forgingTarget).line =
        (Event.resolved "x" "y:").line ++ (Event.resolved "home" "z:").line ∧
      (Event.resolved "x" forgingTarget).line.toList.count '\n' ≠ 1) ∧
    ∃ table,
      Settings.buildTable ⟨false, "about", []⟩ = .ok table ∧
      fresh.LogsOnly (fresh.answer ⟨false, "about", []⟩ table (.resolve "a\nb" false))
        (.unknownPage "a\nb" ⟨"a\nb"⟩) ∧
      (Event.unknownPage "a\nb" ⟨"a\nb"⟩).line.toList.count '\n' ≠ 1 := by
  constructor
  · obtain ⟨table, hbuild⟩ := Settings.exists_buildTable_eq_ok_iff.mpr Settings.acceptable_forging
    obtain ⟨page, hstands, hfind⟩ := Settings.exists_find?_extra hbuild List.mem_cons_self
    have hname : pageName "x" = "x" := by decide +kernel
    have htarget : page.target = forgingTarget := hstands.target_eq
    rw [← hname] at hfind
    refine ⟨table, hbuild, ?_, Event.line_forging, ?_⟩
    · rw [← htarget]
      exact logsOnly_resolved _ _ hfind false
    · rw [Ne, (Event.breaksAs_resolved _ _).oneLine_iff]
      decide
  · obtain ⟨table, hbuild⟩ :=
      Settings.exists_buildTable_eq_ok_iff.mpr Settings.acceptable_without_extras
    have hname : pageName "a\nb" = "a\nb" := by decide +kernel
    have hmissing : table.find? (pageName "a\nb") = none := by
      rw [← Option.not_isSome_iff_eq_none, Settings.isSome_find?_of_buildTable hbuild, hname]
      decide
    refine ⟨table, hbuild, ?_, ?_⟩
    · rw [← hname]
      exact logsOnly_unknownPage _ _ hmissing rfl
    · rw [Ne, (Event.breaksAs_unknownPage _ _).oneLine_iff]
      decide

end AboutPages
