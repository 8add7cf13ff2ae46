import AboutPages.Command.Session
import AboutPages.Proofs.Command.Report
import AboutPages.Proofs.Page.Resolution
import AboutPages.Proofs.Settings.Table

/-!
# Looking up one page in four ways

A plan as lines, a plan as an object, the capabilities by name and the capabilities in the older
encoding: for one address the four answers are about one page, or fail with one message. That the
encodings agree depends on what tables can hold: no page of a table that settings describe has a
bit that means nothing.
-/

namespace AboutPages

open Text

/-! ## Tables hold known capabilities -/

theorem known_builtinPages (servicesSync : Bool) :
    ∀ page ∈ builtinPages servicesSync, page.capabilities.Known := by
  unfold Capabilities.Known
  cases servicesSync <;> decide

theorem known_of_standsFor {extras : List ExtraPage} {pages : List Page}
    (hpages : List.Forall₂ ExtraPage.StandsFor extras pages) :
    ∀ page ∈ pages, page.capabilities.Known := by
  induction hpages with
  | nil => simp
  | cons hpage _ ih =>
      rw [List.forall_mem_cons]
      exact ⟨Capabilities.known_of_ofNames hpage.capabilities_eq, ih⟩

/-- Every page that settings bring into a table has capabilities with a meaning only. -/
theorem Settings.known_of_buildTable {settings : Settings} {table : PageTable}
    (hbuild : settings.buildTable = .ok table) {name : String} {page : Page}
    (hfind : table.find? name = some page) : page.capabilities.Known := by
  obtain ⟨haccept, pages, hpages, hagrees⟩ := buildTable_eq_ok_iff.mp hbuild
  obtain ⟨hmem, _⟩ := (hagrees.find?_eq_some_iff (haccept.all_distinct hpages)).mp hfind
  rcases List.mem_append.mp hmem with hbuiltin | hextra
  · exact known_builtinPages _ page hbuiltin
  · exact known_of_standsFor hpages page hextra

namespace Session

/-- A session in an empty tree. Nothing has been written yet, and the log is the error stream. -/
def fresh : Session := ⟨⟨[], []⟩, .errorStream, LogFilter.ofEnvironment none, "", ""⟩

/-! ## What an answer prints -/

/-- The command succeeds, and this is what it adds to the output. -/
structure Prints (session : Session) (result : Except Failure Unit × Session) (text : String) :
    Prop where
  succeeds : result.1 = .ok ()
  output : result.2.output = session.output ++ text

/-- The command fails, and adds nothing to the output. -/
structure Fails (session : Session) (result : Except Failure Unit × Session) (failure : Failure) :
    Prop where
  fails : result.1 = .error failure
  output : result.2.output = session.output

@[simp] theorem output_record (session : Session) (event : Event) :
    (session.record event).output = session.output := by
  unfold record
  split
  · split <;> rfl
  · rfl

theorem resolve_of_plan (session : Session) {table : PageTable} {address : String}
    {plan : LoadPlan} (hplan : table.plan address = .ok plan) (json : Bool) :
    session.resolve table address json =
      (.ok (), (session.record (.resolved address plan.target)).print
        (if json then plan.json else plan.text)) := by
  rw [resolve, hplan]
  rfl

theorem resolve_of_refuses (session : Session) {table : PageTable} {address : String}
    {unknown : UnknownPage} (hrefuses : table.Refuses address unknown) (json : Bool) :
    session.resolve table address json =
      (.error (.unknownPage unknown), session.record (.unknownPage address unknown)) := by
  rw [resolve, hrefuses.plan]
  rfl

theorem flags_of_capabilities (session : Session) {table : PageTable} {address : String}
    {set : Capabilities} (hset : table.resolveCapabilities address = .ok set) (legacy : Bool) :
    session.flags table address legacy =
      (.ok (), session.print (Report.capabilities legacy set)) := by
  rw [flags, hset]
  rfl

theorem flags_of_refuses (session : Session) {table : PageTable} {address : String}
    {unknown : UnknownPage} (hrefuses : table.Refuses address unknown) (legacy : Bool) :
    session.flags table address legacy =
      (.error (.unknownPage unknown), session.record (.unknownPage address unknown)) := by
  rw [flags, hrefuses.capabilities]
  rfl

theorem resolve_prints (session : Session) {table : PageTable} {address : String}
    {plan : LoadPlan} (hplan : table.plan address = .ok plan) (json : Bool) :
    session.Prints (session.resolve table address json)
      (if json then plan.json else plan.text) := by
  rw [session.resolve_of_plan hplan]
  exact ⟨rfl, by rw [print, output_record]⟩

theorem flags_prints (session : Session) {table : PageTable} {address : String}
    {set : Capabilities} (hset : table.resolveCapabilities address = .ok set) (legacy : Bool) :
    session.Prints (session.flags table address legacy) (Report.capabilities legacy set) := by
  rw [session.flags_of_capabilities hset]
  exact ⟨rfl, rfl⟩

theorem resolve_fails (session : Session) {table : PageTable} {address : String}
    {unknown : UnknownPage} (hrefuses : table.Refuses address unknown) (json : Bool) :
    session.Fails (session.resolve table address json) (.unknownPage unknown) := by
  rw [session.resolve_of_refuses hrefuses]
  exact ⟨rfl, output_record _ _⟩

theorem flags_fails (session : Session) {table : PageTable} {address : String}
    {unknown : UnknownPage} (hrefuses : table.Refuses address unknown) (legacy : Bool) :
    session.Fails (session.flags table address legacy) (.unknownPage unknown) := by
  rw [session.flags_of_refuses hrefuses]
  exact ⟨rfl, output_record _ _⟩

theorem message_unknownPage (unknown : UnknownPage) :
    (Failure.unknownPage unknown).message =
      "unknown about: name " ++ quoted unknown.name ++ " (status 0x80070057)" := by
  have hstatus : statusText UnknownPage.status = "0x80070057" := by decide
  have hend : " (status " ++ "0x80070057" ++ ")" = " (status 0x80070057)" := by decide
  have hmessage : (Failure.unknownPage unknown).message =
      "unknown about: name " ++ quoted unknown.name ++ " (status " ++
        statusText UnknownPage.status ++ ")" := rfl
  rw [hmessage, hstatus, ← hend]
  simp only [String.append_assoc]

/-! ## The four answers -/

/-- The four answers about an address tell of one set of capabilities: by its names, with the word
`none` for the empty set only, as the number that is its older encoding, and in both forms of the
plan, where it stands next to the principal. -/
structure Describes (session : Session) (settings : Settings) (table : PageTable)
    (address : String) (set : Capabilities) (legacy : UInt32) (principal : String) : Prop where
  known : set.Known
  render_eq : set ≠ .empty → set.render = String.intercalate ", " set.names
  render_eq_none_iff : set.render = "none" ↔ set = .empty
  legacy_eq : Capabilities.ofLegacy legacy = set
  restricted_iff : principal = "restricted" ↔ legacy.toNat % 2 = 1
  flags : session.Prints (session.answer settings table (.flags address false)) (set.render ++ "\n")
  legacyFlags : session.Prints (session.answer settings table (.flags address true))
    (toString legacy.toNat ++ "\n")
  lines : ∃ text, session.Prints (session.answer settings table (.resolve address false)) text ∧
    [("flags      " ++ set.render).toList, ("principal  " ++ principal).toList, []] <:+
      pieces '\n' text.toList
  object : ∃ text fields names,
    session.Prints (session.answer settings table (.resolve address true)) text ∧
    Json.parse text = some (.object fields) ∧
    fields.lookup "flags" = some (.array (names.map .string)) ∧
    Capabilities.ofNames names = .ok set ∧
    fields.lookup "principal" = some (.string principal)

theorem principal_eq_restricted_iff_odd (set : Capabilities) :
    set.principal.render = "restricted" ↔ set.toLegacy.toNat % 2 = 1 := by
  rw [Principal.render_eq_restricted_iff, Capabilities.principal_eq_restricted_iff,
    Capabilities.toLegacy_odd_iff]

theorem describes_of_find (session : Session) (settings : Settings) {table : PageTable}
    {address : String} {page : Page} (hfind : table.find? (pageName address) = some page)
    (hknown : page.capabilities.Known) :
    session.Describes settings table address page.capabilities page.capabilities.toLegacy
      page.capabilities.principal.render := by
  obtain ⟨hset, _, hplan⟩ := PageTable.resolutions_of_find hfind
  let plan : LoadPlan := ⟨address, pageName address, page.target, page.capabilities,
    page.capabilities.principal⟩
  have hlegacy : Capabilities.ofLegacy page.capabilities.toLegacy = page.capabilities := by
    rw [Capabilities.ofLegacy_toLegacy, hknown]
  have hnames : Capabilities.ofNames page.capabilities.names = .ok page.capabilities := by
    rw [Capabilities.ofNames_names, hknown]
  exact
    { known := hknown
      render_eq := Capabilities.render_of_ne_empty
      render_eq_none_iff := page.capabilities.render_eq_none_iff
      legacy_eq := hlegacy
      restricted_iff := principal_eq_restricted_iff_odd page.capabilities
      flags := session.flags_prints hset false
      legacyFlags := session.flags_prints hset true
      lines := ⟨plan.text, session.resolve_prints hplan false, plan.lines_text⟩
      object := ⟨plan.json, plan.fields, page.capabilities.names,
        session.resolve_prints hplan true, plan.parse_json, rfl, hnames, rfl⟩ }

/-- The four ways to look up an address agree. If a page has its name, all four succeed and tell of
the capabilities of that page, each in its own encoding. If none has, all four fail with one
message and print nothing. -/
theorem lookups_agree {settings : Settings} {table : PageTable}
    (hbuild : settings.buildTable = .ok table) (session : Session) (address : String) :
    (∃ page legacy principal, table.find? (pageName address) = some page ∧
      session.Describes settings table address page.capabilities legacy principal) ∨
    (table.find? (pageName address) = none ∧
      ∃ failure : Failure,
        failure.message =
          "unknown about: name " ++ quoted (pageName address) ++ " (status 0x80070057)" ∧
        (∀ json, session.Fails (session.answer settings table (.resolve address json)) failure) ∧
        ∀ legacy,
          session.Fails (session.answer settings table (.flags address legacy)) failure) := by
  cases hfind : table.find? (pageName address) with
  | some page =>
      have hknown := settings.known_of_buildTable hbuild hfind
      exact Or.inl ⟨page, _, _, rfl, session.describes_of_find settings hfind hknown⟩
  | none =>
      have hrefuses := PageTable.refuses_of_find_none hfind
      exact Or.inr ⟨rfl, .unknownPage ⟨pageName address⟩, message_unknownPage _,
        session.resolve_fails hrefuses, session.flags_fails hrefuses⟩

/-- Settings with a page of their own, whose flag is between blanks and in mixed case; the address
breaks a line and continues with a report of other flags. -/
theorem lookups_agree_lineBreak :
    ∃ table set legacy principal,
      (Settings.accented false).buildTable = .ok table ∧
      fresh.Describes (Settings.accented false) table "about:É?\nflags      (none)" set legacy
        principal := by
  obtain ⟨table, hbuild⟩ :=
    Settings.exists_buildTable_eq_ok_iff.mpr (Settings.acceptable_accented false)
  have hname : pageName "about:É?\nflags      (none)" = "é" := by decide +kernel
  have hfound := Settings.isSome_find?_accented hbuild
  rcases lookups_agree hbuild fresh "about:É?\nflags      (none)" with
    ⟨page, legacy, principal, _, hdescribes⟩ | ⟨hnone, _⟩
  · exact ⟨table, page.capabilities, legacy, principal, hbuild, hdescribes⟩
  · rw [hname] at hnone
    rw [hnone] at hfound
    cases hfound

end Session

end AboutPages
