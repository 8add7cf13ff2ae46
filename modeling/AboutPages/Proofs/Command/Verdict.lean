import AboutPages.Proofs.Command.Lookup

/-!
# How a run ends

A query has three stages that can fail: its settings, the table that they describe, and the page
that is looked up. A run fails exactly if one of them does, and then it reports the first one. All
that is printed is printed at the very end, so that a run that fails has printed nothing.
-/

namespace AboutPages

open Text

/-! ## Reasons to fail -/

/-- The settings that a run reads: from the file it was given, or else from the default one. -/
def Options.load (options : Options) (env : Environment) (tree : FileTree) :
    Except SettingsError Settings :=
  match options.config with
  | .some path => Settings.load tree path
  | .none =>
      match env.directories? with
      | .none => .error .homeless
      | .some directories =>
          match tree.makeDirectories directories.configDirectory with
          | (.error cause, _) => .error (.uncreatable cause)
          | (.ok (), made) =>
              (Settings.loadOrCreate made directories.configFile).1.map Settings.Loaded.settings

def Options.switched (options : Options) (settings : Settings) : Settings :=
  { settings with servicesSync := options.servicesSync.getD settings.servicesSync }

namespace Query

def address? : Query → Option String
  | .resolve address _ => some address
  | .flags address _ => some address
  | .list _ => none
  | .manifest => none

/-- Why a query fails. A later stage counts only if those before it have passed. -/
inductive Fails (query : Query) (env : Environment) (options : Options) (tree : FileTree) :
    Failure → Prop where
  | settings {cause : SettingsError} (hload : options.load env tree = .error cause) :
      Fails query env options tree (.settings cause)
  | extraPage {settings : Settings} {cause : ExtraPageError}
      (hload : options.load env tree = .ok settings)
      (hbuild : (options.switched settings).buildTable = .error cause) :
      Fails query env options tree (.extraPage cause)
  | unknownPage {settings : Settings} {table : PageTable} {address : String}
      (hload : options.load env tree = .ok settings)
      (hbuild : (options.switched settings).buildTable = .ok table)
      (haddress : query.address? = some address) (hunknown : pageName address ∉ table.names) :
      Fails query env options tree (.unknownPage ⟨pageName address⟩)

variable {query : Query} {env : Environment} {options : Options} {tree : FileTree}

theorem Fails.unique {failure other : Failure} (hfails : query.Fails env options tree failure)
    (hother : query.Fails env options tree other) : failure = other := by
  -- Two reasons of different stages disagree on how far the query came.
  cases hfails <;> cases hother <;> simp_all

theorem Fails.not_of_answered {settings : Settings} {table : PageTable}
    (hload : options.load env tree = .ok settings)
    (hbuild : (options.switched settings).buildTable = .ok table)
    (hfound : ∀ address, query.address? = some address → pageName address ∈ table.names)
    (failure : Failure) : ¬query.Fails env options tree failure := by
  intro hfails
  cases hfails with
  | settings hother =>
      rw [hload] at hother
      cases hother
  | extraPage hother hrefused =>
      rw [hload] at hother
      cases hother
      rw [hbuild] at hrefused
      cases hrefused
  | unknownPage hother hbuilt haddress hunknown =>
      rw [hload] at hother
      cases hother
      rw [hbuild] at hbuilt
      cases hbuilt
      exact hunknown (hfound _ haddress)

end Query

/-! ## Reports are not empty -/

theorem append_ne_empty_of_right (front : String) {back : String} (hback : back ≠ "") :
    front ++ back ≠ "" := by
  rw [ne_eq, String.append_eq_empty_iff]
  exact fun hempty => hback hempty.2

theorem append_ne_empty_of_left {front : String} (hfront : front ≠ "") (back : String) :
    front ++ back ≠ "" := by
  rw [ne_eq, String.append_eq_empty_iff]
  exact fun hempty => hfront hempty.1

theorem LoadPlan.report_ne_empty (plan : LoadPlan) (asObject : Bool) :
    (if asObject then plan.json else plan.text) ≠ "" := by
  delta json text
  cases asObject <;> exact append_ne_empty_of_right _ (by decide)

namespace Report

theorem capabilities_ne_empty (legacy : Bool) (set : Capabilities) :
    capabilities legacy set ≠ "" := by
  delta capabilities
  exact append_ne_empty_of_right _ (by decide)

theorem list_ne_empty (scheme : String) (pages : List Page) : list scheme pages ≠ "" := by
  unfold list
  split
  · decide
  · exact append_ne_empty_of_left (by decide) _

theorem manifest_ne_empty (table : PageTable) : manifest table ≠ "" := by
  delta manifest
  exact append_ne_empty_of_left (append_ne_empty_of_right _ (by decide)) _

theorem help_ne_empty : help ≠ "" := by
  delta help
  exact append_ne_empty_of_right _ (by decide)

theorem completions_ne_empty (shell : Shell) : completions shell ≠ "" := by
  delta completions
  cases shell <;> exact append_ne_empty_of_right _ (by decide)

end Report

/-! ## Sessions that only log -/

namespace Session

/-- Since `session` there was nothing but logging, and changes to the tree: what came to the error
stream are the lines of events, and none if the log is a file. -/
structure Logs (session later : Session) : Prop where
  output : later.output = session.output
  sink : later.sink = session.sink
  errors : ∃ events : List Event,
    later.errors = session.errors ++ String.join (events.map Event.line) ∧
    ∀ place, session.sink = .file place → events = []

namespace Logs

variable {session later : Session}

theorem refl (session : Session) : session.Logs session :=
  ⟨rfl, rfl, [], by simp, fun _ _ => rfl⟩

theorem onTree (hlogs : session.Logs later) (tree : FileTree) :
    session.Logs { later with tree := tree } :=
  ⟨hlogs.output, hlogs.sink, hlogs.errors⟩

theorem record (hlogs : session.Logs later) (event : Event) :
    session.Logs (later.record event) := by
  unfold Session.record
  split
  · split
    · exact hlogs.onTree _
    -- Only here the error stream grows, and the log is not a file.
    · rename_i hstream
      obtain ⟨events, herrors, _⟩ := hlogs.errors
      refine ⟨hlogs.output, hlogs.sink, events ++ [event], ?_, ?_⟩
      · rw [herrors, List.map_append, String.join_append, String.append_assoc]
        simp
      · intro place hfile
        rw [← hlogs.sink, hstream] at hfile
        cases hfile
  · exact hlogs

theorem defaultSettings (hlogs : session.Logs later) (env : Environment) {options : Options}
    (hconfig : options.config = none) :
    ∃ next, session.Logs next ∧
      later.defaultSettings env =
        ((options.load env later.tree).mapError Failure.settings, next) := by
  unfold Session.defaultSettings Options.load
  rw [hconfig]
  cases env.directories? with
  | none => exact ⟨later, hlogs, rfl⟩
  | some directories =>
      cases hmake : later.tree.makeDirectories directories.configDirectory with
      | mk result made =>
          cases result with
          | error cause => exact ⟨_, hlogs.onTree made, by simp only [hmake]; rfl⟩
          | ok _ =>
              cases hload : Settings.loadOrCreate made directories.configFile with
              | mk loaded after =>
                  simp only [hmake, hload]
                  cases loaded with
                  | error cause => exact ⟨_, hlogs.onTree after, rfl⟩
                  | ok loaded =>
                      cases hcreated : loaded.created with
                      | false => exact ⟨_, hlogs.onTree after, by simp only [hcreated]; rfl⟩
                      | true =>
                          exact ⟨_, (hlogs.onTree after).record _, by simp only [hcreated]; rfl⟩

/-- Reading the settings is loading them and switching; on the way there is only logging. -/
theorem settings (hlogs : session.Logs later) (env : Environment) (options : Options) :
    ∃ next, session.Logs next ∧
      later.settings env options =
        (((options.load env later.tree).mapError Failure.settings).map options.switched, next) := by
  unfold Session.settings
  cases hconfig : options.config with
  | some path =>
      refine ⟨later, hlogs, ?_⟩
      rw [Options.load, hconfig]
      rfl
  | none =>
      obtain ⟨next, hnext, hdefault⟩ := hlogs.defaultSettings env hconfig
      refine ⟨next, hnext, ?_⟩
      simp only [hdefault]
      rfl

end Logs

/-! ## How a query ends -/

/-- The end of a command that fails for such reasons: it has failed for one, and there was only
logging; or there is none, and after the logging some text was printed. -/
inductive Ends (session : Session) (fails : Failure → Prop) :
    Except Failure Unit × Session → Prop where
  | failed {failure : Failure} {later : Session} (hfails : fails failure)
      (hlogs : session.Logs later) : Ends session fails (.error failure, later)
  | printed {later : Session} {text : String} (hpasses : ∀ failure, ¬fails failure)
      (hlogs : session.Logs later) (htext : text ≠ "") :
      Ends session fails (.ok (), later.print text)

namespace Logs

variable {session later : Session} {env : Environment} {options : Options} {tree : FileTree}
  {settings : Settings} {table : PageTable}

/-- A look-up ends as it should if it fails exactly where the table has no page. -/
theorem ends_lookup (hlogs : session.Logs later) {query : Query} {address : String}
    {result : Except Failure Unit × Session} (hload : options.load env tree = .ok settings)
    (hbuild : (options.switched settings).buildTable = .ok table)
    (haddress : query.address? = some address)
    (hmissing : table.find? (pageName address) = none →
      result = (.error (.unknownPage ⟨pageName address⟩),
        later.record (.unknownPage address ⟨pageName address⟩)))
    (hfound : ∀ page, table.find? (pageName address) = some page →
      ∃ next text, session.Logs next ∧ text ≠ "" ∧ result = (.ok (), next.print text)) :
    session.Ends (query.Fails env options tree) result := by
  cases hfind : table.find? (pageName address) with
  | none =>
      rw [hmissing hfind]
      have hunknown := PageTable.not_mem_names_iff.mpr hfind
      exact .failed (.unknownPage hload hbuild haddress hunknown) (hlogs.record _)
  | some page =>
      obtain ⟨next, text, hnext, htext, hresult⟩ := hfound page hfind
      have hknown : pageName address ∈ table.names :=
        PageTable.mem_names_iff.mpr (Option.isSome_of_eq_some hfind)
      rw [hresult]
      refine .printed (Query.Fails.not_of_answered hload hbuild ?_) hnext htext
      intro other hother
      rw [haddress] at hother
      cases hother
      exact hknown

theorem ends_answer (hlogs : session.Logs later) (hload : options.load env tree = .ok settings)
    (hbuild : (options.switched settings).buildTable = .ok table) (query : Query) :
    session.Ends (query.Fails env options tree)
      (later.answer (options.switched settings) table query) := by
  cases query with
  | resolve address json =>
      refine hlogs.ends_lookup hload hbuild rfl ?_ ?_
      · intro hmissing
        exact later.resolve_of_refuses (PageTable.refuses_of_find_none hmissing) json
      · intro page hfind
        obtain ⟨_, _, hplan⟩ := PageTable.resolutions_of_find hfind
        exact ⟨_, _, hlogs.record _, LoadPlan.report_ne_empty _ json,
          later.resolve_of_plan hplan json⟩
  | flags address legacy =>
      refine hlogs.ends_lookup hload hbuild rfl ?_ ?_
      · intro hmissing
        exact later.flags_of_refuses (PageTable.refuses_of_find_none hmissing) legacy
      · intro page hfind
        obtain ⟨hset, _⟩ := PageTable.resolutions_of_find hfind
        exact ⟨_, _, hlogs, Report.capabilities_ne_empty legacy _,
          later.flags_of_capabilities hset legacy⟩
  | list all =>
      refine .printed (Query.Fails.not_of_answered hload hbuild ?_) hlogs
        (Report.list_ne_empty _ _)
      simp [Query.address?]
  | manifest =>
      refine .printed (Query.Fails.not_of_answered hload hbuild ?_) hlogs
        (Report.manifest_ne_empty table)
      simp [Query.address?]

theorem ends_query (hlogs : session.Logs later) (env : Environment) (options : Options)
    (query : Query) :
    session.Ends (query.Fails env options later.tree) (later.query env options query) := by
  obtain ⟨next, hnext, hsettings⟩ := hlogs.settings env options
  unfold Session.query
  rw [hsettings]
  cases hload : options.load env later.tree with
  | error cause => exact .failed (.settings hload) hnext
  | ok settings =>
      have hnoted := hnext.record (.settingsLoaded (options.switched settings))
      cases hbuild : (options.switched settings).buildTable with
      | error cause =>
          simp only [Except.mapError, Except.map, hbuild]
          exact .failed (.extraPage hload hbuild) hnoted
      | ok table =>
          simp only [Except.mapError, Except.map, hbuild]
          exact hnoted.ends_answer hload hbuild query

end Logs

theorem output_print_ne_empty (session : Session) {text : String} (htext : text ≠ "") :
    (session.print text).output ≠ "" :=
  append_ne_empty_of_right session.output htext

/-- A session starts with empty streams. Only its first event may already have been logged. -/
theorem start_logs (env : Environment) (tree : FileTree) :
    ∃ blank : Session, blank.output = "" ∧ blank.errors = "" ∧ blank.Logs (start env tree) ∧
      ∀ log, (openLog env tree).1 = .ok log → blank.sink = .file log.place := by
  unfold start
  cases hopen : openLog env tree with
  | mk result after =>
      cases result with
      | ok log =>
          refine ⟨_, rfl, rfl, (Logs.refl _).record _, ?_⟩
          intro other hother
          cases hother
          rfl
      | error cause => exact ⟨_, rfl, rfl, (Logs.refl _).record _, nofun⟩

end Session

/-! ## How a run ends -/

/-- A run misuses the command line, or it is a query that fails, or it prints something. -/
theorem run_cases (env : Environment) (arguments : List Bytes) (tree : FileTree) :
    (Request.ofArguments arguments = .misuse ∧
      (run env arguments tree).exitCode = 2 ∧ (run env arguments tree).output = "") ∨
    (∃ options query failure events,
      Request.ofArguments arguments = .run ⟨options, .query query⟩ ∧
      query.Fails env options (Session.start env tree).tree failure ∧
      (run env arguments tree).exitCode = 1 ∧ (run env arguments tree).output = "" ∧
      (run env arguments tree).errors = String.join (List.map Event.line events) ++
        "aboutredir error: " ++ failure.message ++ "\n" ∧
      ∀ log, (Session.openLog env tree).1 = .ok log → events = []) ∨
    (Request.ofArguments arguments ≠ .misuse ∧
      (∀ options query failure, Request.ofArguments arguments = .run ⟨options, .query query⟩ →
        ¬query.Fails env options (Session.start env tree).tree failure) ∧
      (run env arguments tree).exitCode = 0 ∧ (run env arguments tree).output ≠ "") := by
  obtain ⟨blank, houtput, herrors, hlogs, hsink⟩ := Session.start_logs env tree
  have hstart : (Session.start env tree).output = "" := hlogs.output.trans houtput
  unfold run
  cases hrequest : Request.ofArguments arguments with
  | misuse => exact Or.inl ⟨rfl, rfl, hstart⟩
  | help =>
      refine Or.inr (Or.inr ⟨by simp, by simp, rfl, ?_⟩)
      exact Session.output_print_ne_empty _ Report.help_ne_empty
  | run invocation =>
      obtain ⟨options, task⟩ := invocation
      cases task with
      | completions shell =>
          refine Or.inr (Or.inr ⟨by simp, by simp, rfl, ?_⟩)
          exact Session.output_print_ne_empty _ (Report.completions_ne_empty shell)
      | query query =>
          have hends := hlogs.ends_query env options query
          simp only [Session.invoke]
          -- From here on it matters only how the query ended, not how it came to that.
          generalize (Session.start env tree).query env options query = result at hends
          cases hends with
          | failed hfails hlater =>
              obtain ⟨events, hevents, hfile⟩ := hlater.errors
              refine Or.inr (Or.inl ⟨options, query, _, events, rfl, hfails, rfl, ?_, ?_, ?_⟩)
              · exact hlater.output.trans houtput
              · simp only [hevents, herrors, String.empty_append]
              · intro log hopen
                exact hfile log.place (hsink log hopen)
          | printed hpasses hlater htext =>
              refine Or.inr (Or.inr ⟨by simp, ?_, rfl, Session.output_print_ne_empty _ htext⟩)
              rintro _ _ failure ⟨⟩
              exact hpasses failure

/-- A run fails exactly for the known reasons. It exits with 1 if it is a query whose settings
cannot be read, whose settings, once switched, describe no table, or whose address names no page of
that table; the first of these that applies is reported, after what was logged to the error stream
for want of a log file. Then nothing was printed, and nothing is printed on a misuse, which is the
only reason to exit with 2. Otherwise a run exits with 0 and has printed something. -/
theorem run_fails_for_first_reason (env : Environment) (arguments : List Bytes) (tree : FileTree) :
    ((run env arguments tree).exitCode = 1 ↔
      ∃ options query failure, Request.ofArguments arguments = .run ⟨options, .query query⟩ ∧
        query.Fails env options (Session.start env tree).tree failure) ∧
    (∀ options query failure, Request.ofArguments arguments = .run ⟨options, .query query⟩ →
      query.Fails env options (Session.start env tree).tree failure →
      ∃ events : List Event,
        (run env arguments tree).errors = String.join (events.map Event.line) ++
          "aboutredir error: " ++ failure.message ++ "\n" ∧
        ∀ log, (Session.openLog env tree).1 = .ok log → events = []) ∧
    ((run env arguments tree).exitCode = 2 ↔ Request.ofArguments arguments = .misuse) ∧
    ((run env arguments tree).exitCode = 0 ↔ (run env arguments tree).output ≠ "") ∧
    ((run env arguments tree).exitCode = 0 ∨ (run env arguments tree).exitCode = 1 ∨
      (run env arguments tree).exitCode = 2) := by
  rcases run_cases env arguments tree with
    ⟨hmisuse, hexit, houtput⟩ |
    ⟨options, query, failure, events, hrequest, hfails, hexit, houtput, herrors, hfile⟩ |
    ⟨hmisuse, hpasses, hexit, houtput⟩
  · simp [hmisuse, hexit, houtput]
  · rw [hexit, houtput, hrequest]
    refine ⟨⟨fun _ => ⟨options, query, failure, rfl, hfails⟩, fun _ => rfl⟩, ?_, by simp, by simp,
      by simp⟩
    rintro _ _ other ⟨⟩ hother
    rw [hother.unique hfails]
    exact ⟨events, herrors, hfile⟩
  · rw [hexit]
    refine ⟨⟨nofun, ?_⟩, ?_, ⟨nofun, fun h => absurd h hmisuse⟩, ⟨fun _ => houtput, fun _ => rfl⟩,
      Or.inl rfl⟩
    · rintro ⟨options, query, failure, hrequest, hfails⟩
      exact absurd hfails (hpasses options query failure hrequest)
    · intro options query failure hrequest hfails
      exact absurd hfails (hpasses options query failure hrequest)

/-- The settings file has the page that is asked for, but the command line switches it off. -/
theorem run_fails_for_first_reason_switchedOff :
    let env : Environment := ⟨some "/h", none, some "/c", none⟩
    let tree : FileTree :=
      ⟨[([utf8 "c"], .directory), ([utf8 "c", utf8 "aboutredir"], .directory),
        ([utf8 "c", utf8 "aboutredir", utf8 "config.toml"],
          .file (utf8 "services_sync = true\n"))], []⟩
    let arguments : List Bytes :=
      [utf8 "--services-sync", utf8 "false", utf8 "resolve", utf8 "about:Sync-Tabs"]
    (run env arguments tree).exitCode = 1 ∧ (run env arguments tree).output = "" ∧
    ∃ options query failure events,
      Request.ofArguments arguments = .run ⟨options, .query query⟩ ∧
      query.Fails env options (Session.start env tree).tree failure ∧
      (run env arguments tree).errors = String.join (List.map Event.line events) ++
        "aboutredir error: " ++ failure.message ++ "\n" := by
  intro env tree arguments
  obtain ⟨hfails, hreport, _, hprinted, _⟩ := run_fails_for_first_reason env arguments tree
  have hexit : (run env arguments tree).exitCode = 1 := by decide +kernel
  obtain ⟨options, query, failure, hrequest, hreason⟩ := hfails.mp hexit
  obtain ⟨events, herrors, _⟩ := hreport options query failure hrequest hreason
  refine ⟨hexit, ?_, options, query, failure, events, hrequest, hreason, herrors⟩
  by_contra houtput
  rw [hprinted.mpr houtput] at hexit
  cases hexit

end AboutPages
