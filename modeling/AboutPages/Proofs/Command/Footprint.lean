import AboutPages.Command.Session
import AboutPages.Proofs.FileTree.Path
import AboutPages.Proofs.Settings.File
import AboutPages.Proofs.Text.ByteOrder
import Mathlib.Data.List.Induction

/-!
# What runs leave in the file tree

A run adds to its log, and it may create the default settings file. Both files lie where the
environment says, under different names, so neither can be taken for the other. Nothing else is
written: every other file that was there before a run is there after it as it was, and so it is
after any number of runs.
-/

namespace AboutPages

open Text FileTree

/-! ## The two files -/

namespace Directories

theorem isName_log : Path.IsName (utf8 "aboutredir.log") := by
  rw [utf8_eq_flatMap]
  constructor <;> decide

theorem isName_config : Path.IsName (utf8 "config.toml") := by
  rw [utf8_eq_flatMap]
  constructor <;> decide

theorem isName_programDirectory : Path.IsName programDirectory := by
  rw [programDirectory, utf8_eq_flatMap]
  constructor <;> decide

/-- A log is kept at another place than the settings, whatever directory it is in. -/
theorem placeOf_log_ne (directories : Directories) (tree : FileTree) (directory : Path) :
    tree.placeOf (Path.join directory (utf8 "aboutredir.log")) ≠
      tree.placeOf directories.configFile := by
  rw [configFile, placeOf_join isName_log, placeOf_join isName_config]
  intro heq
  have hnames : [utf8 "aboutredir.log"] = [utf8 "config.toml"] :=
    (List.append_inj' heq rfl).2
  simp only [utf8_eq_flatMap] at hnames
  exact absurd hnames (by decide)

end Directories

namespace Environment

/-- One of the program's files is kept at this place. Nothing is kept anywhere if no home directory
is known. -/
def KeepsAt (env : Environment) (file : Directories → Path) (tree : FileTree) (place : Location) :
    Prop :=
  ∃ directories, env.directories? = some directories ∧ place = tree.placeOf (file directories)

abbrev IsLog (env : Environment) : FileTree → Location → Prop := env.KeepsAt Directories.logFile

abbrev IsConfig (env : Environment) : FileTree → Location → Prop :=
  env.KeepsAt Directories.configFile

variable {env : Environment} {tree after : FileTree} {place : Location}

theorem keepsAt_iff {directories : Directories} (henv : env.directories? = some directories)
    (file : Directories → Path) :
    env.KeepsAt file tree place ↔ place = tree.placeOf (file directories) := by
  simp [KeepsAt, henv]

theorem keepsAt_congr (hworking : after.working = tree.working) (file : Directories → Path) :
    env.KeepsAt file after = env.KeepsAt file tree := by
  funext place
  simp only [KeepsAt, placeOf_congr hworking]

theorem IsLog.not_isConfig (hlog : env.IsLog tree place) : ¬env.IsConfig tree place := by
  rintro ⟨directories, _, hconfig⟩
  obtain ⟨others, _, rfl⟩ := hlog
  exact directories.placeOf_log_ne tree others.logDirectory hconfig

end Environment

/-! ## The footprint at a place -/

/-- How a run may change what stands at a place: a directory may be new, the log may be new or grow
at its end, and standard settings may be new where they may be created. -/
inductive Footprint (log creatable : Location → Prop) (place : Location) :
    Option Node → Option Node → Prop where
  | same (node : Option Node) : Footprint log creatable place node node
  | directory : Footprint log creatable place none (some .directory)
  | opened (hlog : log place) (content : Bytes) :
      Footprint log creatable place none (some (.file content))
  | extended (hlog : log place) (content more : Bytes) :
      Footprint log creatable place (some (.file content)) (some (.file (content ++ more)))
  | settings (hcreatable : creatable place) :
      Footprint log creatable place none (some (.file (utf8 Settings.standardText)))

/-- No settings are created in the place of the log. -/
def Apart (log creatable : Location → Prop) : Prop := ∀ place, log place → ¬creatable place

namespace Footprint

variable {log creatable : Location → Prop} {place : Location} {old mid new : Option Node}

theorem trans (hlog : Apart log creatable) (hfirst : Footprint log creatable place old mid)
    (hsecond : Footprint log creatable place mid new) : Footprint log creatable place old new := by
  cases hfirst with
  | same => exact hsecond
  | directory =>
      cases hsecond with
      | same => exact .directory
  | opened hplace content =>
      cases hsecond with
      | same => exact .opened hplace content
      | extended _ _ more => exact .opened hplace (content ++ more)
  | extended hplace content more =>
      cases hsecond with
      | same => exact .extended hplace content more
      | extended _ _ further =>
          rw [List.append_assoc]
          exact .extended hplace content (more ++ further)
  | settings hcreatable =>
      cases hsecond with
      | same => exact .settings hcreatable
      | extended hplace => exact absurd hcreatable (hlog place hplace)

theorem imp {other : Location → Prop} (hother : old = none → creatable place → other place)
    (hfootprint : Footprint log creatable place old new) : Footprint log other place old new := by
  cases hfootprint with
  | same => exact .same old
  | directory => exact .directory
  | opened hplace content => exact .opened hplace content
  | extended hplace content more => exact .extended hplace content more
  | settings hcreatable => exact .settings (hother rfl hcreatable)

theorem of_newDirectory (hnew : NewDirectory place old new) :
    Footprint log creatable place old new := by
  rcases hnew with rfl | ⟨rfl, rfl⟩
  · exact .same new
  · exact .directory

end Footprint

section Changed

variable {log creatable : Location → Prop} {tree after : FileTree} {path : Path}

theorem FileTree.Changed.footprint (hchanged : Changed NewDirectory tree after) :
    Changed (Footprint log creatable) tree after :=
  ⟨hchanged.working, fun place => .of_newDirectory (hchanged.nodes place)⟩

theorem changed_append (tree : FileTree) {place : Location} (hlog : log place) (more : Bytes) :
    Changed (Footprint log creatable) tree (tree.append place more) := by
  have hrefl : ∀ place node, Footprint log creatable place node node := fun _ => .same
  unfold append
  split
  · rename_i content hnode
    have hplace : tree.node? place ≠ some .directory := by simp [hnode]
    refine changed_put hrefl (ne_root_of_node? hplace) ?_
    rw [hnode]
    exact .extended hlog content more
  · exact Changed.refl hrefl tree

theorem changed_openAppend (hlog : log (tree.placeOf path)) {place : Location}
    (hopen : tree.openAppend path = .ok (place, after)) :
    log place ∧ Changed (Footprint log creatable) tree after := by
  have hrefl : ∀ other node, Footprint log creatable other node node := fun _ => .same
  obtain ⟨hplace, ⟨_, rfl⟩ | ⟨hnone, rfl⟩⟩ := openAppend_eq_ok hopen
  · exact ⟨hplace ▸ hlog, Changed.refl hrefl after⟩
  · have hfree : tree.node? place ≠ some .directory := by simp [hnone]
    refine ⟨hplace ▸ hlog, changed_put hrefl (ne_root_of_node? hfree) ?_⟩
    rw [hnone]
    exact .opened (hplace ▸ hlog) []

/-- Asking for a settings file with an open way creates it only where there is nothing. -/
theorem changed_loadOrCreate (hopen : tree.Open path) (hslash : Path.endsInSlash path = false)
    (hcreatable : creatable (tree.placeOf path)) :
    Changed (Footprint log creatable) tree (Settings.loadOrCreate tree path).2 := by
  rcases Settings.loadOrCreate_cases tree path with
    ⟨_, hresult⟩ | ⟨hmissing, made, hmade, ⟨written, hwrite, hresult⟩ | ⟨cause, hresult⟩⟩
  · rw [hresult]
    exact Changed.refl (fun _ => .same) tree
  · rw [hresult]
    have hchanged := hmade.changed
    obtain ⟨hfile, hkept⟩ := node?_of_write hwrite
    obtain ⟨_, _, _, rfl⟩ := write_eq_ok hwrite
    refine ⟨hchanged.working, ?_⟩
    intro place
    by_cases hplace : place = made.placeOf path
    · have hnone := node?_eq_none_of_not_exists hopen hslash hmissing
      rw [hplace, hfile, hchanged.placeOf_eq, hnone]
      exact .settings hcreatable
    · rw [hkept place hplace]
      exact .of_newDirectory (hchanged.nodes place)
  · rw [hresult]
    exact hmade.changed.footprint

end Changed

/-! ## The footprint of a session -/

/-- So far the session has changed the tree only by its footprint, and it logs to no other file than
the log. -/
structure Session.Within (log creatable : Location → Prop) (before : FileTree)
    (session : Session) : Prop where
  changed : Changed (Footprint log creatable) before session.tree
  sink : ∀ place, session.sink = .file place → log place

namespace Session

variable {log creatable : Location → Prop} {before : FileTree} {session : Session}

theorem Within.next (hlog : Apart log creatable) (hwithin : session.Within log creatable before)
    {after : FileTree} (hchanged : Changed (Footprint log creatable) session.tree after) :
    Within log creatable before { session with tree := after } :=
  ⟨hwithin.changed.trans (Footprint.trans hlog) hchanged, hwithin.sink⟩

theorem Within.record (hlog : Apart log creatable) (hwithin : session.Within log creatable before)
    (event : Event) : (session.record event).Within log creatable before := by
  unfold Session.record
  split
  · split
    · rename_i place hsink
      have hplace := hwithin.sink place hsink
      exact hwithin.next hlog (changed_append session.tree hplace (utf8 event.line))
    · exact ⟨hwithin.changed, hwithin.sink⟩
  · exact hwithin

theorem Within.print (hwithin : session.Within log creatable before) (text : String) :
    (session.print text).Within log creatable before :=
  ⟨hwithin.changed, hwithin.sink⟩

theorem openLog_of_homeless {env : Environment} (henv : env.directories? = none)
    (tree : FileTree) : openLog env tree = (.error .homeless, tree) := by
  unfold openLog
  rw [henv]

/-- Opening the log makes directories, and then it opens the file or fails. -/
theorem openLog_cases {env : Environment} {directories : Directories}
    (henv : env.directories? = some directories) (tree : FileTree) :
    ∃ made, Changed NewDirectory tree made ∧
      ((∃ cause, openLog env tree = (.error (.file cause), made)) ∨
        ∃ place after, tree.makeDirectories directories.logDirectory = (.ok (), made) ∧
          made.openAppend directories.logFile = .ok (place, after) ∧
          openLog env tree = (.ok ⟨directories.logFile, place⟩, after)) := by
  have hmade := changed_makeDirectories tree directories.logDirectory
  simp only [openLog, henv]
  cases hmake : tree.makeDirectories directories.logDirectory with
  | mk result made =>
      rw [hmake] at hmade
      refine ⟨made, hmade, ?_⟩
      cases result with
      | error cause => exact Or.inl ⟨cause, rfl⟩
      | ok _ =>
          cases hopen : made.openAppend directories.logFile with
          | error cause => exact Or.inl ⟨cause, by simp only [hopen]⟩
          | ok opened => exact Or.inr ⟨opened.1, opened.2, rfl, rfl, by simp only [hopen]⟩

theorem changed_openLog (env : Environment) (tree : FileTree)
    (hlog : Apart (env.IsLog tree) creatable) :
    Changed (Footprint (env.IsLog tree) creatable) tree (openLog env tree).2 ∧
      ∀ log, (openLog env tree).1 = .ok log → env.IsLog tree log.place := by
  cases henv : env.directories? with
  | none =>
      rw [openLog_of_homeless henv]
      exact ⟨Changed.refl (fun _ => .same) tree, fun log heq => by cases heq⟩
  | some directories =>
      obtain ⟨made, hmade, ⟨cause, hresult⟩ | ⟨place, after, _, hopen, hresult⟩⟩ :=
        openLog_cases henv tree
      · rw [hresult]
        exact ⟨hmade.footprint, fun log heq => by cases heq⟩
      · have hthere : env.IsLog tree (made.placeOf directories.logFile) :=
          ⟨directories, henv, hmade.placeOf_eq _⟩
        obtain ⟨hplace, hchanged⟩ := changed_openAppend hthere hopen
        rw [hresult]
        refine ⟨hmade.footprint.trans (Footprint.trans hlog) hchanged, ?_⟩
        intro log heq
        cases heq
        exact hplace

theorem within_start (env : Environment) (tree : FileTree)
    (hlog : Apart (env.IsLog tree) creatable) :
    (start env tree).Within (env.IsLog tree) creatable tree := by
  obtain ⟨hchanged, hplace⟩ := changed_openLog env tree hlog
  unfold start
  cases hopen : openLog env tree with
  | mk result after =>
      rw [hopen] at hchanged hplace
      cases result with
      | ok log =>
          refine Within.record hlog ⟨hchanged, ?_⟩ _
          intro other hother
          cases hother
          exact hplace log rfl
      | error cause =>
          refine Within.record hlog ⟨hchanged, ?_⟩ _
          intro other hother
          cases hother

/-- The default settings file is asked for in a directory that has just been made or was there, so
that it is created only if it is missing. -/
theorem Within.defaultSettings (hlog : Apart log creatable) (env : Environment)
    (hcreatable : ∀ place, env.IsConfig before place → creatable place)
    (hwithin : session.Within log creatable before) :
    (session.defaultSettings env).2.Within log creatable before := by
  unfold Session.defaultSettings
  cases henv : env.directories? with
  | none => exact hwithin
  | some directories =>
      have hmade := changed_makeDirectories session.tree directories.configDirectory
      cases hmake : session.tree.makeDirectories directories.configDirectory with
      | mk result made =>
          rw [hmake] at hmade
          simp only [hmake]
          have hsecond := hwithin.next hlog hmade.footprint
          cases result with
          | error cause => exact hsecond
          | ok _ =>
              have hthere := isDirectory_of_makeDirectories
                (Path.join_ne_nil Directories.isName_programDirectory directories.config) hmake
              obtain ⟨hopen, hdirectory⟩ := isDirectory_iff.mp hthere
              have hplace : creatable (made.placeOf directories.configFile) :=
                hcreatable _ ⟨directories, henv, placeOf_congr hsecond.changed.working _⟩
              have hloaded : Changed (Footprint log creatable) made
                  (Settings.loadOrCreate made directories.configFile).2 :=
                changed_loadOrCreate (open_join Directories.isName_config hopen hdirectory)
                  (Path.endsInSlash_join Directories.isName_config _) hplace
              have hthird := hsecond.next hlog hloaded
              cases hload : Settings.loadOrCreate made directories.configFile with
              | mk loaded after =>
                  rw [hload] at hthird
                  simp only [hload]
                  cases loaded with
                  | error cause => exact hthird
                  | ok loaded =>
                      cases hcreated : loaded.created with
                      | false =>
                          simp only [hcreated]
                          exact hthird
                      | true =>
                          simp only [hcreated]
                          exact hthird.record hlog _

theorem Within.settings (hlog : Apart log creatable) (env : Environment) (options : Options)
    (hcreatable : options.config = none → ∀ place, env.IsConfig before place → creatable place)
    (hwithin : session.Within log creatable before) :
    (session.settings env options).2.Within log creatable before := by
  unfold Session.settings
  cases hconfig : options.config with
  | some path => exact hwithin
  | none => exact hwithin.defaultSettings hlog env (hcreatable hconfig)

theorem Within.lookup {α : Type} (hlog : Apart log creatable)
    (hwithin : session.Within log creatable before) (address : String)
    (found : Except UnknownPage α) :
    (session.lookup address found).2.Within log creatable before := by
  unfold Session.lookup
  cases found with
  | ok a => exact hwithin
  | error unknown => exact hwithin.record hlog _

theorem Within.resolve (hlog : Apart log creatable) (hwithin : session.Within log creatable before)
    (table : PageTable) (address : String) (json : Bool) :
    (session.resolve table address json).2.Within log creatable before := by
  have hfound := hwithin.lookup hlog address (table.plan address)
  unfold Session.resolve
  cases hlookup : session.lookup address (table.plan address) with
  | mk result next =>
      rw [hlookup] at hfound
      cases result with
      | error failure => exact hfound
      | ok plan => exact (hfound.record hlog _).print _

theorem Within.flags (hlog : Apart log creatable) (hwithin : session.Within log creatable before)
    (table : PageTable) (address : String) (legacy : Bool) :
    (session.flags table address legacy).2.Within log creatable before := by
  have hfound := hwithin.lookup hlog address (table.resolveCapabilities address)
  unfold Session.flags
  cases hlookup : session.lookup address (table.resolveCapabilities address) with
  | mk result next =>
      rw [hlookup] at hfound
      cases result with
      | error failure => exact hfound
      | ok set => exact hfound.print _

theorem Within.answer (hlog : Apart log creatable) (hwithin : session.Within log creatable before)
    (settings : Settings) (table : PageTable) (query : Query) :
    (session.answer settings table query).2.Within log creatable before := by
  cases query with
  | resolve address json => exact hwithin.resolve hlog table address json
  | flags address legacy => exact hwithin.flags hlog table address legacy
  | list all => exact hwithin.print _
  | manifest => exact hwithin.print _

theorem Within.query (hlog : Apart log creatable) (env : Environment) (options : Options)
    (hcreatable : options.config = none → ∀ place, env.IsConfig before place → creatable place)
    (hwithin : session.Within log creatable before) (query : Query) :
    (session.query env options query).2.Within log creatable before := by
  have hloaded := hwithin.settings hlog env options hcreatable
  unfold Session.query
  cases hsettings : session.settings env options with
  | mk result next =>
      rw [hsettings] at hloaded
      cases result with
      | error failure => exact hloaded
      | ok settings =>
          have hnoted := hloaded.record hlog (.settingsLoaded settings)
          cases hbuild : settings.buildTable with
          | error cause =>
              simp only [hbuild]
              exact hnoted
          | ok table =>
              simp only [hbuild]
              exact hnoted.answer hlog settings table query

theorem Within.invoke (hlog : Apart log creatable) (env : Environment) (invocation : Invocation)
    (hcreatable : ∀ query, invocation.task = .query query → invocation.options.config = none →
      ∀ place, env.IsConfig before place → creatable place)
    (hwithin : session.Within log creatable before) :
    (session.invoke env invocation).2.Within log creatable before := by
  unfold Session.invoke
  cases htask : invocation.task with
  | completions shell => exact hwithin.print _
  | query query =>
      exact hwithin.query hlog env invocation.options (hcreatable query htask) query

end Session

/-! ## The footprint of runs -/

def UsesDefaultSettings (arguments : List Bytes) : Prop :=
  ∃ options query, Request.ofArguments arguments = .run ⟨options, .query query⟩ ∧
    options.config = none

def Creatable (env : Environment) (tree : FileTree) (arguments : List Bytes) (place : Location) :
    Prop :=
  env.IsConfig tree place ∧ UsesDefaultSettings arguments

theorem changed_run (env : Environment) (arguments : List Bytes) (tree : FileTree) :
    Changed (Footprint (env.IsLog tree) (Creatable env tree arguments)) tree
      (run env arguments tree).tree := by
  have hlog : Apart (env.IsLog tree) (Creatable env tree arguments) :=
    fun _ hlog hcreatable => hlog.not_isConfig hcreatable.1
  have hstart := Session.within_start env tree hlog
  unfold run
  cases hrequest : Request.ofArguments arguments with
  | misuse => exact hstart.changed
  | help => exact hstart.changed
  | run invocation =>
      have hcreatable : ∀ query, invocation.task = .query query →
          invocation.options.config = none →
          ∀ place, env.IsConfig tree place → Creatable env tree arguments place := by
        intro query htask hconfig place hplace
        refine ⟨hplace, invocation.options, query, ?_, hconfig⟩
        rw [hrequest, ← htask]
      have hend := hstart.invoke hlog env invocation hcreatable
      cases hinvoke : (Session.start env tree).invoke env invocation with
      | mk result session =>
          rw [hinvoke] at hend
          simp only [hinvoke]
          cases result with
          | ok _ => exact hend.changed
          | error failure => exact hend.changed

def runAll (env : Environment) (tree : FileTree) (runs : List (List Bytes)) : FileTree :=
  runs.foldl (fun tree arguments => (run env arguments tree).tree) tree

theorem runAll_concat (env : Environment) (tree : FileTree) (earlier : List (List Bytes))
    (arguments : List Bytes) :
    runAll env tree (earlier ++ [arguments]) =
      (run env arguments (runAll env tree earlier)).tree := by
  rw [runAll, List.foldl_concat]
  rfl

/-- Where a sequence of runs may create standard settings: one of them goes by the default settings
file, and there is none when it starts. -/
def CreatableDuring (env : Environment) (tree : FileTree) (runs : List (List Bytes))
    (place : Location) : Prop :=
  env.IsConfig tree place ∧
    ∃ earlier arguments later, runs = earlier ++ arguments :: later ∧
      UsesDefaultSettings arguments ∧ (runAll env tree earlier).node? place = none

/-- The footprint of a sequence of runs, by induction on its last run. -/
theorem changed_runAll (env : Environment) (tree : FileTree) (runs : List (List Bytes)) :
    Changed (Footprint (env.IsLog tree) (CreatableDuring env tree runs)) tree
      (runAll env tree runs) := by
  induction runs using List.reverseRecOn with
  | nil => exact Changed.refl (fun _ => .same) tree
  | append_singleton earlier arguments ih =>
      have hlog : Apart (env.IsLog tree) (CreatableDuring env tree (earlier ++ [arguments])) :=
        fun _ hlog hcreatable => hlog.not_isConfig hcreatable.1
      have hlast := changed_run env arguments (runAll env tree earlier)
      rw [Environment.IsLog, Environment.keepsAt_congr ih.working] at hlast
      rw [runAll_concat]
      refine ⟨hlast.working.trans ih.working, ?_⟩
      intro place
      refine Footprint.trans hlog ((ih.nodes place).imp ?_) ((hlast.nodes place).imp ?_)
      · rintro _ ⟨hplace, before, first, later, rfl, huses, hnone⟩
        refine ⟨hplace, before, first, later ++ [arguments], ?_, huses, hnone⟩
        rw [List.append_assoc, List.cons_append]
      · rintro hnone ⟨hplace, huses⟩
        rw [Environment.IsConfig, Environment.keepsAt_congr ih.working] at hplace
        exact ⟨hplace, earlier, arguments, [], rfl, huses, hnone⟩

/-- No sequence of runs damages a file. A file that was there keeps its content, and the log, if it
was there, begins with what it was. A file that is new is the log, or it is the default settings
file with the standard text, which came with a query that was to go by that file and found none. -/
theorem runs_spare_files (env : Environment) (tree : FileTree) (runs : List (List Bytes)) :
    (∀ place content, tree.node? place = some (.file content) → ¬env.IsLog tree place →
      (runAll env tree runs).node? place = some (.file content)) ∧
    (∀ place content, tree.node? place = some (.file content) → env.IsLog tree place →
      ∃ more, (runAll env tree runs).node? place = some (.file (content ++ more))) ∧
    ∀ place content, (runAll env tree runs).node? place = some (.file content) →
      (∀ old, tree.node? place ≠ some (.file old)) →
      env.IsLog tree place ∨
      (env.IsConfig tree place ∧ content = utf8 Settings.standardText ∧
        ∃ earlier arguments later options query, runs = earlier ++ arguments :: later ∧
          Request.ofArguments arguments = .run ⟨options, .query query⟩ ∧ options.config = none ∧
          (runAll env tree earlier).node? place = none) := by
  have hchanged := changed_runAll env tree runs
  refine ⟨?_, ?_, ?_⟩
  · intro place content hfile hplace
    have hfootprint := hchanged.nodes place
    rw [hfile] at hfootprint
    generalize (runAll env tree runs).node? place = new at hfootprint
    cases hfootprint with
    | same => rfl
    | extended hlog => exact absurd hlog hplace
  · intro place content hfile _
    have hfootprint := hchanged.nodes place
    rw [hfile] at hfootprint
    generalize (runAll env tree runs).node? place = new at hfootprint
    cases hfootprint with
    | same => exact ⟨[], by rw [List.append_nil]⟩
    | extended _ _ more => exact ⟨more, rfl⟩
  · intro place content hfile hnew
    have hfootprint := hchanged.nodes place
    rw [hfile] at hfootprint
    generalize tree.node? place = old at hfootprint hnew
    cases hfootprint with
    | same => exact absurd rfl (hnew content)
    | opened hlog => exact Or.inl hlog
    | extended hlog => exact Or.inl hlog
    | settings hcreatable =>
        obtain ⟨hplace, earlier, arguments, later, hruns, ⟨options, query, hrequest, hconfig⟩,
          hnone⟩ := hcreatable
        exact Or.inr ⟨hplace, rfl, earlier, arguments, later, options, query, hruns, hrequest,
          hconfig, hnone⟩

/-- A misuse, a query with a settings file that is missing, and then a query that switches
synchronisation on: the settings that it creates have it off, and a note next to them is kept. -/
theorem runs_spare_files_switch :
    let env : Environment := ⟨some "/h", none, some "/c", none⟩
    let tree : FileTree :=
      ⟨[([utf8 "c"], .directory), ([utf8 "c", utf8 "note"], .file [0, 255])], []⟩
    let runs : List (List Bytes) := [[utf8 "--no"], [utf8 "--config", utf8 "/c/no", utf8 "list"],
      [utf8 "--services-sync", utf8 "true", utf8 "list"]]
    (runAll env tree runs).node? [utf8 "c", utf8 "note"] = some (.file [0, 255]) ∧
    (runAll env tree runs).node? [utf8 "c", utf8 "aboutredir", utf8 "config.toml"] =
      some (.file (utf8 "services_sync = false\nscheme = \"about\"\nextra_entries = []\n")) ∧
    ∃ earlier arguments later options query, runs = earlier ++ arguments :: later ∧
      Request.ofArguments arguments = .run ⟨options, .query query⟩ ∧ options.config = none ∧
      (runAll env tree earlier).node? [utf8 "c", utf8 "aboutredir", utf8 "config.toml"] = none := by
  intro env tree runs
  obtain ⟨hkept, _, hnew⟩ := runs_spare_files env tree runs
  have hconfig : (runAll env tree runs).node? [utf8 "c", utf8 "aboutredir", utf8 "config.toml"] =
      some (.file (utf8 Settings.standardText)) := by decide +kernel
  have hfree : tree.node? [utf8 "c", utf8 "aboutredir", utf8 "config.toml"] = none := by
    decide +kernel
  have hplace : ¬env.IsLog tree [utf8 "c", utf8 "aboutredir", utf8 "config.toml"] := by
    rw [Environment.IsLog, Environment.keepsAt_iff rfl]
    decide +kernel
  have hother : ¬env.IsLog tree [utf8 "c", utf8 "note"] := by
    rw [Environment.IsLog, Environment.keepsAt_iff rfl]
    decide +kernel
  refine ⟨hkept _ _ (by decide +kernel) hother, hconfig, ?_⟩
  rcases hnew _ _ hconfig (by simp [hfree]) with hlog | ⟨_, _, hcreated⟩
  · exact absurd hlog hplace
  · exact hcreated

end AboutPages
