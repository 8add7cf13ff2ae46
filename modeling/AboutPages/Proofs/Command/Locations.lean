import AboutPages.Proofs.Command.Footprint

/-!
# Where the log and the settings are kept

Each of the two files lies below a base directory, which the environment gives or which is found
below the home directory. The settings are in the program's own directory there. The log is one
directory further down, in a directory of the same name; a log in the program's own directory is
neither made nor added to by any run. Without a home directory there is neither file.
-/

namespace AboutPages

open Text FileTree Directories

/-! ## Base directories -/

namespace Environment

/-- The base directory for one kind of files: the given one if it is absolute; if none is given, or
a relative one, the fallback below the home directory. -/
inductive IsBase (home : String) (given : Option String) (fallback : String) : Path → Prop where
  | given {directory : String} (hgiven : given = some directory)
      (habsolute : Path.isAbsolute (utf8 directory) = true) :
      IsBase home given fallback (utf8 directory)
  | fallback
      (hgiven : ∀ directory, given = some directory → Path.isAbsolute (utf8 directory) = false) :
      IsBase home given fallback (Path.join (utf8 home) (utf8 fallback))

/-- There is one such directory, and it is the one that is used. -/
theorem isBase_iff (home : String) (given : Option String) (fallback : String) (path : Path) :
    IsBase home given fallback path ↔ path = base home given fallback := by
  constructor
  · intro hbase
    cases hbase with
    | given hgiven habsolute =>
        subst hgiven
        exact (if_pos habsolute).symm
    | fallback hgiven =>
        cases given with
        | none => rfl
        | some directory => exact (if_neg (by simp [hgiven directory rfl])).symm
  · rintro rfl
    cases given with
    | none => exact .fallback (by simp)
    | some directory =>
        cases habsolute : Path.isAbsolute (utf8 directory) with
        | true =>
            rw [base, if_pos habsolute]
            exact .given rfl habsolute
        | false =>
            rw [base, if_neg (by simp [habsolute])]
            exact .fallback (by simpa using habsolute)

theorem directories?_eq_some_iff {env : Environment} {directories : Directories} :
    env.directories? = some directories ↔
      ∃ home, env.home = some home ∧ IsBase home env.stateHome ".local/state" directories.state ∧
        IsBase home env.configHome ".config" directories.config := by
  obtain ⟨state, config⟩ := directories
  simp only [directories?, Option.map_eq_some_iff, isBase_iff, Directories.mk.injEq,
    eq_comm (a := state), eq_comm (a := config)]

end Environment

/-! ## Files below a base directory -/

namespace Directories

theorem utf8_inProgramDirectory (file : String) :
    utf8 ("aboutredir/" ++ file) = programDirectory ++ Path.slash :: utf8 file := by
  have hfront : "aboutredir/".toList = "aboutredir".toList ++ ['/'] := by decide
  simp only [programDirectory, utf8_eq_flatMap, String.toList_append, hfront, List.flatMap_append,
    List.append_assoc]
  rfl

theorem isAbsolute_inProgramDirectory (file : String) :
    Path.isAbsolute (utf8 ("aboutredir/" ++ file)) = false := by
  rw [utf8_inProgramDirectory]
  exact Path.isAbsolute_name_append isName_programDirectory _

/-- A file in the program's directory, as a path below the directory that this one is in. -/
theorem join_programDirectory (base : Path) {file : String}
    (hfile : Path.isAbsolute (utf8 file) = false) :
    Path.join (Path.join base programDirectory) (utf8 file) =
      Path.join base (utf8 ("aboutredir/" ++ file)) := by
  rw [Path.join_join isName_programDirectory base hfile, utf8_inProgramDirectory]

theorem configFile_eq (directories : Directories) :
    directories.configFile = Path.join directories.config (utf8 "aboutredir/config.toml") :=
  join_programDirectory directories.config (Path.isAbsolute_name isName_config)

theorem logFile_eq (directories : Directories) :
    directories.logFile =
      Path.join directories.state (utf8 "aboutredir/aboutredir/aboutredir.log") := by
  rw [logFile, logDirectory, join_programDirectory _ (Path.isAbsolute_name isName_log),
    join_programDirectory _ (isAbsolute_inProgramDirectory _)]
  rfl

theorem placeOf_logFile (directories : Directories) (tree : FileTree) :
    tree.placeOf directories.logFile = tree.placeOf directories.state ++
      [utf8 "aboutredir", utf8 "aboutredir", utf8 "aboutredir.log"] := by
  rw [logFile, logDirectory, placeOf_join isName_log, placeOf_join isName_programDirectory,
    placeOf_join isName_programDirectory]
  simp [programDirectory]

/-- The log that would be in the program's own directory. -/
def shallowLog (state : Path) : Path := Path.join state (utf8 "aboutredir/aboutredir.log")

theorem shallowLog_eq (state : Path) :
    shallowLog state = Path.join (Path.join state programDirectory) (utf8 "aboutredir.log") :=
  (join_programDirectory state (Path.isAbsolute_name isName_log)).symm

/-- The log is not there, because its place is one directory further down. -/
theorem placeOf_shallowLog_ne (directories : Directories) (tree : FileTree) :
    tree.placeOf (shallowLog directories.state) ≠ tree.placeOf directories.logFile := by
  rw [placeOf_logFile, shallowLog_eq, placeOf_join isName_log,
    placeOf_join isName_programDirectory, List.append_assoc]
  intro heq
  exact absurd (congrArg List.length (List.append_cancel_left heq)) (by simp)

end Directories

/-! ## What is opened, and what runs leave alone -/

namespace Session

variable {env : Environment} {tree after : FileTree} {directories : Directories}

theorem node?_openLog (henv : env.directories? = some directories) {log : OpenLog}
    (hopen : openLog env tree = (.ok log, after)) :
    log.path = directories.logFile ∧ log.place = tree.placeOf directories.logFile ∧
      ∃ content, after.node? log.place = some (.file content) := by
  obtain ⟨made, hmade, ⟨cause, hresult⟩ | ⟨place, last, _, hfile, hresult⟩⟩ :=
    openLog_cases henv tree
  · rw [hresult] at hopen
    cases hopen
  · rw [hresult] at hopen
    cases hopen
    obtain ⟨hplace, hnode⟩ := openAppend_eq_ok hfile
    refine ⟨rfl, by rw [hplace, hmade.placeOf_eq], ?_⟩
    rcases hnode with ⟨hthere, rfl⟩ | ⟨hnone, rfl⟩
    · exact hthere
    · have hfree : made.node? place ≠ some .directory := by simp [hnone]
      exact ⟨[], node?_put_self (ne_root_of_node? hfree) _⟩

/-- The log is opened unless its directory cannot be made or a directory has its name. -/
theorem exists_openLog_iff (henv : env.directories? = some directories) (tree : FileTree) :
    (∃ log after, openLog env tree = (.ok log, after)) ↔
      ∃ made, tree.makeDirectories directories.logDirectory = (.ok (), made) ∧
        made.node? (tree.placeOf directories.logFile) ≠ some .directory := by
  have hopens : ∀ made, tree.makeDirectories directories.logDirectory = (.ok (), made) →
      ((∃ place after, made.openAppend directories.logFile = .ok (place, after)) ↔
        made.node? (tree.placeOf directories.logFile) ≠ some .directory) := by
    intro made hmake
    have hplace :=
      (changed_makeDirectories tree directories.logDirectory).placeOf_eq directories.logFile
    rw [hmake] at hplace
    have hthere := isDirectory_of_makeDirectories
      (Path.join_ne_nil Directories.isName_programDirectory _) hmake
    obtain ⟨hopen, hdirectory⟩ := isDirectory_iff.mp hthere
    rw [← hplace]
    exact exists_openAppend_join_iff Directories.isName_log hopen hdirectory
  constructor
  · rintro ⟨log, after, hopen⟩
    obtain ⟨made, _, ⟨cause, hresult⟩ | ⟨place, last, hmake, hfile, _⟩⟩ := openLog_cases henv tree
    · rw [hresult] at hopen
      cases hopen
    · exact ⟨made, hmake, (hopens made hmake).mp ⟨place, last, hfile⟩⟩
  · rintro ⟨made, hmake, hfree⟩
    obtain ⟨place, after, hfile⟩ := (hopens made hmake).mpr hfree
    exact ⟨⟨directories.logFile, place⟩, after, by simp only [openLog, henv, hmake, hfile]⟩

end Session

theorem file_runAll_iff (env : Environment) (tree : FileTree) (runs : List (List Bytes))
    {place : Location} (hlog : ¬env.IsLog tree place) (hconfig : ¬env.IsConfig tree place)
    (content : Bytes) :
    (runAll env tree runs).node? place = some (.file content) ↔
      tree.node? place = some (.file content) := by
  have hfootprint := (changed_runAll env tree runs).nodes place
  generalize (runAll env tree runs).node? place = new at hfootprint
  generalize tree.node? place = old at hfootprint
  cases hfootprint with
  | same => rfl
  | directory => simp
  | opened hplace => exact absurd hplace hlog
  | extended hplace => exact absurd hplace hlog
  | settings hcreatable => exact absurd hcreatable.1 hconfig

namespace Environment

/-- In every environment with a home directory the settings are in the program's directory below
their base, and the log is one directory further down than that below its own. There it is opened,
exactly if its directory is there or can be made and no directory has its name; and what may be
found as a log in the program's directory itself is after any runs as it was before. Without a home
directory there is neither file, and no run makes or changes any. -/
theorem log_one_directory_deeper (env : Environment) (tree : FileTree) :
    (∀ home, env.home = some home →
      ∃ directories, env.directories? = some directories ∧
        IsBase home env.stateHome ".local/state" directories.state ∧
        IsBase home env.configHome ".config" directories.config ∧
        directories.configFile = Path.join directories.config (utf8 "aboutredir/config.toml") ∧
        directories.logFile =
          Path.join directories.state (utf8 "aboutredir/aboutredir/aboutredir.log") ∧
        ((∃ log after, Session.openLog env tree = (.ok log, after)) ↔
          ∃ made, tree.makeDirectories directories.logDirectory = (.ok (), made) ∧
            made.node? (tree.placeOf directories.logFile) ≠ some .directory) ∧
        (∀ log after, Session.openLog env tree = (.ok log, after) →
          log.path = directories.logFile ∧
          log.place = tree.placeOf directories.state ++
            [utf8 "aboutredir", utf8 "aboutredir", utf8 "aboutredir.log"] ∧
          ∃ content, after.node? log.place = some (.file content)) ∧
        ∀ runs content,
          (runAll env tree runs).node? (tree.placeOf (shallowLog directories.state)) =
              some (.file content) ↔
            tree.node? (tree.placeOf (shallowLog directories.state)) = some (.file content)) ∧
    (env.home = none →
      env.directories? = none ∧ Session.openLog env tree = (.error .homeless, tree) ∧
      ∀ runs place content, (runAll env tree runs).node? place = some (.file content) ↔
        tree.node? place = some (.file content)) := by
  constructor
  · intro home hhome
    obtain ⟨directories, henv⟩ : ∃ directories, env.directories? = some directories := by
      rw [directories?, hhome]
      exact ⟨_, rfl⟩
    obtain ⟨_, hsame, hstate, hconfig⟩ := directories?_eq_some_iff.mp henv
    rw [hhome] at hsame
    cases hsame
    refine ⟨directories, henv, hstate, hconfig, directories.configFile_eq, directories.logFile_eq,
      Session.exists_openLog_iff henv tree, ?_, ?_⟩
    · intro log after hopen
      rw [← directories.placeOf_logFile]
      exact Session.node?_openLog henv hopen
    · intro runs content
      refine file_runAll_iff env tree runs ?_ ?_ content
      · rw [IsLog, keepsAt_iff henv]
        exact directories.placeOf_shallowLog_ne tree
      · rw [IsConfig, keepsAt_iff henv, shallowLog_eq]
        exact directories.placeOf_log_ne tree _
  · intro hhome
    have henv : env.directories? = none := by rw [directories?, hhome, Option.map_none]
    refine ⟨henv, Session.openLog_of_homeless henv tree, ?_⟩
    intro runs place content
    exact file_runAll_iff env tree runs (by simp [KeepsAt, henv]) (by simp [KeepsAt, henv]) content

/-- Slashes at the ends of directories, a relative directory for the settings, and a log in the
program's directory, which a run leaves as it is. -/
theorem log_one_directory_deeper_slashes :
    let env : Environment := ⟨some "h/", some "/s/", some "rel/", none⟩
    let tree : FileTree :=
      ⟨[([utf8 "s"], .directory), ([utf8 "s", utf8 "aboutredir"], .directory),
        ([utf8 "s", utf8 "aboutredir", utf8 "aboutredir.log"], .file [0x21])], [utf8 "w"]⟩
    (∃ directories, env.directories? = some directories ∧
      directories.configFile = utf8 "h/.config/aboutredir/config.toml" ∧
      directories.logFile = utf8 "/s/aboutredir/aboutredir/aboutredir.log") ∧
    (Session.openLog env tree).1 = .ok ⟨utf8 "/s/aboutredir/aboutredir/aboutredir.log",
      [utf8 "s", utf8 "aboutredir", utf8 "aboutredir", utf8 "aboutredir.log"]⟩ ∧
    (runAll env tree [[utf8 "list"]]).node? [utf8 "s", utf8 "aboutredir", utf8 "aboutredir.log"] =
      some (.file [0x21]) := by
  intro env tree
  obtain ⟨directories, henv, hstate, hconfig, hconfigFile, hlogFile, _, hopened, hkept⟩ :=
    (log_one_directory_deeper env tree).1 "h/" rfl
  have hstateBase : directories.state = utf8 "/s/" := by
    rw [(isBase_iff _ _ _ _).mp hstate]
    exact if_pos (by rw [utf8_eq_flatMap]; decide)
  have hconfigBase : directories.config = Path.join (utf8 "h/") (utf8 ".config") := by
    rw [(isBase_iff _ _ _ _).mp hconfig]
    exact if_neg (by rw [utf8_eq_flatMap]; decide)
  rw [hstateBase] at hlogFile hopened hkept
  rw [hconfigBase] at hconfigFile
  have hpath : directories.logFile = utf8 "/s/aboutredir/aboutredir/aboutredir.log" := by
    rw [hlogFile]
    simp only [utf8_eq_flatMap]
    decide
  have hshallow : tree.placeOf (shallowLog (utf8 "/s/")) =
      [utf8 "s", utf8 "aboutredir", utf8 "aboutredir.log"] := by
    simp only [shallowLog, utf8_eq_flatMap]
    decide
  refine ⟨⟨directories, henv, hconfigFile.trans ?_, hpath⟩, ?_, ?_⟩
  · simp only [utf8_eq_flatMap]
    decide
  · have hok : (Session.openLog env tree).1.isOk = true := by decide +kernel
    cases hopen : Session.openLog env tree with
    | mk result after =>
        rw [hopen] at hok
        cases result with
        | error cause => cases hok
        | ok log =>
            have hbase : tree.placeOf (utf8 "/s/") = [utf8 "s"] := by
              simp only [utf8_eq_flatMap]
              decide
            obtain ⟨path, place⟩ := log
            obtain ⟨rfl, rfl, _⟩ := hopened _ after hopen
            simp [hpath, hbase]
  · rw [← hshallow, hkept, hshallow]
    simp only [tree, utf8_eq_flatMap]
    decide

/-- The log of a first run is opened elsewhere than in the program's directory, and nothing is made
there in its place. -/
theorem log_not_in_programDirectory :
    let env : Environment := ⟨some "/h", some "/st", some "/cfg", none⟩
    let tree : FileTree := ⟨[], []⟩
    IsBase "/h" env.stateHome ".local/state" (utf8 "/st") ∧
    (Session.openLog env tree).1.toOption.map Session.OpenLog.place =
      some [utf8 "st", utf8 "aboutredir", utf8 "aboutredir", utf8 "aboutredir.log"] ∧
    (Session.openLog env tree).1.toOption.map Session.OpenLog.place ≠
      some (tree.placeOf (shallowLog (utf8 "/st"))) ∧
    (Session.openLog env tree).2.node? (tree.placeOf (shallowLog (utf8 "/st"))) = none := by
  intro env tree
  have hopened : (Session.openLog env tree).1.toOption.map Session.OpenLog.place =
      some [utf8 "st", utf8 "aboutredir", utf8 "aboutredir", utf8 "aboutredir.log"] := by
    decide +kernel
  have hshallow : tree.placeOf (shallowLog (utf8 "/st")) =
      [utf8 "st", utf8 "aboutredir", utf8 "aboutredir.log"] := by
    simp only [shallowLog, utf8_eq_flatMap]
    decide
  refine ⟨.given rfl (by rw [utf8_eq_flatMap]; decide), hopened, ?_, by decide +kernel⟩
  rw [hopened, hshallow]
  simp

end Environment

end AboutPages
