import AboutPages.Command.Environment
import AboutPages.Command.Event
import AboutPages.Command.Report

/-!
# A run of the program

A run first opens its log, then reads its arguments, its settings and the table they describe, and
then does what it was asked. It changes the file tree, writes to two streams, and ends with an exit
code: 0 for success, 1 for a failure, 2 for a misuse of the command line.
-/

namespace AboutPages

open Text

inductive LogSink where
  | file (place : Location)
  | errorStream
  deriving DecidableEq, Repr

structure Session where
  tree : FileTree
  sink : LogSink
  filter : LogFilter
  output : String
  errors : String

namespace Session

def record (session : Session) (event : Event) : Session :=
  if session.filter.keeps event then
    match session.sink with
    | .file place => { session with tree := session.tree.append place (utf8 event.line) }
    | .errorStream => { session with errors := session.errors ++ event.line }
  else session

def print (session : Session) (text : String) : Session :=
  { session with output := session.output ++ text }

/-- An open log file: the path that it was opened by, and its place. -/
structure OpenLog where
  path : Path
  place : Location
  deriving DecidableEq, Repr

def openLog (env : Environment) (tree : FileTree) : Except LogError OpenLog × FileTree :=
  match env.directories? with
  | none => (.error .homeless, tree)
  | some directories =>
      match tree.makeDirectories directories.logDirectory with
      | (.error cause, tree) => (.error (.file cause), tree)
      | (.ok (), tree) =>
          match tree.openAppend directories.logFile with
          | .ok (place, tree) => (.ok ⟨directories.logFile, place⟩, tree)
          | .error cause => (.error (.file cause), tree)

/-- A new session. Without a log file the log goes to the error stream. -/
def start (env : Environment) (tree : FileTree) : Session :=
  let filter := LogFilter.ofEnvironment env.logFilter
  match openLog env tree with
  | (.ok log, tree) =>
      (Session.mk tree (.file log.place) filter "" "").record (.logOpened log.path)
  | (.error cause, tree) =>
      (Session.mk tree .errorStream filter "" "").record (.logUnavailable cause)

end Session

inductive Failure where
  | settings (cause : SettingsError)
  | extraPage (cause : ExtraPageError)
  | unknownPage (cause : UnknownPage)
  deriving DecidableEq, Repr

def statusText (status : UInt32) : String :=
  let digits := (Nat.toDigits 16 status.toNat).map Char.toUpper
  "0x" ++ String.ofList (List.replicate (8 - digits.length) '0' ++ digits)

def Failure.message : Failure → String
  | settings cause => cause.message
  | extraPage cause => cause.message
  | unknownPage cause =>
      cause.message ++ " (status " ++ statusText UnknownPage.status ++ ")"

namespace Session

/-- The settings of the default file, which is created if it is missing. -/
def defaultSettings (session : Session) (env : Environment) :
    Except Failure Settings × Session :=
  match env.directories? with
  | none => (.error (.settings .homeless), session)
  | some directories =>
      match session.tree.makeDirectories directories.configDirectory with
      | (.error cause, tree) =>
          (.error (.settings (.uncreatable cause)), { session with tree := tree })
      | (.ok (), tree) =>
          match Settings.loadOrCreate tree directories.configFile with
          | (.error cause, tree) => (.error (.settings cause), { session with tree := tree })
          | (.ok loaded, tree) =>
              let session := { session with tree := tree }
              (.ok loaded.settings,
                if loaded.created then session.record (.settingsCreated directories.configFile)
                else session)

/-- The settings that a run goes by: from the file it was given or the default one, with the switch
it was given. -/
def settings (session : Session) (env : Environment) (options : Options) :
    Except Failure Settings × Session :=
  let (loaded, session) :=
    match options.config with
    | some path => ((Settings.load session.tree path).mapError Failure.settings, session)
    | none => session.defaultSettings env
  (loaded.map fun settings =>
    { settings with servicesSync := options.servicesSync.getD settings.servicesSync }, session)

/-- Look an address up; that there is no such page is logged. -/
def lookup {α : Type} (session : Session) (address : String) (found : Except UnknownPage α) :
    Except Failure α × Session :=
  match found with
  | .ok a => (.ok a, session)
  | .error unknown =>
      (.error (.unknownPage unknown), session.record (.unknownPage address unknown))

def resolve (session : Session) (table : PageTable) (address : String) (json : Bool) :
    Except Failure Unit × Session :=
  match session.lookup address (table.plan address) with
  | (.error failure, session) => (.error failure, session)
  | (.ok plan, session) =>
      let session := session.record (.resolved address plan.target)
      (.ok (), session.print (if json then plan.json else plan.text))

def flags (session : Session) (table : PageTable) (address : String) (legacy : Bool) :
    Except Failure Unit × Session :=
  match session.lookup address (table.resolveCapabilities address) with
  | (.error failure, session) => (.error failure, session)
  | (.ok set, session) => (.ok (), session.print (Report.capabilities legacy set))

def answer (session : Session) (settings : Settings) (table : PageTable) :
    Query → Except Failure Unit × Session
  | .resolve address json => session.resolve table address json
  | .flags address legacy => session.flags table address legacy
  | .list all =>
      (.ok (), session.print
        (Report.list settings.scheme (if all then table.pages else table.listing)))
  | .manifest => (.ok (), session.print (Report.manifest table))

def query (session : Session) (env : Environment) (options : Options) (query : Query) :
    Except Failure Unit × Session :=
  match session.settings env options with
  | (.error failure, session) => (.error failure, session)
  | (.ok settings, session) =>
      let session := session.record (.settingsLoaded settings)
      match settings.buildTable with
      | .error cause => (.error (.extraPage cause), session)
      | .ok table => session.answer settings table query

def invoke (session : Session) (env : Environment) (invocation : Invocation) :
    Except Failure Unit × Session :=
  match invocation.task with
  | .completions shell => (.ok (), session.print (Report.completions shell))
  | .query query => session.query env invocation.options query

end Session

structure Outcome where
  exitCode : UInt32
  output : String
  errors : String
  tree : FileTree

def run (env : Environment) (arguments : List Bytes) (tree : FileTree) : Outcome :=
  let session := Session.start env tree
  match Request.ofArguments arguments with
  | .misuse => ⟨2, session.output, session.errors ++ Report.usage, session.tree⟩
  | .help =>
      let session := session.print Report.help
      ⟨0, session.output, session.errors, session.tree⟩
  | .run invocation =>
      match session.invoke env invocation with
      | (.ok (), session) => ⟨0, session.output, session.errors, session.tree⟩
      | (.error failure, session) =>
          ⟨1, session.output,
            session.errors ++ "aboutredir error: " ++ failure.message ++ "\n", session.tree⟩

end AboutPages
