import AboutPages.Command.Session

/-!
# The program

The outer layer of the command line. It looks at the places of the file system that a run may
touch, lets `AboutPages.run` decide, and carries out what that changed.
-/

namespace AboutPages.Program

open Text

/-- The places that following steps leads through, whatever stands there. -/
def visited (place : Location) : List Step → List Location
  | [] => []
  | step :: more => FileTree.advance place step :: visited (FileTree.advance place step) more

def systemName (place : Location) : String := displayed (Path.ofSteps true place)

def look (place : Location) : IO (Option Node) := do
  try
    let path ← IO.FS.realPath (systemName place)
    if ← path.isDir then return some .directory
    else return some (.file (← IO.FS.readBinFile path).toList)
  catch _ => return none

def survey (working : Location) (paths : List Path) : IO FileTree := do
  let above := (List.range (working.length + 1)).map working.take
  let places := above ++ paths.flatMap fun path =>
    visited (if Path.isAbsolute path then [] else working) (Path.steps path)
  let mut tree : FileTree := ⟨[], working⟩
  for place in places do
    match ← look place with
    | some node => tree := tree.put place node
    | none => pure ()
  return tree

def carryOut (before after : FileTree) : IO Unit := do
  for (place, node) in after.nodes.reverse do
    match node, before.node? place with
    | .directory, none => IO.FS.createDirAll (systemName place)
    | .file content, some (.file old) =>
        if content.length ≠ old.length then
          let handle ← IO.FS.Handle.mk (systemName place) .append
          handle.write ⟨(content.drop old.length).toArray⟩
    | .file content, _ => IO.FS.writeBinFile (systemName place) ⟨content.toArray⟩
    | _, _ => pure ()

def environment : IO Environment := do
  return {
    -- A home directory that is known to the system alone is not looked for.
    home := ← IO.getEnv "HOME"
    stateHome := ← IO.getEnv "XDG_STATE_HOME"
    configHome := ← IO.getEnv "XDG_CONFIG_HOME"
    logFilter := ← IO.getEnv "RUST_LOG" }

def ownFiles (env : Environment) : List Path :=
  match env.directories? with
  | some directories => [directories.logFile, directories.configFile]
  | none => []

def givenConfig (arguments : List Bytes) : List Path :=
  match Request.ofArguments arguments with
  | .run invocation => invocation.options.config.toList
  | _ => []

end AboutPages.Program

open AboutPages AboutPages.Program in
def main (args : List String) : IO UInt32 := do
  let arguments := args.map Text.utf8
  let env ← environment
  let working := Path.steps (Text.utf8 (← IO.currentDir).toString)
  let before ← survey working (ownFiles env ++ givenConfig arguments)
  let outcome := run env arguments before
  carryOut before outcome.tree
  IO.print outcome.output
  IO.eprint outcome.errors
  return outcome.exitCode
