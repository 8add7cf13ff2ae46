import AboutPages.FileTree.Path

/-!
# File trees

A tree of directories and regular files, and the operations that programs perform on it by path. A
failing operation says why; it may have changed the tree before it failed.
-/

namespace AboutPages

open Text

/-- The steps from the root to a place in the tree, without dotted names. -/
abbrev Location := List Step

inductive Node where
  | directory
  | file (content : Bytes)
  deriving DecidableEq, Repr

inductive FileError where
  | notFound
  | alreadyExists
  | notADirectory
  | isADirectory
  | notText
  deriving DecidableEq, Repr

def FileError.message : FileError → String
  | notFound => "No such file or directory (os error 2)"
  | alreadyExists => "File exists (os error 17)"
  | notADirectory => "Not a directory (os error 20)"
  | isADirectory => "Is a directory (os error 21)"
  | notText => "stream did not contain valid UTF-8"

/-- What stands at each place, and where relative paths start. The root is always a directory. -/
structure FileTree where
  nodes : List (Location × Node)
  working : Location

namespace FileTree

def node? (tree : FileTree) (place : Location) : Option Node :=
  if place = [] then some .directory
  else (tree.nodes.find? fun entry => decide (entry.1 = place)).map Prod.snd

def put (tree : FileTree) (place : Location) (node : Node) : FileTree :=
  { tree with
    nodes := (place, node) :: tree.nodes.filter fun entry => decide (entry.1 ≠ place) }

def needDirectory (tree : FileTree) (place : Location) : Except FileError Unit :=
  match tree.node? place with
  | some .directory => .ok ()
  | some (.file _) => .error .notADirectory
  | none => .error .notFound

/-- Where a step leads from a place, whatever stands there. -/
def advance (place : Location) (step : Step) : Location :=
  if step = Path.here then place
  else if step = Path.above then place.dropLast
  else place ++ [step]

/-- Follow steps from a place. Each step is taken from a directory; the last may lead nowhere. -/
def walk (tree : FileTree) : Location → List Step → Except FileError Location
  | place, [] => .ok place
  | place, step :: more => do
      tree.needDirectory place
      walk tree (advance place step) more

def start (tree : FileTree) (path : Path) : Location :=
  if Path.isAbsolute path then [] else tree.working

/-- What a path leads to. A path that ends in a slash leads to a directory. -/
def resolve (tree : FileTree) (path : Path) : Except FileError (Location × Node) := do
  if path = [] then throw .notFound
  let place ← tree.walk (tree.start path) (Path.steps path)
  if Path.endsInSlash path then tree.needDirectory place
  match tree.node? place with
  | some node => return (place, node)
  | none => throw .notFound

def pathExists (tree : FileTree) (path : Path) : Bool :=
  match tree.resolve path with
  | .ok _ => true
  | .error _ => false

def isDirectory (tree : FileTree) (path : Path) : Bool :=
  match tree.resolve path with
  | .ok (_, .directory) => true
  | _ => false

def read (tree : FileTree) (path : Path) : Except FileError Bytes := do
  match ← tree.resolve path with
  | (_, .file content) => return content
  | (_, .directory) => throw .isADirectory

def readText (tree : FileTree) (path : Path) : Except FileError String := do
  match ofUtf8? (← tree.read path) with
  | some text => return text
  | none => throw .notText

def walkToLast (tree : FileTree) (path : Path) :
    Except FileError (Option (Location × Step)) :=
  match (Path.steps path).getLast? with
  | none => if path = [] then .error .notFound else .ok none
  | some last => do
      let place ← tree.walk (tree.start path) (Path.steps path).dropLast
      tree.needDirectory place
      if last = Path.here ∨ last = Path.above then return none
      else return some (place, last)

/-- The place where a path may create a regular file, or already has one. -/
def filePlace (tree : FileTree) (path : Path) : Except FileError Location := do
  match ← tree.walkToLast path with
  | none => throw .isADirectory
  | some (place, last) =>
      if Path.endsInSlash path then throw .isADirectory
      match tree.node? (place ++ [last]) with
      | some .directory => throw .isADirectory
      | _ => return place ++ [last]

def makeDirectory (tree : FileTree) (path : Path) : Except FileError FileTree := do
  match ← tree.walkToLast path with
  | none => throw .alreadyExists
  | some (place, last) =>
      match tree.node? (place ++ [last]) with
      | some _ => throw .alreadyExists
      | none => return tree.put (place ++ [last]) .directory

/-- Create each directory in turn, the last of the list first. One that is there already does. -/
def makeEach : List Path → FileTree → Except FileError Unit × FileTree
  | [], tree => (.ok (), tree)
  | path :: outer, tree =>
      match makeEach outer tree with
      | (.error e, tree) => (.error e, tree)
      | (.ok (), tree) =>
          match tree.makeDirectory path with
          | .ok made => (.ok (), made)
          | .error e => if tree.isDirectory path then (.ok (), tree) else (.error e, tree)

/-- The directories of the list, innermost first, that are missing below one that can be made or
is there; or the first failure to make one that is not for want of a directory above it. -/
def missing (tree : FileTree) : List Path → Except FileError (List Path)
  | [] => .ok []
  | path :: outer =>
      if path = [] ∨ tree.isDirectory path then .ok []
      else
        match tree.makeDirectory path with
        | .ok _ => .ok [path]
        | .error .notFound => (missing tree outer).map (path :: ·)
        | .error e => .error e

def makeDirectories (tree : FileTree) (path : Path) : Except FileError Unit × FileTree :=
  match tree.missing (Path.ancestors path) with
  | .ok paths => makeEach paths tree
  | .error e => (.error e, tree)

def write (tree : FileTree) (path : Path) (content : Bytes) : Except FileError FileTree := do
  let place ← tree.filePlace path
  return tree.put place (.file content)

def openAppend (tree : FileTree) (path : Path) : Except FileError (Location × FileTree) := do
  let place ← tree.filePlace path
  match tree.node? place with
  | some _ => return (place, tree)
  | none => return (place, tree.put place (.file []))

def append (tree : FileTree) (place : Location) (more : Bytes) : FileTree :=
  match tree.node? place with
  | some (.file content) => tree.put place (.file (content ++ more))
  | _ => tree

end FileTree

end AboutPages
