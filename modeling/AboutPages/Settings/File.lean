import AboutPages.FileTree.Basic
import AboutPages.Settings.Decode

/-!
# The settings file

Settings are read from a file. Where asked to, a missing file is first created with the standard
settings. Whether it is missing is found out before the directories above it are made.
-/

namespace AboutPages

open Text

inductive SettingsError where
  /-- There is no default file, because no home directory is known. -/
  | homeless
  | unreadable (path : Path) (cause : FileError)
  | malformed (path : Path)
  | invalid (path : Path) (fault : SchemeFault)
  /-- The file or its directory cannot be created. -/
  | uncreatable (cause : FileError)
  deriving DecidableEq, Repr

def homelessMessage : String := "$HOME must be set"

/-- An error in words. Of a malformed file only the path is told: the account of its fault that
could follow, with line and column, is in the words of whoever reads the format and is left out. -/
def SettingsError.message : SettingsError → String
  | homeless => homelessMessage
  | unreadable path cause => "read config " ++ displayed path ++ ": " ++ cause.message
  | malformed path => "parse config " ++ displayed path
  | invalid path fault => "invalid config " ++ displayed path ++ ": " ++ fault.message
  | uncreatable cause => cause.message

namespace Settings

def load (tree : FileTree) (path : Path) : Except SettingsError Settings :=
  match tree.readText path with
  | .error cause => .error (.unreadable path cause)
  | .ok text =>
      match ofText? text with
      | none => .error (.malformed path)
      | some settings =>
          match settings.validate with
          | .error fault => .error (.invalid path fault)
          | .ok () => .ok settings

def create (tree : FileTree) (path : Path) : Except FileError Unit × FileTree :=
  let (made, tree) :=
    match Path.parent? path with
    | some parent => tree.makeDirectories parent
    | none => (.ok (), tree)
  match made with
  | .error cause => (.error cause, tree)
  | .ok () =>
      match tree.write path (utf8 standardText) with
      | .ok tree => (.ok (), tree)
      | .error cause => (.error cause, tree)

/-- What came of asking for a settings file that may be missing. -/
structure Loaded where
  settings : Settings
  created : Bool

/-- The settings in a file, which is created first if nothing is there. -/
def loadOrCreate (tree : FileTree) (path : Path) : Except SettingsError Loaded × FileTree :=
  if tree.pathExists path then ((load tree path).map fun settings => ⟨settings, false⟩, tree)
  else
    match create tree path with
    | (.ok (), tree) => (.ok ⟨standard, true⟩, tree)
    | (.error cause, tree) => (.error (.uncreatable cause), tree)

end Settings

end AboutPages
