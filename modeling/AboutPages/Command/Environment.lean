import AboutPages.FileTree.Path

/-!
# Where files are kept

The user's directories come from the environment. A base directory counts only if it is absolute;
otherwise it is found below the home directory. Where no home directory is known there are none.
-/

namespace AboutPages

open Text

structure Environment where
  home : Option String
  stateHome : Option String
  configHome : Option String
  logFilter : Option String
  deriving DecidableEq, Repr

/-- The base directories of a user: one for what programs keep between runs, one for settings. -/
structure Directories where
  state : Path
  config : Path
  deriving DecidableEq, Repr

namespace Directories

def programDirectory : Path := utf8 "aboutredir"

/-- The directory of the log file: the program's directory, and one of the same name in it. -/
def logDirectory (directories : Directories) : Path :=
  Path.join (Path.join directories.state programDirectory) programDirectory

def logFile (directories : Directories) : Path :=
  Path.join directories.logDirectory (utf8 "aboutredir.log")

def configDirectory (directories : Directories) : Path :=
  Path.join directories.config programDirectory

def configFile (directories : Directories) : Path :=
  Path.join directories.configDirectory (utf8 "config.toml")

end Directories

namespace Environment

/-- A base directory: as given if that is absolute, else below the home directory. -/
def base (home : String) (given : Option String) (fallback : String) : Path :=
  match given with
  | some directory =>
      if Path.isAbsolute (utf8 directory) then utf8 directory
      else Path.join (utf8 home) (utf8 fallback)
  | none => Path.join (utf8 home) (utf8 fallback)

/-- The base directories. A home directory has to be known even where both are given. -/
def directories? (env : Environment) : Option Directories :=
  env.home.map fun home =>
    ⟨base home env.stateHome ".local/state", base home env.configHome ".config"⟩

end Environment

end AboutPages
