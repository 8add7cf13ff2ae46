import AboutPages.Command.Log
import AboutPages.Page.Plan
import AboutPages.Settings.File

/-!
# What is logged

The events of a run, each with the part of the program that reports it.
-/

namespace AboutPages

open Text

inductive LogError where
  | homeless
  | file (cause : FileError)
  deriving DecidableEq, Repr

def LogError.message : LogError → String
  | homeless => homelessMessage
  | file cause => cause.message

namespace Event

def logOpened (path : Path) : Event :=
  ⟨.info, "aboutredir_core::logging", "aboutredir logging initialized at " ++ displayed path⟩

def logUnavailable (cause : LogError) : Event :=
  ⟨.warn, "aboutredir", "file logging unavailable, using stderr: " ++ cause.message⟩

def settingsCreated (path : Path) : Event :=
  ⟨.info, "aboutredir_core::config", "created default config at " ++ displayed path⟩

def settingsLoaded (settings : Settings) : Event :=
  ⟨.debug, "aboutredir::cli", "loaded config: " ++ settings.describe⟩

/-- An address names no page. The name is written as it is, without quotes. -/
def unknownPage (address : String) (unknown : UnknownPage) : Event :=
  ⟨.debug, "aboutredir_core::resolver",
    "unknown about: name address=" ++ quoted address ++ " name=" ++ unknown.name⟩

/-- An address was resolved. The target is written as it is, without quotes. -/
def resolved (address target : String) : Event :=
  ⟨.info, "aboutredir::cli::commands::resolve",
    "resolved address=" ++ quoted address ++ " target=" ++ target⟩

end Event

end AboutPages
