import AboutPages.Command.Arguments
import AboutPages.Json.Writer
import AboutPages.Page.Plan
import AboutPages.Page.Registration

/-!
# What the subcommands print

Each report is a text of whole lines.
-/

namespace AboutPages

open Text

namespace LoadPlan

def json (plan : LoadPlan) : String :=
  "\x7b\n  \"original_address\": " ++ Json.string plan.address ++
    ",\n  \"name\": " ++ Json.string plan.name ++
    ",\n  \"target\": " ++ Json.string plan.target ++
    ",\n  \"flags\": " ++ Json.strings plan.capabilities.names ++
    ",\n  \"principal\": " ++ Json.string plan.principal.render ++ "\n\x7d\n"

def text (plan : LoadPlan) : String :=
  "address    " ++ plan.address ++ "\n" ++
    "name       " ++ plan.name ++ "\n" ++
    "target     " ++ plan.target ++ "\n" ++
    "flags      " ++ plan.capabilities.render ++ "\n" ++
    "principal  " ++ plan.principal.render ++ "\n"

end LoadPlan

namespace Report

/-- A text filled up with spaces to a width in characters. -/
def padded (width : Nat) (text : String) : String :=
  text ++ String.ofList (List.replicate (width - text.toList.length) ' ')

def listRow (scheme : String) (page : Page) : String :=
  padded 24 (scheme ++ ":" ++ page.name) ++ " " ++ page.target ++ "\n"

def list (scheme : String) (pages : List Page) : String :=
  if pages.isEmpty then "No pages registered.\n"
  else
    "ADDRESS                  TARGET\n" ++ String.join (pages.map (listRow scheme))

def capabilities (legacy : Bool) (set : Capabilities) : String :=
  (if legacy then toString set.toLegacy.toNat else set.render) ++ "\n"

def manifest (table : PageTable) : String :=
  "# " ++ Registration.description ++ "\n" ++
    String.join (table.manifest.map (· ++ "\n"))

/-- What the program is for and how it is called, in words of this library's own: nothing but that
there are some is relied on. -/
def help : String :=
  "Resolve about: addresses to their target resources and flags\n\n" ++
    "Usage: aboutredir [OPTIONS] <COMMAND>\n\n" ++
    "Commands:\n" ++
    "  resolve      Resolve an address to its target, flags and principal policy\n" ++
    "  flags        Print the capability flags of an address\n" ++
    "  list         List pages as the about-about page would show them\n" ++
    "  manifest     Print contract registration lines for every page\n" ++
    "  completions  Generate shell completions\n" ++
    "  help         Print this message\n\n" ++
    "Options:\n" ++
    "      --config <PATH>         Config file to use instead of the default one\n" ++
    "      --services-sync <BOOL>  Override the config's services_sync switch\n" ++
    "  -h, --help                  Print help\n"

/-- What a misuse of the command line is answered with, again in words of this library's own. -/
def usage : String :=
  "Usage: aboutredir [OPTIONS] <COMMAND>\n\nFor more information, try '--help'.\n"

def firstWords : String :=
  String.intercalate " " ((Subcommand.all.map Subcommand.name) ++ ["help"])

/-- A script that lets a shell complete the first word. The scripts are this library's own, and
only that they are not empty is relied on. -/
def completions : Shell → String
  | .bash => "complete -W \"" ++ firstWords ++ "\" aboutredir\n"
  | .elvish =>
      "set edit:completion:arg-completer[aboutredir] = \x7b|@words| put " ++ firstWords ++
        " \x7d\n"
  | .fish => "complete -c aboutredir -n __fish_use_subcommand -f -a \"" ++ firstWords ++ "\"\n"
  | .powershell =>
      "Register-ArgumentCompleter -Native -CommandName aboutredir -ScriptBlock \x7b \"" ++
        firstWords ++ "\" -split \" \" \x7d\n"
  | .zsh => "#compdef aboutredir\ncompadd " ++ firstWords ++ "\n"

end Report

end AboutPages
