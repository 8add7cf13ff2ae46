import AboutPages.Page.Builtin

/-!
# Settings

The switch for the synchronisation pages, the scheme that listings show, and extra pages. Settings
describe a table: the built-in pages, then each extra page under the rules for any page.
-/

namespace AboutPages

open Text

/-- A page of the user's own; its capabilities are given by name. -/
structure ExtraPage where
  name : String
  target : String
  flags : List String
  deriving DecidableEq, Repr

structure Settings where
  servicesSync : Bool
  scheme : String
  extraPages : List ExtraPage
  deriving DecidableEq, Repr

inductive SchemeFault where
  | empty
  | reserved (scheme : String)
  deriving DecidableEq, Repr

def SchemeFault.message : SchemeFault → String
  | empty => "scheme must not be empty"
  | reserved scheme => "scheme " ++ quoted scheme ++ " contains a reserved character"

structure ExtraPageError where
  name : String
  cause : EntryError
  deriving DecidableEq, Repr

def ExtraPageError.message (e : ExtraPageError) : String :=
  "extra entry " ++ quoted e.name ++ ": " ++ e.cause.message

def ExtraPage.describe (extra : ExtraPage) : String :=
  "ExtraEntry \x7b name: " ++ quoted extra.name ++ ", target: " ++ quoted extra.target ++
    ", flags: " ++ quotedList extra.flags ++ " \x7d"

/-- Accept an extra page into a table. Its capabilities are read before anything else. -/
def PageTable.insertExtra (table : PageTable) (extra : ExtraPage) :
    Except ExtraPageError PageTable :=
  let accepted := do
    let capabilities ← capabilitiesOfNames extra.flags
    table.insert ⟨extra.name, extra.target, capabilities⟩
  accepted.mapError fun cause => ⟨extra.name, cause⟩

namespace Settings

def standard : Settings := ⟨false, "about", []⟩

def validate (settings : Settings) : Except SchemeFault Unit :=
  if settings.scheme = "" then .error .empty
  else if settings.scheme.toList.any isReserved then .error (.reserved settings.scheme)
  else .ok ()

def buildTable (settings : Settings) : Except ExtraPageError PageTable :=
  settings.extraPages.foldlM PageTable.insertExtra (PageTable.builtin settings.servicesSync)

def describe (settings : Settings) : String :=
  "RedirectorConfig \x7b services_sync: " ++ (if settings.servicesSync then "true" else "false") ++
    ", scheme: " ++ quoted settings.scheme ++ ", extra_entries: [" ++
    String.intercalate ", " (settings.extraPages.map ExtraPage.describe) ++ "] \x7d"

end Settings

end AboutPages
