import AboutPages.Settings.Basic
import AboutPages.Toml.Document

/-!
# Settings as a document

Keys that mean nothing are ignored. An extra page is a table, or an array of its name, target and
flags in that order.
-/

namespace AboutPages

open Toml

def Toml.Value.string? : Value → Option String
  | .string text => some text
  | _ => none

def Toml.Value.strings? : Value → Option (List String)
  | .array items => items.mapM Value.string?
  | _ => none

namespace ExtraPage

def ofEntries? (entries : Entries) : Option ExtraPage := do
  let name ← (← Entries.get? entries "name").string?
  let target ← (← Entries.get? entries "target").string?
  let flags ←
    match Entries.get? entries "flags" with
    | some value => value.strings?
    | none => some []
  return ⟨name, target, flags⟩

/-- The parts by position; what follows the third is ignored. -/
def ofItems? : List Value → Option ExtraPage
  | name :: target :: rest => do
      let flags ←
        match rest with
        | flags :: _ => flags.strings?
        | [] => some []
      return ⟨← name.string?, ← target.string?, flags⟩
  | _ => none

def ofValue? : Value → Option ExtraPage
  | .table _ entries => ofEntries? entries
  | .array items => ofItems? items
  | _ => none

end ExtraPage

namespace Settings

def extraPagesOf? : Option Value → Option (List ExtraPage)
  | none => some []
  | some (.array items) => items.mapM ExtraPage.ofValue?
  | some (.tables elements) => elements.mapM ExtraPage.ofEntries?
  | some _ => none

def ofEntries? (entries : Entries) : Option Settings := do
  let servicesSync ←
    match ← Entries.get? entries "services_sync" with
    | .boolean b => some b
    | _ => none
  let scheme ←
    match Entries.get? entries "scheme" with
    | some value => value.string?
    | none => some "about"
  let extraPages ← extraPagesOf? (Entries.get? entries "extra_entries")
  return ⟨servicesSync, scheme, extraPages⟩

def ofText? (text : String) : Option Settings := do
  ofEntries? (← Toml.parse text)

def standardText : String :=
  "services_sync = false\nscheme = \"about\"\nextra_entries = []\n"

end Settings

end AboutPages
