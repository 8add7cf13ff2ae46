/-!
# Values of a TOML document

A document is a table. Each table remembers how it came to be, because that decides what later
parts of the document may still add to it. Numbers with a point and points in time are checked and
then kept as they were written.
-/

namespace AboutPages.Toml

inductive Origin where
  /-- Written in braces. -/
  | inline
  /-- Named by a header. -/
  | header
  /-- Needed by a header below it. -/
  | parent
  /-- Needed by a dotted key. -/
  | dotted
  deriving DecidableEq, Repr

inductive Value where
  | string (text : String)
  | integer (n : Int)
  | float (written : String)
  | boolean (b : Bool)
  | moment (written : String)
  | array (items : List Value)
  | table (origin : Origin) (entries : List (String × Value))
  /-- The tables that repeated double-bracket headers open, in order. -/
  | tables (elements : List (List (String × Value)))
  deriving Repr

/-- Keys with their values, in the order of their first mention. -/
abbrev Entries := List (String × Value)

namespace Entries

def get? (entries : Entries) (key : String) : Option Value :=
  (entries.find? fun entry => decide (entry.1 = key)).map Prod.snd

/-- Give a key its value, in its old place if it has one. -/
def set (entries : Entries) (key : String) (value : Value) : Entries :=
  if entries.any fun entry => decide (entry.1 = key) then
    entries.map fun entry => if entry.1 = key then (key, value) else entry
  else entries ++ [(key, value)]

/-- Give a value to a path of keys. A table on the way is made if it is missing. One that exists
may be entered unless it is closed, but only a dotted key's own table may take the value. -/
def assign : (path : List String) → Value → Entries → Option Entries
  | [], _, _ => none
  | [key], value, entries =>
      match get? entries key with
      | none => some (set entries key value)
      | some _ => none
  | key :: next :: more, value, entries => do
      match get? entries key with
      | none =>
          let inner ← assign (next :: more) value []
          some (set entries key (.table .dotted inner))
      | some (.table origin inner) =>
          if origin = .dotted ∨ origin = .parent ∧ more ≠ [] then
            let inner ← assign (next :: more) value inner
            some (set entries key (.table origin inner))
          else none
      | some (.tables elements) =>
          match elements.getLast? with
          | some last =>
              if more = [] then none
              else
                let inner ← assign (next :: more) value last
                some (set entries key (.tables (elements.dropLast ++ [inner])))
          | none => none
      | some _ => none

/-- Change the table at a path of keys, going through the last one where there are several, and
making those that are missing. -/
def within (change : Entries → Option Entries) : (path : List String) → Entries → Option Entries
  | [], entries => change entries
  | key :: more, entries => do
      match get? entries key with
      | none =>
          let inner ← within change more []
          some (set entries key (.table .parent inner))
      | some (.table origin inner) =>
          if origin = .inline then none
          else
            let inner ← within change more inner
            some (set entries key (.table origin inner))
      | some (.tables elements) =>
          match elements.getLast? with
          | some last =>
              let inner ← within change more last
              some (set entries key (.tables (elements.dropLast ++ [inner])))
          | none => none
      | some _ => none

/-- Open the table that a header names: a new one, or one that so far only had tables below it. -/
def openTable (key : String) (entries : Entries) : Option Entries :=
  match get? entries key with
  | none => some (set entries key (.table .header []))
  | some (.table .parent inner) => some (set entries key (.table .header inner))
  | some _ => none

/-- Open one more of the tables that a double-bracket header names. -/
def openElement (key : String) (entries : Entries) : Option Entries :=
  match get? entries key with
  | none => some (set entries key (.tables [[]]))
  | some (.tables elements) => some (set entries key (.tables (elements ++ [[]])))
  | some _ => none

end Entries

end AboutPages.Toml
