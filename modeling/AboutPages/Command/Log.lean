import AboutPages.Text.Blank
import AboutPages.Text.Casing
import AboutPages.Text.Digits
import AboutPages.Text.Split

/-!
# Log events and the filter on them

An event has a level, the part of the program that reports it, and a text. The filter gives each
part the level up to which its events are kept: the directive for the longest matching part name
decides, and without one nothing is kept.
-/

namespace AboutPages

open Text

/-- How much an event matters, the most important first. -/
inductive Level where
  | error
  | warn
  | info
  | debug
  | trace
  deriving DecidableEq, Repr

namespace Level

def rank : Level → Nat
  | error => 1
  | warn => 2
  | info => 3
  | debug => 4
  | trace => 5

def render : Level → String
  | error => "ERROR"
  | warn => "WARN"
  | info => "INFO"
  | debug => "DEBUG"
  | trace => "TRACE"

end Level

structure Event where
  level : Level
  source : String
  text : String
  deriving DecidableEq, Repr

def Event.line (event : Event) : String :=
  event.level.render ++ " " ++ event.source ++ ": " ++ event.text ++ "\n"

/-- The parts whose name starts with `source`, or all parts, keep events up to the rank `limit`. -/
structure Directive where
  source : Option (List Char)
  limit : Nat
  deriving DecidableEq, Repr

abbrev LogFilter := List Directive

namespace LogFilter

def levelWords : List String := ["off", "error", "warn", "info", "debug", "trace"]

/-- A level as a word in any letter case, or as its rank in decimal. -/
def limit? (text : List Char) : Option Nat :=
  let digits := if text.head? = some '+' then text.drop 1 else text
  if !digits.isEmpty && digits.all Char.isDigit then
    if numeral 10 digits ≤ 5 then some (numeral 10 digits) else none
  else levelWords.findIdx? fun word => sameIgnoringCase text word.toList

/-- A directive starts with a letter, a digit or one of a few signs. Any non-ASCII character is
taken for a letter. -/
def startsDirective (c : Char) : Bool :=
  c.isAlphanum || decide (c ∈ ['-', ':', '_', '['] ∨ 0x80 ≤ c.toNat)

/-- A level, the name of a part, or a name, an equals sign and a level. A name without a level
keeps every event. -/
def directive? (text : List Char) : Option Directive :=
  let source := text.takeWhile fun c => decide (c ≠ '=')
  if !text.head?.any startsDirective then none
  else
    match text.drop source.length with
    | [] =>
        match limit? text with
        | some limit => some ⟨none, limit⟩
        | none => some ⟨some source, 5⟩
    | _ :: [] => some ⟨some source, 5⟩
    | _ :: level => (limit? level).map fun limit => ⟨some source, limit⟩

def parse (text : String) : Option LogFilter :=
  (((pieces ',' text.toList).filter fun piece => !piece.isEmpty).map trimBlankList).mapM directive?

def standard : LogFilter :=
  [⟨none, 3⟩, ⟨some "aboutredir".toList, 4⟩, ⟨some "aboutredir_core".toList, 4⟩]

def ofEnvironment (given : Option String) : LogFilter := (given.bind parse).getD standard

/-- How much of a part's name a directive fixes; nothing if it is about other parts. -/
def weight? (source : String) (directive : Directive) : Option Nat :=
  match directive.source with
  | none => some 0
  | some name => if name.isPrefixOf source.toList then some (name.length + 1) else none

/-- The limit of the weightiest directive about a part, of equal ones the last; zero if there is
none. -/
def limitFor (filter : LogFilter) (source : String) : Nat :=
  let best := filter.foldl (fun (best : Nat × Nat) directive =>
    match weight? source directive with
    | some weight => if best.1 ≤ weight then (weight, directive.limit) else best
    | none => best) (0, 0)
  best.2

def keeps (filter : LogFilter) (event : Event) : Bool :=
  decide (event.level.rank ≤ limitFor filter event.source)

end LogFilter

end AboutPages
