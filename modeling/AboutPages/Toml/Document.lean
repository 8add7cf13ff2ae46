import AboutPages.Toml.Lexeme
import AboutPages.Toml.Scalar

/-!
# Documents

A document is read as a sequence of statements: headers, which choose the table that follows, and
assignments. Then the statements are carried out on an empty table.
-/

namespace AboutPages.Toml

mutual

/-- A value of any kind; `depth` counts the arrays and tables around it. A step takes at least one
character. -/
def value : (fuel : Nat) → (depth : Nat) → Reader Value
  | 0, _, _ => none
  | _ + 1, _, [] => none
  | fuel + 1, depth, c :: rest =>
      if c = '"' ∨ c = '\'' then
        (string? (c :: rest)).map fun r => (.string r.1, r.2)
      else if c = '[' then
        if depthLimit ≤ depth then none
        else
          match skipFill false rest with
          | ']' :: rest => some (.array [], rest)
          | rest => (items fuel (depth + 1) rest).map fun r => (.array r.1, r.2)
      else if c = '\x7b' then
        if depthLimit ≤ depth then none
        else
          match skipSpaces rest with
          | '\x7d' :: rest => some (.table .inline [], rest)
          | rest => (pairs fuel (depth + 1) [] rest).map fun r => (.table .inline r.1, r.2)
      else
        let (word, rest) := takeScalar (c :: rest)
        (scalar? word).map fun v => (v, rest)

/-- The values of an array up to its closing bracket. A comma may follow the last. -/
def items : (fuel : Nat) → (depth : Nat) → Reader (List Value)
  | 0, _, _ => none
  | fuel + 1, depth, cs => do
      let (item, rest) ← value fuel depth cs
      match skipFill false rest with
      | ']' :: rest => some ([item], rest)
      | ',' :: rest =>
          match skipFill false rest with
          | ']' :: rest => some ([item], rest)
          | rest => do
              let (more, rest) ← items fuel depth rest
              some (item :: more, rest)
      | _ => none

/-- The assignments of a table in braces up to the closing one. No comma may follow the last. -/
def pairs : (fuel : Nat) → (depth : Nat) → Entries → Reader Entries
  | 0, _, _, _ => none
  | fuel + 1, depth, entries, cs => do
      let (path, rest) ← path? cs
      match rest with
      | '=' :: rest => do
          let (item, rest) ← value fuel depth (skipSpaces rest)
          let entries ← Entries.assign path item entries
          match skipSpaces rest with
          | '\x7d' :: rest => some (entries, rest)
          | ',' :: rest => pairs fuel depth entries rest
          | _ => none
      | _ => none

end

inductive Statement where
  | header (path : List String)
  | element (path : List String)
  | assignment (path : List String) (value : Value)

def statement? (cs : List Char) : Option (Statement × List Char) :=
  match cs with
  | '[' :: '[' :: rest => do
      let (path, rest) ← path? rest
      match rest with
      | ']' :: ']' :: rest => some (.element path, rest)
      | _ => none
  | '[' :: rest => do
      let (path, rest) ← path? rest
      match rest with
      | ']' :: rest => some (.header path, rest)
      | _ => none
  | _ => do
      let (path, rest) ← path? cs
      match rest with
      | '=' :: rest => do
          let rest := skipSpaces rest
          let (item, rest) ← value (rest.length + 1) 0 rest
          some (.assignment path item, rest)
      | _ => none

/-- All statements, each on lines of its own. A step takes at least one character. -/
def statements : (fuel : Nat) → List Char → Option (List Statement)
  | 0, cs => if (skipSpaces cs).isEmpty then some [] else none
  | fuel + 1, cs => do
      let cs := skipSpaces cs
      match cs with
      | [] => some []
      | c :: _ =>
          if c = '#' ∨ c = '\n' ∨ c = '\r' then statements fuel (← lineEnd? cs)
          else
            let (first, rest) ← statement? cs
            let more ← statements fuel (← lineEnd? rest)
            some (first :: more)

/-- A document under construction: its table, and the path of the table that is open. -/
structure Draft where
  root : Entries
  opened : List String

def Draft.openWith (draft : Draft) (path : List String)
    (act : String → Entries → Option Entries) : Option Draft := do
  let key ← path.getLast?
  let root ← Entries.within (act key) path.dropLast draft.root
  some ⟨root, path⟩

def Draft.step (draft : Draft) : Statement → Option Draft
  | .header path => draft.openWith path Entries.openTable
  | .element path => draft.openWith path Entries.openElement
  | .assignment path item => do
      let root ← Entries.within (Entries.assign path item) draft.opened draft.root
      some ⟨root, draft.opened⟩

/-- The table that a text describes, if it is a valid document. A byte order mark may lead. -/
def parse (text : String) : Option Entries := do
  let cs :=
    match text.toList with
    | '\ufeff' :: rest => rest
    | cs => cs
  let lines ← statements cs.length cs
  let draft ← lines.foldlM Draft.step ⟨[], []⟩
  some draft.root

end AboutPages.Toml
