import AboutPages.Text.Digits
import AboutPages.Toml.Value

/-!
# Blanks, comments, strings and keys

Readers take what they know off the front of the text and give the rest; they give nothing if the
text does not start so.
-/

namespace AboutPages.Toml

open Text

abbrev Reader (α : Type) := List Char → Option (α × List Char)

def isSpace (c : Char) : Bool := decide (c = ' ' ∨ c = '\t')

def skipSpaces (cs : List Char) : List Char := cs.dropWhile isSpace

/-- Characters that may stand in comments and, delimiters apart, in strings. -/
def isPlain (c : Char) : Bool :=
  decide (c = '\t' ∨ 0x20 ≤ c.toNat ∧ c.toNat ≠ 0x7F)

def lineBreak? : List Char → Option (List Char)
  | '\n' :: rest => some rest
  | '\r' :: '\n' :: rest => some rest
  | _ => none

def lineEnd? (cs : List Char) : Option (List Char) :=
  let cs :=
    match skipSpaces cs with
    | '#' :: rest => rest.dropWhile isPlain
    | cs => cs
  if cs.isEmpty then some [] else lineBreak? cs

def skipFill (inComment : Bool) : List Char → List Char
  | [] => []
  | c :: rest =>
      if c = '\n' then skipFill false rest
      else if c = '\r' then
        match rest with
        | '\n' :: _ => skipFill false rest
        | _ => c :: rest
      else if inComment then if isPlain c then skipFill true rest else c :: rest
      else if isSpace c then skipFill false rest
      else if c = '#' then skipFill true rest
      else c :: rest

def skipBlankLines : List Char → List Char
  | [] => []
  | c :: rest =>
      if c = '\n' ∨ isSpace c then skipBlankLines rest
      else if c = '\r' then
        match rest with
        | '\n' :: _ => skipBlankLines rest
        | _ => c :: rest
      else c :: rest

/-- The character with the code point that exactly so many hexadecimal digits give. -/
def codePoint? (count : Nat) (cs : List Char) : Option (Char × List Char) :=
  let digits := cs.take count
  let code := numeral 16 digits
  if digits.length = count ∧ digits.all isHexDigit ∧ code.isValidChar then
    some (Char.ofNat code, cs.drop count)
  else none

/-- The character that an escape stands for; the backslash is taken off already. -/
def escape? : Reader Char
  | 'b' :: rest => some ('\x08', rest)
  | 't' :: rest => some ('\t', rest)
  | 'n' :: rest => some ('\n', rest)
  | 'f' :: rest => some ('\x0c', rest)
  | 'r' :: rest => some ('\r', rest)
  | '"' :: rest => some ('"', rest)
  | '\\' :: rest => some ('\\', rest)
  | 'u' :: rest => codePoint? 4 rest
  | 'U' :: rest => codePoint? 8 rest
  | _ => none

/-- The rest of a string on one line. A step takes at least one character. -/
def lineString : (fuel : Nat) → (quote : Char) → Reader (List Char)
  | 0, _, _ => none
  | _ + 1, _, [] => none
  | fuel + 1, quote, c :: rest =>
      if c = quote then some ([], rest)
      else if c = '\\' ∧ quote = '"' then do
        let (d, rest) ← escape? rest
        let (text, rest) ← lineString fuel quote rest
        some (d :: text, rest)
      else if isPlain c then do
        let (text, rest) ← lineString fuel quote rest
        some (c :: text, rest)
      else none

/-- The rest of a string over several lines. Up to two quotes may stand inside it, and up to two
right before the three that end it. -/
def blockString : (fuel : Nat) → (quote : Char) → Reader (List Char)
  | 0, _, _ => none
  | _ + 1, _, [] => none
  | fuel + 1, quote, c :: rest =>
      let marks := (c :: rest).takeWhile fun d => decide (d = quote)
      let behind := (c :: rest).drop marks.length
      if 6 ≤ marks.length then none
      else if 3 ≤ marks.length then some (marks.drop 3, behind)
      else if 1 ≤ marks.length then do
        let (text, rest) ← blockString fuel quote behind
        some (marks ++ text, rest)
      else if c = '\\' ∧ quote = '"' then
        match lineBreak? (skipSpaces rest) with
        | some next => blockString fuel quote (skipBlankLines next)
        | none => do
            let (d, rest) ← escape? rest
            let (text, rest) ← blockString fuel quote rest
            some (d :: text, rest)
      else
        match lineBreak? (c :: rest) with
        | some next => do
            let (text, rest) ← blockString fuel quote next
            some ('\n' :: text, rest)
        | none =>
            if isPlain c then do
              let (text, rest) ← blockString fuel quote rest
              some (c :: text, rest)
            else none

/-- A line break right behind the opening quotes of a block does not count. -/
def skipFirstBreak (cs : List Char) : List Char := (lineBreak? cs).getD cs

def string? (cs : List Char) : Option (String × List Char) := do
  let (text, rest) ←
    match cs with
    | '"' :: '"' :: '"' :: rest => blockString cs.length '"' (skipFirstBreak rest)
    | '\'' :: '\'' :: '\'' :: rest => blockString cs.length '\'' (skipFirstBreak rest)
    | '"' :: rest => lineString cs.length '"' rest
    | '\'' :: rest => lineString cs.length '\'' rest
    | _ => none
  some (String.ofList text, rest)

def isBareKeyChar (c : Char) : Bool := c.isAlphanum || decide (c = '_' ∨ c = '-')

def simpleKey? (cs : List Char) : Option (String × List Char) :=
  match cs with
  | '"' :: rest => (lineString cs.length '"' rest).map fun r => (String.ofList r.1, r.2)
  | '\'' :: rest => (lineString cs.length '\'' rest).map fun r => (String.ofList r.1, r.2)
  | _ =>
      let key := cs.takeWhile isBareKeyChar
      if key.isEmpty then none else some (String.ofList key, cs.drop key.length)

/-- Keys with dots between them, and spaces around each. -/
def keys : (fuel : Nat) → Reader (List String)
  | 0, _ => none
  | fuel + 1, cs => do
      let (key, rest) ← simpleKey? (skipSpaces cs)
      match skipSpaces rest with
      | '.' :: rest => do
          let (more, rest) ← keys fuel rest
          some (key :: more, rest)
      | rest => some ([key], rest)

/-- The greatest nesting of values, and number of dotted keys, that is read. -/
def depthLimit : Nat := 79

def path? (cs : List Char) : Option (List String × List Char) := do
  let (path, rest) ← keys cs.length cs
  if path.length ≤ depthLimit then some (path, rest) else none

end AboutPages.Toml
