import AboutPages.Text.Casing.Context
import AboutPages.Text.Casing.Runs

/-!
# Lower-casing

Full Unicode lower-casing of a text. Each character is replaced on its own, except the capital
sigma, which becomes the final form when a cased letter stands before it and none after it; marks
that casing ignores are skipped on both sides.
-/

namespace AboutPages.Text

/-- The lower-case form of a character other than the capital sigma. -/
def lowerChar (c : Char) : List Char :=
  if c = '\u0130' then ['i', '\u0307']
  else
    match CodeRun.image? lowerRuns c.toNat with
    | some n => [Char.ofNat n]
    | none => [c]

/-- The nearest character that casing does not ignore is cased. -/
def meetsCased : List Char → Bool
  | [] => false
  | c :: rest => if isCaseIgnorable c then meetsCased rest else isCased c

/-- Whether the characters up to and including `c` end, ignorable ones apart, in a cased one. -/
def casedAfter (before : Bool) (c : Char) : Bool :=
  if isCaseIgnorable c then before else isCased c

/-- Lower-case the rest of a text; `before` says whether a cased character leads up to it. -/
def lowerFrom (before : Bool) : List Char → List Char
  | [] => []
  | c :: rest =>
      let image :=
        if c = 'Σ' then [if before && !meetsCased rest then 'ς' else 'σ'] else lowerChar c
      image ++ lowerFrom (casedAfter before c) rest

def lowercase (text : String) : String :=
  String.ofList (lowerFrom false text.toList)

def sameIgnoringCase (a b : List Char) : Bool :=
  decide (a.map Char.toLower = b.map Char.toLower)

end AboutPages.Text
