import AboutPages.Text.Digits
import AboutPages.Text.Ranges

/-!
# Tables packed as text

A large table is kept as lines of text: hexadecimal numbers separated by spaces, rows separated by
semicolons. It is unpacked once, when the program starts.
-/

namespace AboutPages.Text

namespace Packed

/-- Rows read so far, the row being read, and the number being read; newest first. -/
structure Reading where
  rows : List (List Nat)
  row : List Nat
  number : Nat

def Reading.endNumber (r : Reading) : Reading := ⟨r.rows, r.number :: r.row, 0⟩

def Reading.endRow (r : Reading) : Reading :=
  let r := r.endNumber
  ⟨r.row.reverse :: r.rows, [], 0⟩

def Reading.step (r : Reading) (c : Char) : Reading :=
  if c = ';' then r.endRow
  else if c = ' ' then r.endNumber
  else ⟨r.rows, r.row, r.number * 16 + digitValue c⟩

def lineRows (line : String) : List (List Nat) :=
  (line.foldl Reading.step ⟨[], [], 0⟩).endRow.rows.reverse

def rows (lines : List String) : List (List Nat) := lines.flatMap lineRows

def ranges (lines : List String) : CodeRanges :=
  (rows lines).filterMap fun
    | [first, last] => some (first, last)
    | _ => none

def runs (lines : List String) : List CodeRun :=
  (rows lines).filterMap fun
    | [first, last, step, image] => some ⟨first, last, step, image⟩
    | _ => none

end Packed

end AboutPages.Text
