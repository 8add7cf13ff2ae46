import AboutPages.Domain.MappingTable

/-!
# Mapping of domain-name characters

Before a domain name is cut into labels each character is replaced by what it stands for: itself,
other characters, or nothing.
-/

namespace AboutPages.Domain

open Text

/-- What a character stands for in a domain name, or nothing if none may hold it. -/
def mapChar (c : Char) : Option (List Char) :=
  let n := c.toNat
  if n < 0x80 then some [c.toLower]
  else if CodeRanges.holds refusedRanges n then none
  else if CodeRanges.holds droppedRanges n then some []
  else
    match CodeRun.image? replacedRuns n with
    | some image => some [Char.ofNat image]
    | none =>
        match expandedRows.find? (fun row => row.head? == some n) with
        | some row => some (row.tail.map Char.ofNat)
        | none => some [c]

def mapped (cs : List Char) : Option (List Char) :=
  (cs.mapM mapChar).map List.flatten

def isKept (c : Char) : Bool := decide (mapChar c = some [c])

end AboutPages.Domain
