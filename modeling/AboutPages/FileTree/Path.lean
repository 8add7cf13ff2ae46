import AboutPages.Text.Bytes
import AboutPages.Text.Split

/-!
# Paths

A path is bytes with slashes between its steps. It starts at the root if its first byte is a slash,
and otherwise at the working directory.
-/

namespace AboutPages

open Text

abbrev Path := Bytes

/-- One step of a path: the name of an entry, or one of the two dotted names. -/
abbrev Step := Bytes

namespace Path

def slash : UInt8 := 0x2F

def here : Step := [0x2E]

def above : Step := [0x2E, 0x2E]

def isAbsolute (path : Path) : Bool := path.head? == some slash

def endsInSlash (path : Path) : Bool := path.getLast? == some slash

/-- A path below another; an absolute one takes its place. -/
def join (base path : Path) : Path :=
  if isAbsolute path then path
  else if base.isEmpty || endsInSlash base then base ++ path
  else base ++ slash :: path

/-- The steps as written, without the empty ones between double slashes. -/
def steps (path : Path) : List Step := (pieces slash path).filter fun step => !step.isEmpty

/-- The steps without those that stay in place; only a leading one counts, in a relative path. -/
def components (path : Path) : List Step :=
  match steps path with
  | [] => []
  | first :: more =>
      let rest := more.filter fun step => decide (step ≠ here)
      if first = here ∧ isAbsolute path then rest else first :: rest

def ofSteps (absolute : Bool) (steps : List Step) : Path :=
  (if absolute then [slash] else []) ++ joined [slash] steps

def parent? (path : Path) : Option Path :=
  match components path with
  | [] => none
  | parts => some (ofSteps (isAbsolute path) parts.dropLast)

/-- The path and the directories above it, innermost first. -/
def ancestors (path : Path) : List Path :=
  let parts := components path
  path :: ((List.range parts.length).reverse.map fun count =>
    ofSteps (isAbsolute path) (parts.take count))

end Path

end AboutPages
