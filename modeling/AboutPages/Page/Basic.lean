import AboutPages.Capability
import AboutPages.Target
import AboutPages.Text.Quoted

/-!
# Pages

A page has a name, the web address that is loaded in its place, and capabilities. Names are in lower
case and free of blanks, controls and the characters that delimit an address.
-/

namespace AboutPages

open Text

structure Page where
  name : String
  target : String
  capabilities : Capabilities
  deriving DecidableEq, Repr

inductive EntryError where
  | emptyName
  | notLowercase (name : String)
  | reservedCharacter (name : String)
  | duplicateName (name : String)
  | invalidTarget (name target reason : String)
  | unknownCapability (name : String)
  deriving DecidableEq, Repr

namespace EntryError

/-- The words of a message up to its first quote. -/
def opening : EntryError → String
  | emptyName => "entry name is empty"
  | notLowercase _ => "entry name "
  | reservedCharacter _ => "entry name "
  | duplicateName _ => "duplicate entry name "
  | invalidTarget _ _ _ => "invalid target for "
  | unknownCapability _ => "unknown capability flag "

/-- What a message says of the texts at fault. -/
def body : EntryError → String
  | emptyName => ""
  | notLowercase name => quoted name ++ " must be lower-case"
  | reservedCharacter name => quoted name ++ " contains a reserved character"
  | duplicateName name => quoted name
  | invalidTarget name target reason =>
      quoted name ++ (": " ++ (quoted target ++ (" (" ++ (reason ++ ")"))))
  | unknownCapability name => quoted name

def message (error : EntryError) : String := error.opening ++ error.body

end EntryError

def isReserved (c : Char) : Bool :=
  decide (c = '?' ∨ c = '#' ∨ c = ':' ∨ c = '/') || isBlank c || isControl c

/-- The rules for a page name, in the order in which they are checked. -/
def checkName (name : String) : Except EntryError Unit :=
  if name = "" then .error .emptyName
  else if name.toList.any isReserved then .error (.reservedCharacter name)
  else if lowercase name ≠ name then .error (.notLowercase name)
  else .ok ()

def checkTarget (name target : String) : Except EntryError Unit :=
  match Target.check target with
  | .ok () => .ok ()
  | .error fault => .error (.invalidTarget name target fault.reason)

def capabilitiesOfNames (names : List String) : Except EntryError Capabilities :=
  match Capabilities.ofNames names with
  | .ok capabilities => .ok capabilities
  | .error name => .error (.unknownCapability name)

end AboutPages
