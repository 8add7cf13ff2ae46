import AboutPages.Text.Casing

/-!
# Internal addresses

An address is an optional scheme with its colon, the name of a page, and a suffix that starts at the
first question mark or number sign. Only the name matters for finding the page, and its letter case
does not.
-/

namespace AboutPages

open Text

structure Address where
  scheme : Option String
  rawName : String
  suffix : String
  deriving DecidableEq, Repr

namespace Address

/-- A question mark or number sign: the query or fragment begins. -/
def startsSuffix (c : Char) : Bool := decide (c = '?' ∨ c = '#')

/-- Cut an address into its parts. A colon counts only before the suffix. -/
def parse (text : String) : Address :=
  let cs := text.toList
  let head := cs.takeWhile fun c => !startsSuffix c
  let suffix := String.ofList (cs.dropWhile fun c => !startsSuffix c)
  if ':' ∈ head then
    { scheme := some (String.ofList (head.takeWhile fun c => decide (c ≠ ':')))
      rawName := String.ofList ((head.dropWhile fun c => decide (c ≠ ':')).drop 1)
      suffix := suffix }
  else
    { scheme := none, rawName := String.ofList head, suffix := suffix }

def render (address : Address) : String :=
  (match address.scheme with
    | some scheme => scheme ++ ":"
    | none => "") ++ address.rawName ++ address.suffix

def name (address : Address) : String := lowercase address.rawName

end Address

def pageName (address : String) : String := (Address.parse address).name

end AboutPages
