import AboutPages.Domain.Composition
import AboutPages.Domain.JoiningTable

/-!
# Joiners in a label

The two invisible joiners may stand only where they change how a script is written: after a
virama, or, the non-joiner, between two letters that would join over it.
-/

namespace AboutPages.Domain

open Text

def zeroWidthNonJoiner : Char := '\u200c'
def zeroWidthJoiner : Char := '\u200d'

def isMark (c : Char) : Bool := CodeRanges.holds markRanges c.toNat

def isVirama (c : Char) : Bool := decide (combiningClass c = 9)

def isTransparent (c : Char) : Bool := CodeRanges.holds transparentRanges c.toNat

def joinsOnward (c : Char) : Bool :=
  CodeRanges.holds leftJoiningRanges c.toNat || CodeRanges.holds dualJoiningRanges c.toNat

def joinsBack (c : Char) : Bool :=
  CodeRanges.holds rightJoiningRanges c.toNat || CodeRanges.holds dualJoiningRanges c.toNat

/-- Every joiner of the rest of a label stands where it may; `before` is read from its end. -/
def joinersOk (before : List Char) : List Char → Bool
  | [] => true
  | c :: rest =>
      let here :=
        if c = zeroWidthJoiner then before.head?.any isVirama
        else if c = zeroWidthNonJoiner then
          before.head?.any isVirama ||
            ((before.dropWhile isTransparent).head?.any joinsOnward &&
              (rest.dropWhile isTransparent).head?.any joinsBack)
        else true
      here && joinersOk (c :: before) rest

end AboutPages.Domain
