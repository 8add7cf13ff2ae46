import AboutPages.Domain.Direction
import AboutPages.Domain.Joining
import AboutPages.Domain.Mapping
import AboutPages.Domain.Punycode
import AboutPages.Text.Split

/-!
# Domain names

A domain name is mapped, composed and cut into labels at its dots; a label in encoded form is
decoded; and every label has to be in order. Neither its length nor its hyphens matter. The result
is the list of labels in plain form.
-/

namespace AboutPages.Domain

open Text

def isForbidden (c : Char) : Bool :=
  decide (c.toNat ≤ 0x20 ∨ c.toNat = 0x7F ∨
    c ∈ ['%', '#', '/', ':', '<', '>', '?', '@', '[', '\\', ']', '^', '|'])

def encodedMarker : List Char := ['x', 'n', '-', '-']

def isAscii (c : Char) : Bool := decide (c.toNat < 0x80)

/-- The label starts with no mark, has its joiners in place and holds nothing forbidden. -/
def labelOk (label : List Char) : Bool :=
  !label.head?.any isMark && joinersOk [] label && !label.any isForbidden

/-- An encoded label stands for what it decodes to, which is not ASCII alone, is mapped and
composed already, and is not encoded again. -/
def decodeLabel? (encoded : List Char) : Option (List Char) := do
  let label ← Punycode.decode? encoded
  if label.all isAscii || !label.all isKept || decide (composed label ≠ label) ||
      encodedMarker.isPrefixOf label then none
  else some label

def label? (written : List Char) : Option (List Char) := do
  let label ←
    if encodedMarker.isPrefixOf written then
      if written.all isAscii then decodeLabel? (written.drop encodedMarker.length) else none
    else some written
  if labelOk label then some label else none

def labels? (text : List Char) : Option (List (List Char)) := do
  let cs ← mapped text
  let labels ← (pieces '.' (composed cs)).mapM label?
  if directionsOk labels then some labels else none

end AboutPages.Domain
