/-!
# Punycode

The encoded form of a label, read back. The ASCII characters of a label come first; behind its last hyphen
stands a number for each insertion of another code point, in digits of base 36 whose end is told by
a threshold that adapts.
-/

namespace AboutPages.Domain.Punycode

def digit? (c : Char) : Option Nat :=
  if c.isDigit then some (c.toNat - '0'.toNat + 26)
  else if c.isLower then some (c.toNat - 'a'.toNat)
  else none

/-- A smaller digit than this ends the number, `place` digits from its front. -/
def threshold (bias place : Nat) : Nat :=
  let k := 36 * (place + 1)
  if k ≤ bias then 1 else if bias + 26 ≤ k then 26 else k - bias

def adaptFrom (delta k : Nat) : Nat :=
  if 455 < delta then adaptFrom (delta / 35) (k + 36) else k + 36 * delta / (delta + 38)
termination_by delta
decreasing_by exact Nat.div_lt_self (by omega) (by omega)

/-- The bias after an insertion that made `count` characters. -/
def adapt (delta count : Nat) (first : Bool) : Nat :=
  let scaled := if first then delta / 700 else delta / 2
  adaptFrom (scaled + scaled / count) 0

/-- A label being decoded: what is known of it, and the number being read. -/
structure Decoding where
  output : List Char
  code : Nat
  position : Nat
  bias : Nat
  first : Bool
  /-- Digits of the current number so far, its value so far, and the weight of the next digit. -/
  place : Nat
  delta : Nat
  weight : Nat

def Decoding.start (output : List Char) : Decoding :=
  ⟨output, 128, 0, 72, true, 0, 0, 1⟩

def Decoding.insert? (d : Decoding) : Option Decoding :=
  let count := d.output.length + 1
  let total := d.position + d.delta
  let code := d.code + total / count
  let position := total % count
  if code.isValidChar then
    let output := d.output.take position ++ Char.ofNat code :: d.output.drop position
    some ⟨output, code, position + 1, adapt d.delta count d.first, false, 0, 0, 1⟩
  else none

def Decoding.step? (d : Decoding) (c : Char) : Option Decoding := do
  let digit ← digit? c
  let t := threshold d.bias d.place
  let d := { d with delta := d.delta + digit * d.weight }
  if digit < t then d.insert?
  else some { d with place := d.place + 1, weight := d.weight * (36 - t) }

/-- The characters that the part of a label behind its marker stands for. -/
def decode? (text : List Char) : Option (List Char) := do
  let digits := (text.reverse.takeWhile (fun c => decide (c ≠ '-'))).reverse
  let output := text.take (text.length - digits.length - 1)
  let d ← digits.foldlM Decoding.step? (Decoding.start output)
  if d.place = 0 then some d.output else none

end AboutPages.Domain.Punycode
