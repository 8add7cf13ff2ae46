import AboutPages.Domain.CompositionTable

/-!
# Composed form of a domain name

Canonical composition of mapped text: characters are taken apart, marks are put in order of their
combining class, and what composes is put together again. Every character of mapped text is itself
composed, so taking one apart only inverts the composition table.
-/

namespace AboutPages.Domain

open Text

def combiningClass (c : Char) : Nat :=
  let n := c.toNat
  (combiningRows.findSome? fun
    | [first, last, value] => if first ≤ n ∧ n ≤ last then some value else none
    | _ => none).getD 0

/-- First code point of the leading consonants, vowels, trailing consonants and syllables. -/
def hangulLead : Nat := 0x1100
def hangulVowel : Nat := 0x1161
def hangulTrail : Nat := 0x11A7
def hangulSyllable : Nat := 0xAC00

def hangulParts? (n : Nat) : Option (List Nat) :=
  if hangulSyllable ≤ n ∧ n < hangulSyllable + 19 * 21 * 28 then
    let i := n - hangulSyllable
    let pair := [hangulLead + i / (21 * 28), hangulVowel + i % (21 * 28) / 28]
    some (if i % 28 = 0 then pair else pair ++ [hangulTrail + i % 28])
  else none

def hangulJoin? (a b : Nat) : Option Nat :=
  if hangulLead ≤ a ∧ a < hangulLead + 19 ∧ hangulVowel ≤ b ∧ b < hangulVowel + 21 then
    some (hangulSyllable + ((a - hangulLead) * 21 + (b - hangulVowel)) * 28)
  else if hangulSyllable ≤ a ∧ a < hangulSyllable + 19 * 21 * 28 ∧
      (a - hangulSyllable) % 28 = 0 ∧ hangulTrail < b ∧ b < hangulTrail + 28 then
    some (a + (b - hangulTrail))
  else none

def compose? (a b : Char) : Option Char :=
  match hangulJoin? a.toNat b.toNat with
  | some n => some (Char.ofNat n)
  | none =>
      compositionRows.findSome? fun
        | [first, second, whole] =>
            if first = a.toNat ∧ second = b.toNat then some (Char.ofNat whole) else none
        | _ => none

/-- A character taken apart. No table entry is nested deeper than `depth`. -/
def decompose : (depth : Nat) → Nat → List Nat
  | 0, n => [n]
  | depth + 1, n =>
      match hangulParts? n with
      | some parts => parts
      | none =>
          match compositionRows.find? (fun row => row.getLast? == some n) with
          | some (first :: second :: _) => decompose depth first ++ [second]
          | _ => [n]

/-- Place a mark behind the marks of its own and lower classes. -/
def insertMark (mark : Char) : List Char → List Char
  | [] => [mark]
  | c :: rest =>
      if combiningClass mark < combiningClass c then mark :: c :: rest
      else c :: insertMark mark rest

/-- Put each stretch of marks in order; `marks` is the stretch being collected. -/
def orderFrom (marks : List Char) : List Char → List Char
  | [] => marks
  | c :: rest =>
      if combiningClass c = 0 then marks ++ c :: orderFrom [] rest
      else orderFrom (insertMark c marks) rest

/-- Compose onto `starter`; `pending` holds the marks since then that did not compose, newest
first. -/
def composeOnto (starter : Char) (pending : List Char) : List Char → List Char
  | [] => starter :: pending.reverse
  | c :: rest =>
      let free := pending.head?.all fun mark => decide (combiningClass mark < combiningClass c)
      match (if free then compose? starter c else none) with
      | some whole => composeOnto whole pending rest
      | none =>
          if combiningClass c = 0 then starter :: pending.reverse ++ composeOnto c [] rest
          else composeOnto starter (c :: pending) rest

/-- Compose from the first character that is no mark. -/
def composeFrom : List Char → List Char
  | [] => []
  | c :: rest => if combiningClass c = 0 then composeOnto c [] rest else c :: composeFrom rest

def composed (cs : List Char) : List Char :=
  composeFrom (orderFrom [] ((cs.flatMap fun c => decompose 4 c.toNat).map Char.ofNat))

end AboutPages.Domain
