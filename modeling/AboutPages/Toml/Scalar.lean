import AboutPages.Text.Digits
import AboutPages.Text.Split
import AboutPages.Toml.Value

/-!
# Bare scalars

Numbers, points in time and the words for truth values are written without quotes. Each form is a
test on the whole of the written text.
-/

namespace AboutPages.Toml

open Text

def isBareChar (c : Char) : Bool :=
  c.isAlphanum || decide (c ∈ ['+', '-', '_', '.', ':'])

/-- Digits of a kind, with single underscores only between them. -/
def isGrouped (digit : Char → Bool) (cs : List Char) : Bool :=
  (pieces '_' cs).all fun piece => !piece.isEmpty && piece.all digit

def spelled (base : Nat) (cs : List Char) : Nat :=
  numeral base (cs.filter fun c => decide (c ≠ '_'))

def isOctal (c : Char) : Bool := decide ('0' ≤ c ∧ c ≤ '7')

def isBinary (c : Char) : Bool := decide (c = '0' ∨ c = '1')

/-- The text behind a sign, and whether the sign was a minus. -/
def unsigned : List Char → Bool × List Char
  | '+' :: rest => (false, rest)
  | '-' :: rest => (true, rest)
  | cs => (false, cs)

/-- Grouped decimal digits; a zero stands only alone. -/
def isWhole (cs : List Char) : Bool :=
  isGrouped Char.isDigit cs && (decide (cs = ['0']) || !cs.head?.any (· == '0'))

def inRange (n : Int) : Option Value :=
  if -9223372036854775808 ≤ n ∧ n ≤ 9223372036854775807 then some (.integer n) else none

def basedInteger? (base : Nat) (digit : Char → Bool) (cs : List Char) : Option Value :=
  if isGrouped digit cs then inRange (spelled base cs) else none

def integer? (cs : List Char) : Option Value :=
  match cs with
  | '0' :: 'x' :: digits => basedInteger? 16 isHexDigit digits
  | '0' :: 'o' :: digits => basedInteger? 8 isOctal digits
  | '0' :: 'b' :: digits => basedInteger? 2 isBinary digits
  | _ =>
      let (negative, digits) := unsigned cs
      if isWhole digits then
        inRange (if negative then -(spelled 10 digits : Int) else spelled 10 digits)
      else none

/-- The number `mantissa · 10 ^ exponent` rounds to an infinite binary64 number: it is at least
halfway from the largest finite one to the next power of two. -/
def overflows (mantissa : Nat) (exponent : Int) : Bool :=
  let bound := (Nat.pow 2 54 - 1) * Nat.pow 2 970
  let digits := (Nat.toDigits 10 mantissa).length
  if mantissa = 0 then false
  else if 310 < digits + exponent then true
  else if digits + exponent < 300 then false
  else if 0 ≤ exponent then decide (bound ≤ mantissa * Nat.pow 10 exponent.toNat)
  else decide (bound * Nat.pow 10 (-exponent).toNat ≤ mantissa)

def isExponentMark (c : Char) : Bool := decide (c = 'e' ∨ c = 'E')

def exponent? (cs : List Char) : Option Int :=
  match cs with
  | [] => some 0
  | _ :: rest =>
      let (negative, digits) := unsigned rest
      if isGrouped Char.isDigit digits then
        some (if negative then -(spelled 10 digits : Int) else spelled 10 digits)
      else none

/-- A number with a fraction, an exponent or both, finite unless it is negative. -/
def fractional? (cs : List Char) : Option Value := do
  let (negative, body) := unsigned cs
  let mantissa := body.takeWhile fun c => !isExponentMark c
  let exponent ← exponent? (body.dropWhile fun c => !isExponentMark c)
  let value ←
    match pieces '.' mantissa with
    | [whole] => if isWhole whole && body.any isExponentMark then some (whole, []) else none
    | [whole, fraction] =>
        if isWhole whole && isGrouped Char.isDigit fraction then some (whole, fraction) else none
    | _ => none
  let places := (value.2.filter Char.isDigit).length
  if !negative && overflows (spelled 10 (value.1 ++ value.2)) (exponent - places) then none
  else some (.float (String.ofList cs))

def float? (cs : List Char) : Option Value :=
  let word := String.ofList (unsigned cs).2
  if word = "inf" ∨ word = "nan" then some (.float (String.ofList cs)) else fractional? cs

def fixedDigits? (count : Nat) (cs : List Char) : Option Nat :=
  if cs.length = count ∧ cs.all Char.isDigit then some (numeral 10 cs) else none

def daysInMonth (year month : Nat) : Nat :=
  if month = 2 then
    if year % 4 = 0 ∧ (year % 100 ≠ 0 ∨ year % 400 = 0) then 29 else 28
  else if month ∈ [4, 6, 9, 11] then 30
  else 31

def isDate (cs : List Char) : Bool :=
  match pieces '-' cs with
  | [y, m, d] =>
      match fixedDigits? 4 y, fixedDigits? 2 m, fixedDigits? 2 d with
      | some year, some month, some day =>
          decide (1 ≤ month ∧ month ≤ 12 ∧ 1 ≤ day ∧ day ≤ daysInMonth year month)
      | _, _, _ => false
  | _ => false

def isHourMinute (cs : List Char) : Bool :=
  match pieces ':' cs with
  | [h, m] =>
      (fixedDigits? 2 h).any (fun hour => decide (hour ≤ 23)) &&
        (fixedDigits? 2 m).any (fun minute => decide (minute ≤ 59))
  | _ => false

/-- Seconds, of which a leap minute has sixty-one, with any number of decimals. -/
def isSecond (cs : List Char) : Bool :=
  match pieces '.' cs with
  | [s] => (fixedDigits? 2 s).any fun second => decide (second ≤ 60)
  | [s, fraction] =>
      (fixedDigits? 2 s).any (fun second => decide (second ≤ 60)) &&
        !fraction.isEmpty && fraction.all Char.isDigit
  | _ => false

def isTime (cs : List Char) : Bool :=
  isHourMinute (cs.take 5) && decide ((cs.drop 5).head? = some ':') && isSecond (cs.drop 6)

def isOffset : List Char → Bool
  | [] => true
  | ['Z'] => true
  | ['z'] => true
  | '+' :: rest => isHourMinute rest
  | '-' :: rest => isHourMinute rest
  | _ => false

def isTimeOffset (cs : List Char) : Bool :=
  let time := cs.takeWhile fun c => decide (c.isDigit ∨ c = ':' ∨ c = '.')
  isTime time && isOffset (cs.drop time.length)

def isMoment (cs : List Char) : Bool :=
  isTime cs || isDate cs ||
    (isDate (cs.take 10) && decide ((cs.drop 10).head? ∈ [some 'T', some 't', some ' ']) &&
      isTimeOffset (cs.drop 11))

def scalar? (cs : List Char) : Option Value :=
  if cs = ['t', 'r', 'u', 'e'] then some (.boolean true)
  else if cs = ['f', 'a', 'l', 's', 'e'] then some (.boolean false)
  else if isMoment cs then some (.moment (String.ofList cs))
  else (float? cs).or (integer? cs)

/-- Split a bare scalar off the front. A day may be followed by a space and a time of day. -/
def takeScalar (cs : List Char) : List Char × List Char :=
  let word := cs.takeWhile isBareChar
  let rest := cs.drop word.length
  match rest with
  | ' ' :: next :: _ =>
      if isDate word && next.isDigit then
        let time := (rest.drop 1).takeWhile isBareChar
        (word ++ ' ' :: time, (rest.drop 1).drop time.length)
      else (word, rest)
  | _ => (word, rest)

end AboutPages.Toml
