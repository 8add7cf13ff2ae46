import AboutPages.Text.Digits
import AboutPages.Text.Split

/-!
# Numeric hosts

A host that ends in a number is an IPv4 address in up to four parts, each decimal, octal after a
zero, or hexadecimal; the last part fills the bytes that remain. A host in square brackets is an
IPv6 address.
-/

namespace AboutPages.Target

open Text

def ipv4Number? : List Char → Option Nat
  | [] => none
  | '0' :: 'x' :: digits => if digits.all isHexDigit then some (numeral 16 digits) else none
  | '0' :: 'X' :: digits => if digits.all isHexDigit then some (numeral 16 digits) else none
  | '0' :: d :: digits =>
      if (d :: digits).all (fun c => decide ('0' ≤ c ∧ c ≤ '7')) then
        some (numeral 8 (d :: digits))
      else none
  | digits => if digits.all Char.isDigit then some (numeral 10 digits) else none

def withoutTrailingEmpty (parts : List (List Char)) : List (List Char) :=
  if parts.getLast? = some [] then parts.dropLast else parts

/-- The last part, one trailing dot ignored, is made of digits or is a number. -/
def endsInNumber (parts : List (List Char)) : Bool :=
  match (withoutTrailingEmpty parts).getLast? with
  | some last => !last.isEmpty && last.all Char.isDigit || (ipv4Number? last).isSome
  | none => false

def isIpv4 (parts : List (List Char)) : Bool :=
  let parts := withoutTrailingEmpty parts
  match parts.mapM ipv4Number? with
  | some numbers =>
      decide (numbers.length ≤ 4) &&
      numbers.dropLast.all (fun n => decide (n ≤ 255)) &&
      numbers.getLast?.all (fun n => decide (n < Nat.pow 256 (5 - numbers.length)))
  | none => false

def isOctet (digits : List Char) : Bool :=
  !digits.isEmpty && digits.all Char.isDigit &&
    (decide (digits.length = 1) || !digits.head?.any (· == '0')) &&
    decide (numeral 10 digits ≤ 255)

def isDottedQuad (text : List Char) : Bool :=
  let parts := pieces '.' text
  decide (parts.length = 4) && parts.all isOctet

/-- Read 16-bit groups; `count` are read so far, and `compressed` says that a double colon stands
among them. Each step takes at least one character. -/
def ipv6Groups : (fuel : Nat) → (count : Nat) → (compressed : Bool) → List Char → Bool
  | _, count, compressed, [] => compressed || decide (count = 8)
  | 0, _, _, _ :: _ => false
  | fuel + 1, count, compressed, c :: rest =>
      if count = 8 then false
      else if c = ':' then !compressed && ipv6Groups fuel (count + 1) true rest
      else
        let text := c :: rest
        let digits := (text.take 4).takeWhile isHexDigit
        match text.drop digits.length with
        | [] => ipv6Groups fuel (count + 1) compressed []
        | '.' :: _ =>
            !digits.isEmpty && decide (count ≤ 6) && isDottedQuad text &&
              (compressed || decide (count = 6))
        | [':'] => false
        | ':' :: more => ipv6Groups fuel (count + 1) compressed more
        | _ => false

def isIpv6 (text : List Char) : Bool :=
  match text with
  | ':' :: ':' :: rest => ipv6Groups rest.length 1 true rest
  | ':' :: _ => false
  | [] => false
  | [_] => false
  | _ => ipv6Groups text.length 0 false text

end AboutPages.Target
