import AboutPages.Proofs.Json.Reader

/-!
# The grammar of JSON

Which texts are JSON, and what they mean: a relation between what is written and the value that it
spells, rule by rule as the format is defined. A string is a sequence of characters, so the escape
of half a character spells nothing; the definition leaves open what it would mean.
-/

namespace AboutPages.Json

open Text

/-! ## Strings -/

def letterEscapes : List (Char × Char) :=
  [('"', '"'), ('\\', '\\'), ('/', '/'), ('b', '\x08'), ('f', '\x0c'), ('n', '\n'), ('r', '\r'),
    ('t', '\t')]

structure SpellsUnit (written : List Char) (n : Nat) : Prop where
  length_eq : written.length = 4
  digits : ∀ c ∈ written, isHexDigit c = true
  numeral_eq : numeral 16 written = n

/-- The ways to write a character inside a string: as it is, by a letter, by its number, and by a
pair of numbers if one is not enough. -/
inductive SpellsChar : List Char → Char → Prop where
  | plain {c : Char} (hquote : c ≠ '"') (hbackslash : c ≠ '\\') (hprintable : 0x20 ≤ c.toNat) :
      SpellsChar [c] c
  | letter {letter c : Char} (hletter : (letter, c) ∈ letterEscapes) : SpellsChar ['\\', letter] c
  | unit {digits : List Char} {n : Nat} (hdigits : SpellsUnit digits n)
      (hwhole : n < 0xD800 ∨ 0xE000 ≤ n) : SpellsChar ('\\' :: 'u' :: digits) (Char.ofNat n)
  | pair {high low : List Char} {m n : Nat} (hhigh : SpellsUnit high m)
      (hfirst : 0xD800 ≤ m ∧ m < 0xDC00) (hlow : SpellsUnit low n)
      (hsecond : 0xDC00 ≤ n ∧ n < 0xE000) :
      SpellsChar ('\\' :: 'u' :: (high ++ '\\' :: 'u' :: low))
        (Char.ofNat (0x10000 + (m - 0xD800) * 0x400 + (n - 0xDC00)))

inductive SpellsChars : List Char → List Char → Prop where
  | nil : SpellsChars [] []
  | cons {written more : List Char} {c : Char} {cs : List Char} (hfirst : SpellsChar written c)
      (hmore : SpellsChars more cs) : SpellsChars (written ++ more) (c :: cs)

inductive SpellsString : List Char → String → Prop where
  | quoted {inside cs : List Char} (hinside : SpellsChars inside cs) :
      SpellsString ('"' :: (inside ++ ['"'])) (String.ofList cs)

/-! ## Numbers -/

structure IsDigits (written : List Char) : Prop where
  nonempty : written ≠ []
  digits : ∀ c ∈ written, c.isDigit = true

inductive IsWholePart : List Char → Prop where
  | zero : IsWholePart ['0']
  | positive {first : Char} {more : List Char} (hdigit : first.isDigit = true)
      (hnonzero : first ≠ '0') (hmore : ∀ c ∈ more, c.isDigit = true) : IsWholePart (first :: more)

inductive IsFraction : List Char → Prop where
  | absent : IsFraction []
  | present {digits : List Char} (hdigits : IsDigits digits) : IsFraction ('.' :: digits)

inductive IsExponent : List Char → Prop where
  | absent : IsExponent []
  | present {mark : Char} {sign digits : List Char} (hmark : mark = 'e' ∨ mark = 'E')
      (hsign : sign ∈ [[], ['+'], ['-']]) (hdigits : IsDigits digits) :
      IsExponent (mark :: (sign ++ digits))

inductive IsNumber : List Char → Prop where
  | parts {sign whole fraction exponent : List Char} (hsign : sign ∈ [[], ['-']])
      (hwhole : IsWholePart whole) (hfraction : IsFraction fraction)
      (hexponent : IsExponent exponent) : IsNumber (sign ++ (whole ++ (fraction ++ exponent)))

/-! ## Values -/

def IsGap (gap : List Char) : Prop := ∀ c ∈ gap, isSpace c = true

section Parts

variable {α : Type} (spells : List Char → α → Prop)

inductive Padded : List Char → α → Prop where
  | between {before written after : List Char} {a : α} (hbefore : IsGap before)
      (hwritten : spells written a) (hafter : IsGap after) :
      Padded (before ++ (written ++ after)) a

inductive Separated : List Char → List α → Prop where
  | one {written : List Char} {a : α} (hwritten : spells written a) : Separated written [a]
  | more {written rest : List Char} {a : α} {as : List α} (hwritten : spells written a)
      (hrest : Separated rest as) : Separated (written ++ ',' :: rest) (a :: as)

inductive Keyed : List Char → String × α → Prop where
  | pair {front back : List Char} {key : String} {a : α} (hkey : Padded SpellsString front key)
      (hback : Padded spells back a) : Keyed (front ++ ':' :: back) (key, a)

end Parts

/-- A text spells a value, with no gap before or behind it. -/
inductive Spells : List Char → Value → Prop where
  | null : Spells "null".toList .null
  | boolean (b : Bool) : Spells (if b then "true" else "false").toList (.boolean b)
  | number {written : List Char} (hnumber : IsNumber written) :
      Spells written (.number (String.ofList written))
  | string {written : List Char} {text : String} (hstring : SpellsString written text) :
      Spells written (.string text)
  | emptyArray {gap : List Char} (hgap : IsGap gap) : Spells ('[' :: (gap ++ [']'])) (.array [])
  | array {written : List Char} {items : List Value}
      (hitems : Separated (Padded Spells) written items) :
      Spells ('[' :: (written ++ [']'])) (.array items)
  | emptyObject {gap : List Char} (hgap : IsGap gap) :
      Spells ('\x7b' :: (gap ++ ['\x7d'])) (.object [])
  | object {written : List Char} {fields : List (String × Value)}
      (hfields : Separated (Keyed Spells) written fields) :
      Spells ('\x7b' :: (written ++ ['\x7d'])) (.object fields)

/-- The text is a JSON document: a value with gaps around it. -/
def IsDocument (text : String) (value : Value) : Prop := Padded Spells text.toList value

end AboutPages.Json
