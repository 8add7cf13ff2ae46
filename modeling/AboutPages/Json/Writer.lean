/-!
# Writing JSON

Strings, and lists of strings as a field of an object that is indented by two spaces.
-/

namespace AboutPages.Json

def twoHex (n : Nat) : List Char :=
  [Nat.digitChar (n / 16 % 16), Nat.digitChar (n % 16)]

/-- A character inside a string; only quotes, backslashes and controls below the space need an
escape. -/
def escapeChar (c : Char) : List Char :=
  if c = '"' then ['\\', '"']
  else if c = '\\' then ['\\', '\\']
  else if c = '\x08' then ['\\', 'b']
  else if c = '\x0c' then ['\\', 'f']
  else if c = '\n' then ['\\', 'n']
  else if c = '\r' then ['\\', 'r']
  else if c = '\t' then ['\\', 't']
  else if c.toNat < 0x20 then ['\\', 'u', '0', '0'] ++ twoHex c.toNat
  else [c]

def string (text : String) : String :=
  String.ofList ('"' :: text.toList.flatMap escapeChar ++ ['"'])

/-- Strings on lines of their own, indented below a field. -/
def strings : List String → String
  | [] => "[]"
  | items => "[\n    " ++ String.intercalate ",\n    " (items.map string) ++ "\n  ]"

end AboutPages.Json
