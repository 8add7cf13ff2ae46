import AboutPages.Text.Graphic

/-!
# Quoted text

A text between double quotes on one line: quotes, backslashes and the usual controls are escaped by
a letter, and every character without a picture of its own by its code point in hexadecimal.
-/

namespace AboutPages.Text

/-- A code point as a backslash, the letter u, and lower-case hexadecimal digits in braces. -/
def escapeCode (c : Char) : List Char :=
  ['\\', 'u', '\x7b'] ++ Nat.toDigits 16 c.toNat ++ ['\x7d']

def quoteChar (c : Char) : List Char :=
  if c = '\x00' then ['\\', '0']
  else if c = '\t' then ['\\', 't']
  else if c = '\n' then ['\\', 'n']
  else if c = '\r' then ['\\', 'r']
  else if c = '"' then ['\\', '"']
  else if c = '\\' then ['\\', '\\']
  else if isGraphic c then [c]
  else escapeCode c

def quoted (text : String) : String :=
  String.ofList ('"' :: text.toList.flatMap quoteChar ++ ['"'])

def quotedList (items : List String) : String :=
  "[" ++ String.intercalate ", " (items.map quoted) ++ "]"

end AboutPages.Text
