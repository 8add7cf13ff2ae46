/-!
# Bytes and text

Arguments, paths and file contents are bytes. They are text when they are well-formed UTF-8; where
they have to be shown in any case, each ill-formed stretch shows as one replacement character.
-/

namespace AboutPages.Text

abbrev Bytes := List UInt8

def utf8 (text : String) : Bytes := text.toUTF8.toList

def ofUtf8? (bytes : Bytes) : Option String := String.fromUTF8? ⟨bytes.toArray⟩

/-- How many bytes a character with this first byte has, and the least and greatest second byte;
nothing if no character starts so. -/
def sequenceShape? (lead : UInt8) : Option (Nat × UInt8 × UInt8) :=
  if lead < 0x80 then some (1, 0x80, 0xBF)
  else if lead < 0xC2 then none
  else if lead < 0xE0 then some (2, 0x80, 0xBF)
  else if lead = 0xE0 then some (3, 0xA0, 0xBF)
  else if lead = 0xED then some (3, 0x80, 0x9F)
  else if lead < 0xF0 then some (3, 0x80, 0xBF)
  else if lead = 0xF0 then some (4, 0x90, 0xBF)
  else if lead < 0xF4 then some (4, 0x80, 0xBF)
  else if lead = 0xF4 then some (4, 0x80, 0x8F)
  else none

/-- The further bytes of a character, at most `count`, as far as they fit. -/
def continuation (count : Nat) (low high : UInt8) : Bytes → Bytes
  | [] => []
  | b :: rest =>
      match count with
      | 0 => []
      | count + 1 =>
          if low ≤ b ∧ b ≤ high then b :: continuation count 0x80 0xBF rest else []

/-- The text for display: each longest stretch that begins no character, or only the front of one,
becomes a replacement character. Each step takes at least one byte. -/
def displayedFrom : (fuel : Nat) → Bytes → List Char
  | _, [] => []
  | 0, _ :: _ => []
  | fuel + 1, lead :: rest =>
      match sequenceShape? lead with
      | none => '�' :: displayedFrom fuel rest
      | some (size, low, high) =>
          let more := continuation (size - 1) low high rest
          let here :=
            if more.length + 1 = size then
              match ofUtf8? (lead :: more) with
              | some text => text.toList
              | none => ['�']
            else ['�']
          here ++ displayedFrom fuel (rest.drop more.length)

def displayed (bytes : Bytes) : String :=
  match ofUtf8? bytes with
  | some text => text
  | none => String.ofList (displayedFrom bytes.length bytes)

end AboutPages.Text
