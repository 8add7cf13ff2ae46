import AboutPages.Json.Writer
import AboutPages.Proofs.Text.Split
import AboutPages.Text.Digits

/-!
# Reading JSON

A reader for JSON texts of every kind, not only for those that are written here. What the writer
makes of a string, or of a list of strings, is read back as it was, whatever follows it.
-/

namespace AboutPages.Json

open Text

/-- A JSON value. Numbers are checked and then kept as they were written; the fields of an object
are kept in their order. -/
inductive Value where
  | null
  | boolean (value : Bool)
  | number (written : String)
  | string (text : String)
  | array (items : List Value)
  | object (fields : List (String × Value))
  deriving Repr

abbrev Reader (α : Type) := List Char → Option (α × List Char)

def isSpace (c : Char) : Bool := decide (c = ' ' ∨ c = '\t' ∨ c = '\n' ∨ c = '\r')

def skipSpaces (cs : List Char) : List Char := cs.dropWhile isSpace

/-! ## Strings -/

def unit? : Reader Nat
  | a :: b :: c :: d :: rest =>
      if [a, b, c, d].all isHexDigit then some (numeral 16 [a, b, c, d], rest) else none
  | _ => none

/-- The character of a numbered escape. A character beyond the first 65536 takes two escapes; half
of such a pair is no character. -/
def numbered? (cs : List Char) : Option (Char × List Char) := do
  let (first, rest) ← unit? cs
  if 0xD800 ≤ first ∧ first < 0xDC00 then
    match rest with
    | '\\' :: 'u' :: rest => do
        let (second, rest) ← unit? rest
        if 0xDC00 ≤ second ∧ second < 0xE000 then
          some (Char.ofNat (0x10000 + (first - 0xD800) * 0x400 + (second - 0xDC00)), rest)
        else none
    | _ => none
  else if 0xDC00 ≤ first ∧ first < 0xE000 then none
  else some (Char.ofNat first, rest)

/-- The character that an escape stands for; the backslash is taken off already. -/
def escape? : Reader Char
  | '"' :: rest => some ('"', rest)
  | '\\' :: rest => some ('\\', rest)
  | '/' :: rest => some ('/', rest)
  | 'b' :: rest => some ('\x08', rest)
  | 'f' :: rest => some ('\x0c', rest)
  | 'n' :: rest => some ('\n', rest)
  | 'r' :: rest => some ('\r', rest)
  | 't' :: rest => some ('\t', rest)
  | 'u' :: rest => numbered? rest
  | _ => none

/-- The characters up to the closing quote. A step takes at least one character. -/
def characters : (fuel : Nat) → Reader (List Char)
  | 0, _ => none
  | _ + 1, [] => none
  | fuel + 1, c :: rest =>
      if c = '"' then some ([], rest)
      else if c = '\\' then do
        let (d, rest) ← escape? rest
        let (text, rest) ← characters fuel rest
        some (d :: text, rest)
      else if c.toNat < 0x20 then none
      else do
        let (text, rest) ← characters fuel rest
        some (c :: text, rest)

def string? : Reader String
  | '"' :: rest => (characters (rest.length + 1) rest).map fun r => (String.ofList r.1, r.2)
  | _ => none

/-! ## Words and numbers -/

def isDigits (cs : List Char) : Bool := !cs.isEmpty && cs.all Char.isDigit

def isWhole (cs : List Char) : Bool :=
  isDigits cs && (decide (cs.length = 1) || decide (cs.head? ≠ some '0'))

def isMantissa (cs : List Char) : Bool :=
  match pieces '.' cs with
  | [whole] => isWhole whole
  | [whole, fraction] => isWhole whole && isDigits fraction
  | _ => false

def isExponent : List Char → Bool
  | [] => true
  | _ :: '+' :: digits => isDigits digits
  | _ :: '-' :: digits => isDigits digits
  | _ :: digits => isDigits digits

def isNumber (cs : List Char) : Bool :=
  let body := if cs.head? = some '-' then cs.drop 1 else cs
  let mantissa := body.takeWhile fun c => decide (c ≠ 'e' ∧ c ≠ 'E')
  isMantissa mantissa && isExponent (body.drop mantissa.length)

def isWordChar (c : Char) : Bool := c.isAlphanum || decide (c = '+' ∨ c = '-' ∨ c = '.')

def word? (cs : List Char) : Option (Value × List Char) :=
  let word := cs.takeWhile isWordChar
  let rest := cs.drop word.length
  if word = "null".toList then some (.null, rest)
  else if word = "true".toList then some (.boolean true, rest)
  else if word = "false".toList then some (.boolean false, rest)
  else if isNumber word then some (.number (String.ofList word), rest)
  else none

/-! ## Values -/

mutual

/-- A value, with spaces in front. A step takes at least one character. -/
def value : (fuel : Nat) → Reader Value
  | 0, _ => none
  | fuel + 1, cs =>
      match skipSpaces cs with
      | '"' :: rest => (string? ('"' :: rest)).map fun r => (.string r.1, r.2)
      | '[' :: rest =>
          match skipSpaces rest with
          | ']' :: rest => some (.array [], rest)
          | rest => (items fuel rest).map fun r => (.array r.1, r.2)
      | '\x7b' :: rest =>
          match skipSpaces rest with
          | '\x7d' :: rest => some (.object [], rest)
          | rest => (members fuel rest).map fun r => (.object r.1, r.2)
      | rest => word? rest

def items : (fuel : Nat) → Reader (List Value)
  | 0, _ => none
  | fuel + 1, cs => do
      let (item, rest) ← value fuel cs
      match skipSpaces rest with
      | ',' :: rest => do
          let (more, rest) ← items fuel rest
          some (item :: more, rest)
      | ']' :: rest => some ([item], rest)
      | _ => none

def members : (fuel : Nat) → Reader (List (String × Value))
  | 0, _ => none
  | fuel + 1, cs => do
      let (key, rest) ← string? (skipSpaces cs)
      match skipSpaces rest with
      | ':' :: rest => do
          let (item, rest) ← value fuel rest
          match skipSpaces rest with
          | ',' :: rest => do
              let (more, rest) ← members fuel rest
              some ((key, item) :: more, rest)
          | '\x7d' :: rest => some ([(key, item)], rest)
          | _ => none
      | _ => none

end

def parse (text : String) : Option Value := do
  let (result, rest) ← value (text.toList.length + 1) text.toList
  if (skipSpaces rest).isEmpty then some result else none

/-! ## Strings read back -/

/-- The two digits of a control character, behind two zeros, are read as its number. -/
theorem unit?_twoHex {n : Nat} (hlt : n < 0x20) (rest : List Char) :
    unit? ('0' :: '0' :: (twoHex n ++ rest)) = some (n, rest) := by
  have hdigits : ∀ n < 0x20,
      (['0', '0'] ++ twoHex n).all isHexDigit = true ∧ numeral 16 (['0', '0'] ++ twoHex n) = n := by
    decide
  obtain ⟨hhex, hvalue⟩ := hdigits n hlt
  simp only [twoHex, List.cons_append, List.nil_append] at hhex hvalue ⊢
  rw [unit?, if_pos hhex, hvalue]

theorem numbered?_twoHex {c : Char} (hlt : c.toNat < 0x20) (rest : List Char) :
    numbered? ('0' :: '0' :: (twoHex c.toNat ++ rest)) = some (c, rest) := by
  have hhigh : ¬(0xD800 ≤ c.toNat ∧ c.toNat < 0xDC00) := by omega
  have hlow : ¬(0xDC00 ≤ c.toNat ∧ c.toNat < 0xE000) := by omega
  simp only [numbered?, unit?_twoHex hlt, bind, Option.bind, if_neg hhigh, if_neg hlow,
    Char.ofNat_toNat]

theorem characters_of_escape {fuel : Nat} {written rest : List Char} {c : Char}
    (hread : escape? written = some (c, rest)) :
    characters (fuel + 1) ('\\' :: written) =
      (characters fuel rest).map fun r => (c :: r.1, r.2) := by
  have hbackslash : ('\\' : Char) ≠ '"' := by decide
  rw [characters, if_neg hbackslash, if_pos rfl, hread]
  cases hlater : characters fuel rest <;> simp [hlater]

theorem characters_of_plain {fuel : Nat} {rest : List Char} {c : Char} (hquote : c ≠ '"')
    (hbackslash : c ≠ '\\') (hprintable : ¬c.toNat < 0x20) :
    characters (fuel + 1) (c :: rest) = (characters fuel rest).map fun r => (c :: r.1, r.2) := by
  rw [characters, if_neg hquote, if_neg hbackslash, if_neg hprintable]
  cases characters fuel rest <;> rfl

theorem characters_escapeChar (fuel : Nat) (c : Char) (rest : List Char) :
    characters (fuel + 1) (escapeChar c ++ rest) =
      (characters fuel rest).map fun r => (c :: r.1, r.2) := by
  unfold escapeChar
  split
  · subst_vars
    exact characters_of_escape rfl
  split
  · subst_vars
    exact characters_of_escape rfl
  split
  · subst_vars
    exact characters_of_escape rfl
  split
  · subst_vars
    exact characters_of_escape rfl
  split
  · subst_vars
    exact characters_of_escape rfl
  split
  · subst_vars
    exact characters_of_escape rfl
  split
  · subst_vars
    exact characters_of_escape rfl
  split
  · rename_i hcontrol
    exact characters_of_escape (numbered?_twoHex hcontrol rest)
  · rename_i hquote hbackslash _ _ _ _ _ hprintable
    exact characters_of_plain hquote hbackslash hprintable

theorem characters_written {text : List Char} {fuel : Nat} (hfuel : text.length < fuel)
    (rest : List Char) :
    characters fuel (text.flatMap escapeChar ++ '"' :: rest) = some (text, rest) := by
  induction text generalizing fuel with
  | nil =>
      cases fuel with
      | zero => simp at hfuel
      | succ fuel => rfl
  | cons c more ih =>
      cases fuel with
      | zero => simp at hfuel
      | succ fuel =>
          have hmore : more.length < fuel := by simpa using hfuel
          rw [List.flatMap_cons, List.append_assoc, characters_escapeChar, ih hmore]
          rfl

theorem length_le_flatMap_escapeChar (text : List Char) :
    text.length ≤ (text.flatMap escapeChar).length := by
  induction text with
  | nil => simp
  | cons c more ih =>
      have hone : 1 ≤ (escapeChar c).length := by
        unfold escapeChar
        repeat' split
        all_goals simp
      rw [List.flatMap_cons, List.length_append, List.length_cons]
      omega

theorem toList_string (text : String) :
    (string text).toList = '"' :: (text.toList.flatMap escapeChar ++ ['"']) := by
  simp [string]

theorem string?_string (text : String) (rest : List Char) :
    string? ((string text).toList ++ rest) = some (text, rest) := by
  have hfuel : text.toList.length <
      (text.toList.flatMap escapeChar ++ '"' :: rest).length + 1 := by
    have hlength := length_le_flatMap_escapeChar text.toList
    simp only [List.length_append, List.length_cons]
    omega
  rw [toList_string, List.cons_append, List.append_assoc, List.singleton_append, string?,
    characters_written hfuel]
  simp

/-! ## Spaces -/

theorem skipSpaces_append {gap : List Char} (hgap : ∀ c ∈ gap, isSpace c = true)
    (cs : List Char) : skipSpaces (gap ++ cs) = skipSpaces cs :=
  List.dropWhile_append_of_pos hgap

theorem skipSpaces_cons {c : Char} (hspace : isSpace c = false) (cs : List Char) :
    skipSpaces (c :: cs) = c :: cs := by
  rw [skipSpaces, List.dropWhile_cons, hspace]
  rfl

theorem skipSpaces_string (text : String) (rest : List Char) :
    skipSpaces ((string text).toList ++ rest) = (string text).toList ++ rest := by
  rw [toList_string, List.cons_append]
  exact skipSpaces_cons (by decide) _

theorem exists_skipSpaces_string {gap : List Char} (hgap : ∀ c ∈ gap, isSpace c = true)
    (text : String) (rest : List Char) :
    ∃ tail, skipSpaces (gap ++ ((string text).toList ++ rest)) = '"' :: tail := by
  rw [skipSpaces_append hgap, skipSpaces_string, toList_string, List.cons_append]
  exact ⟨_, rfl⟩

theorem value_append {gap : List Char} (hgap : ∀ c ∈ gap, isSpace c = true) (fuel : Nat)
    (cs : List Char) : value fuel (gap ++ cs) = value fuel cs := by
  cases fuel with
  | zero => rw [value, value]
  | succ fuel => rw [value, value, skipSpaces_append hgap]

/-! ## Values read back -/

/-- The text is read as the value, whatever follows it, with so much fuel or more. -/
def Reads (size : Nat) (written : List Char) (result : Value) : Prop :=
  ∀ fuel rest, size ≤ fuel → value fuel (written ++ rest) = some (result, rest)

theorem reads_string (text : String) : Reads 1 (string text).toList (.string text) := by
  intro fuel rest hfuel
  obtain ⟨fuel, rfl⟩ := Nat.exists_eq_add_of_le' hfuel
  have hread := string?_string text rest
  rw [value, skipSpaces_string]
  rw [toList_string, List.cons_append] at hread ⊢
  simp only [hread, Option.map_some]

section Steps

variable {fuel : Nat} {cs rest tail : List Char} {item : Value}

theorem items_append {gap : List Char} (hgap : ∀ c ∈ gap, isSpace c = true) (fuel : Nat)
    (cs : List Char) : items fuel (gap ++ cs) = items fuel cs := by
  cases fuel with
  | zero => rw [items, items]
  | succ fuel => rw [items, items, value_append hgap]

theorem items_of_comma (hvalue : value fuel cs = some (item, rest))
    (hrest : skipSpaces rest = ',' :: tail) :
    items (fuel + 1) cs = (items fuel tail).map fun r => (item :: r.1, r.2) := by
  rw [items, hvalue]
  simp only [bind, Option.bind, hrest]
  cases items fuel tail <;> rfl

theorem items_of_bracket (hvalue : value fuel cs = some (item, rest))
    (hrest : skipSpaces rest = ']' :: tail) : items (fuel + 1) cs = some ([item], tail) := by
  rw [items, hvalue]
  simp only [bind, Option.bind, hrest]

theorem members_append {gap : List Char} (hgap : ∀ c ∈ gap, isSpace c = true) (fuel : Nat)
    (cs : List Char) : members fuel (gap ++ cs) = members fuel cs := by
  cases fuel with
  | zero => rw [members, members]
  | succ fuel => rw [members, members, skipSpaces_append hgap]

theorem members_of_comma {key : String} {colon behind : List Char}
    (hkey : string? (skipSpaces cs) = some (key, colon)) (hcolon : skipSpaces colon = ':' :: behind)
    (hvalue : value fuel behind = some (item, rest)) (hrest : skipSpaces rest = ',' :: tail) :
    members (fuel + 1) cs = (members fuel tail).map fun r => ((key, item) :: r.1, r.2) := by
  rw [members, hkey]
  simp only [bind, Option.bind, hcolon, hvalue, hrest]
  cases members fuel tail <;> rfl

theorem members_of_brace {key : String} {colon behind : List Char}
    (hkey : string? (skipSpaces cs) = some (key, colon)) (hcolon : skipSpaces colon = ':' :: behind)
    (hvalue : value fuel behind = some (item, rest)) (hrest : skipSpaces rest = '\x7d' :: tail) :
    members (fuel + 1) cs = some ([(key, item)], tail) := by
  rw [members, hkey]
  simp only [bind, Option.bind, hcolon, hvalue, hrest]

theorem value_of_bracket (fuel : Nat) {c : Char} (hcs : skipSpaces cs = c :: tail) (hc : c ≠ ']') :
    value (fuel + 1) ('[' :: cs) = (items fuel cs).map fun r => (.array r.1, r.2) := by
  have hgap : ∀ c ∈ cs.takeWhile isSpace, isSpace c = true := List.all_eq_true.mp List.all_takeWhile
  have hitems : items fuel cs = items fuel (c :: tail) := by
    rw [← hcs, ← items_append hgap fuel (skipSpaces cs), skipSpaces,
      List.takeWhile_append_dropWhile]
  rw [value, skipSpaces_cons (by decide), hitems]
  simp only [hcs]
  split
  · rename_i heq
    exact absurd (List.cons.inj heq).1 hc
  · rfl

theorem value_of_brace (fuel : Nat) (hcs : skipSpaces cs = '"' :: tail) :
    value (fuel + 1) ('\x7b' :: cs) = (members fuel cs).map fun r => (.object r.1, r.2) := by
  have hgap : ∀ c ∈ cs.takeWhile isSpace, isSpace c = true := List.all_eq_true.mp List.all_takeWhile
  have hmembers : members fuel cs = members fuel ('"' :: tail) := by
    rw [← hcs, ← members_append hgap fuel (skipSpaces cs), skipSpaces,
      List.takeWhile_append_dropWhile]
  rw [value, skipSpaces_cons (by decide), hmembers]
  simp only [hcs]
  rfl

end Steps

/-! ## Lists of strings read back -/

section Layout

variable {gap close : List Char}

def furtherItems (gap : List Char) (more : List String) : List Char :=
  more.flatMap fun text => ',' :: (gap ++ (string text).toList)

theorem items_written (hgap : ∀ c ∈ gap, isSpace c = true) (hclose : ∀ c ∈ close, isSpace c = true)
    (first : String) (more : List String) (fuel : Nat) (hfuel : more.length + 2 ≤ fuel)
    (rest : List Char) :
    items fuel ((string first).toList ++ (furtherItems gap more ++ (close ++ ']' :: rest))) =
      some ((first :: more).map .string, rest) := by
  induction more generalizing first fuel with
  | nil =>
      obtain ⟨fuel, rfl⟩ := Nat.exists_eq_add_of_le' hfuel
      have hbracket : skipSpaces (close ++ ']' :: rest) = ']' :: rest := by
        rw [skipSpaces_append hclose, skipSpaces_cons (by decide)]
      have hvalue := reads_string first (fuel + 1) (close ++ ']' :: rest) (by omega)
      exact items_of_bracket hvalue hbracket
  | cons second more ih =>
      obtain ⟨fuel, rfl⟩ := Nat.exists_eq_add_of_le' hfuel
      let behind := (string second).toList ++ (furtherItems gap more ++ (close ++ ']' :: rest))
      have hfurther : furtherItems gap (second :: more) ++ (close ++ ']' :: rest) =
          ',' :: (gap ++ behind) := by
        simp [furtherItems, behind]
      have hcomma : skipSpaces (',' :: (gap ++ behind)) = ',' :: (gap ++ behind) :=
        skipSpaces_cons (by decide) _
      have hvalue :=
        reads_string first (fuel + more.length + 2) (',' :: (gap ++ behind)) (by omega)
      have hlater := ih second (fuel + more.length + 2) (by omega)
      rw [← items_append hgap] at hlater
      have hstep := items_of_comma hvalue hcomma
      rw [hlater] at hstep
      rw [hfurther]
      exact hstep

theorem toList_strings_cons (first : String) (more : List String) :
    (strings (first :: more)).toList =
      '[' :: ("\n    ".toList ++ ((string first).toList ++
        (furtherItems "\n    ".toList more ++ ("\n  ".toList ++ [']'])))) := by
  have hlist : strings (first :: more) =
      "[\n    " ++ String.intercalate ",\n    " (string first :: more.map string) ++ "\n  ]" := rfl
  rw [hlist, String.toList_append, String.toList_append, toList_intercalate, List.flatMap_map]
  simp [furtherItems]

theorem reads_strings (texts : List String) :
    Reads (texts.length + 2) (strings texts).toList (.array (texts.map .string)) := by
  intro fuel rest hfuel
  cases texts with
  | nil =>
      obtain ⟨fuel, rfl⟩ := Nat.exists_eq_add_of_le' hfuel
      rfl
  | cons first more =>
      obtain ⟨fuel, rfl⟩ := Nat.exists_eq_add_of_le' hfuel
      have hgap : ∀ c ∈ "\n    ".toList, isSpace c = true := List.all_eq_true.mp (by decide)
      have hclose : ∀ c ∈ "\n  ".toList, isSpace c = true := List.all_eq_true.mp (by decide)
      have hitems :=
        items_written hgap hclose first more (fuel + more.length + 2) (by omega) rest
      rw [← items_append hgap] at hitems
      obtain ⟨tail, hopen⟩ := exists_skipSpaces_string hgap first
        (furtherItems "\n    ".toList more ++ ("\n  ".toList ++ ']' :: rest))
      have hvalue := value_of_bracket (fuel + more.length + 2) hopen (by decide)
      rw [hitems] at hvalue
      have hsum : fuel + ((first :: more).length + 2) = fuel + more.length + 2 + 1 := by
        rw [List.length_cons]
        omega
      rw [hsum]
      simpa [toList_strings_cons] using hvalue

/-! ## Objects read back -/

/-- A field as it is written: a gap, the key, a colon, a space and the value. -/
def member (gap : List Char) (key : String) (written : List Char) : List Char :=
  gap ++ ((string key).toList ++ ':' :: ' ' :: written)

def furtherMembers (gap : List Char) (more : List (String × List Char × Value)) : List Char :=
  more.flatMap fun field => ',' :: member gap field.1 field.2.1

theorem string?_member (hgap : ∀ c ∈ gap, isSpace c = true) (key : String)
    (written rest : List Char) :
    string? (skipSpaces (member gap key written ++ rest)) =
      some (key, ':' :: ' ' :: (written ++ rest)) := by
  have hmember : member gap key written ++ rest =
      gap ++ ((string key).toList ++ ':' :: ' ' :: (written ++ rest)) := by
    simp [member]
  rw [hmember, skipSpaces_append hgap, skipSpaces_string, string?_string]

theorem Reads.value_space {size : Nat} {written : List Char} {result : Value}
    (hreads : Reads size written result) (fuel : Nat) (hfuel : size ≤ fuel) (rest : List Char) :
    value fuel (' ' :: (written ++ rest)) = some (result, rest) := by
  have hspace : ∀ c ∈ [' '], isSpace c = true := List.all_eq_true.mp (by decide)
  have hskip := value_append hspace fuel (written ++ rest)
  rw [hreads fuel rest hfuel] at hskip
  exact hskip

/-- The fields of an object, if each value is read back. -/
theorem members_written (hgap : ∀ c ∈ gap, isSpace c = true)
    (hclose : ∀ c ∈ close, isSpace c = true) {size : Nat} (key : String) {written : List Char}
    {result : Value} (hfirst : Reads size written result)
    {more : List (String × List Char × Value)}
    (hmore : ∀ field ∈ more, Reads size field.2.1 field.2.2) (fuel : Nat)
    (hfuel : size + more.length + 1 ≤ fuel) (rest : List Char) :
    members fuel
        (member gap key written ++ (furtherMembers gap more ++ (close ++ '\x7d' :: rest))) =
      some ((key, result) :: more.map fun field => (field.1, field.2.2), rest) := by
  induction more generalizing key written result fuel with
  | nil =>
      obtain ⟨fuel, rfl⟩ := Nat.exists_eq_add_of_le' hfuel
      have hbrace : skipSpaces (close ++ '\x7d' :: rest) = '\x7d' :: rest := by
        rw [skipSpaces_append hclose, skipSpaces_cons (by decide)]
      have hkey := string?_member hgap key written (close ++ '\x7d' :: rest)
      have hvalue := hfirst.value_space (fuel + size) (by omega) (close ++ '\x7d' :: rest)
      exact members_of_brace hkey (skipSpaces_cons (by decide) _) hvalue hbrace
  | cons field more ih =>
      obtain ⟨fuel, rfl⟩ := Nat.exists_eq_add_of_le' hfuel
      let behind :=
        member gap field.1 field.2.1 ++ (furtherMembers gap more ++ (close ++ '\x7d' :: rest))
      have hfurther : furtherMembers gap (field :: more) ++ (close ++ '\x7d' :: rest) =
          ',' :: behind := by
        simp [furtherMembers, behind]
      have hcomma : skipSpaces (',' :: behind) = ',' :: behind := skipSpaces_cons (by decide) _
      have hkey := string?_member hgap key written (',' :: behind)
      have hvalue := hfirst.value_space (fuel + size + more.length + 1) (by omega)
        (',' :: behind)
      have hlater := ih field.1 (hmore field List.mem_cons_self)
        (fun other hother => hmore other (List.mem_cons_of_mem field hother))
        (fuel + size + more.length + 1) (by omega)
      have hstep := members_of_comma hkey (skipSpaces_cons (by decide) _) hvalue hcomma
      rw [hlater] at hstep
      rw [hfurther]
      have hsum : fuel + (size + (field :: more).length + 1) =
          fuel + size + more.length + 1 + 1 := by
        rw [List.length_cons]
        omega
      rw [hsum]
      exact hstep

/-- An object as it is written, if it has a first field. -/
def object (gap close : List Char) (key : String) (written : List Char)
    (more : List (String × List Char × Value)) : List Char :=
  '\x7b' :: (member gap key written ++ (furtherMembers gap more ++ (close ++ ['\x7d'])))

theorem reads_object (hgap : ∀ c ∈ gap, isSpace c = true) (hclose : ∀ c ∈ close, isSpace c = true)
    {size : Nat} (key : String) {written : List Char} {result : Value}
    (hfirst : Reads size written result) {more : List (String × List Char × Value)}
    (hmore : ∀ field ∈ more, Reads size field.2.1 field.2.2) :
    Reads (size + more.length + 2) (object gap close key written more)
      (.object ((key, result) :: more.map fun field => (field.1, field.2.2))) := by
  intro fuel rest hfuel
  obtain ⟨fuel, rfl⟩ := Nat.exists_eq_add_of_le' hfuel
  let inside := member gap key written ++ (furtherMembers gap more ++ (close ++ '\x7d' :: rest))
  have hobject : object gap close key written more ++ rest = '\x7b' :: inside := by
    simp [object, inside]
  have hmembers := members_written hgap hclose key hfirst hmore
    (fuel + size + more.length + 1) (by omega) rest
  obtain ⟨tail, hopen⟩ : ∃ tail, skipSpaces inside = '"' :: tail := by
    have hinside : inside = gap ++ ((string key).toList ++ (':' :: ' ' :: written ++
        (furtherMembers gap more ++ (close ++ '\x7d' :: rest)))) := by
      simp [inside, member]
    rw [hinside]
    exact exists_skipSpaces_string hgap key _
  have hvalue := value_of_brace (fuel + size + more.length + 1) hopen
  rw [hmembers] at hvalue
  have hsum : fuel + (size + more.length + 2) = fuel + size + more.length + 1 + 1 := by omega
  rw [hobject, hsum]
  exact hvalue

end Layout

theorem parse_eq_some {text : String} {size : Nat} {written gap : List Char} {result : Value}
    (htext : text.toList = written ++ gap) (hgap : ∀ c ∈ gap, isSpace c = true)
    (hreads : Reads size written result) (hsize : size ≤ text.toList.length + 1) :
    parse text = some result := by
  have hvalue := hreads (text.toList.length + 1) gap hsize
  have hnothing : skipSpaces gap = [] := by
    have hskip := skipSpaces_append hgap []
    rw [List.append_nil] at hskip
    exact hskip
  rw [← htext] at hvalue
  simp [parse, hvalue, hnothing]

end AboutPages.Json
