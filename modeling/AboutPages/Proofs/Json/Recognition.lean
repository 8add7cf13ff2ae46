import AboutPages.Proofs.Json.Soundness

/-!
# What is in the grammar is read

Whatever spells a value is taken off the front of a text, unless it is a word or number and the text
goes on with more of it. So the reader recognizes documents: a text is read as a value exactly if it
is a document with that value, and no document has two.
-/

namespace AboutPages.Json

open Text

/-! ## Strings -/

/-- What spells a result is taken off the front of any text, and gives that result. -/
def Accepts {α : Type} (spells : List Char → α → Prop) (read : Reader α) : Prop :=
  ∀ written a rest, spells written a → read (written ++ rest) = some (a, rest)

theorem accepts_unit? : Accepts SpellsUnit unit? := by
  rintro written n rest ⟨hlength, hdigits, rfl⟩
  obtain ⟨a, b, c, d, rfl⟩ : ∃ a b c d, written = [a, b, c, d] := by
    rcases written with _ | ⟨a, _ | ⟨b, _ | ⟨c, _ | ⟨d, _ | ⟨e, more⟩⟩⟩⟩⟩ <;> simp_all
  simp only [List.cons_append, List.nil_append, unit?]
  rw [if_pos (List.all_eq_true.mpr hdigits)]

theorem accepts_escape? : Accepts (fun written c => SpellsChar ('\\' :: written) c) escape? := by
  intro written c rest hspells
  cases hspells with
  | plain _ hbackslash _ => exact absurd rfl hbackslash
  | letter hletter =>
      simp only [letterEscapes, List.mem_cons, Prod.mk.injEq, List.not_mem_nil, or_false] at hletter
      rcases hletter with ⟨rfl, rfl⟩ | ⟨rfl, rfl⟩ | ⟨rfl, rfl⟩ | ⟨rfl, rfl⟩ | ⟨rfl, rfl⟩ |
        ⟨rfl, rfl⟩ | ⟨rfl, rfl⟩ | ⟨rfl, rfl⟩ <;> rfl
  | unit hdigits hwhole =>
      rw [List.cons_append, escape?, numbered?, accepts_unit? _ _ rest hdigits]
      simp only [Option.bind_eq_bind, Option.bind_some]
      rw [if_neg (by omega), if_neg (by omega)]
  | pair hhigh hfirst hlow hsecond =>
      rw [List.cons_append, List.append_assoc, escape?, numbered?, accepts_unit? _ _ _ hhigh]
      simp only [Option.bind_eq_bind, Option.bind_some, List.cons_append,
        accepts_unit? _ _ rest hlow]
      rw [if_pos hfirst, if_pos hsecond]

theorem SpellsChar.ne_nil {written : List Char} {c : Char} (hspells : SpellsChar written c) :
    written ≠ [] := by
  cases hspells <;> simp

theorem characters_of_spells {written : List Char} {c : Char} (hspells : SpellsChar written c)
    (fuel : Nat) (rest : List Char) :
    characters (fuel + 1) (written ++ rest) =
      (characters fuel rest).map fun r => (c :: r.1, r.2) := by
  have hescape : ∀ escape, SpellsChar ('\\' :: escape) c →
      characters (fuel + 1) ('\\' :: escape ++ rest) =
        (characters fuel rest).map fun r => (c :: r.1, r.2) := by
    intro escape hspells
    exact characters_of_escape (accepts_escape? escape c rest hspells)
  cases hspells with
  | plain hquote hbackslash hprintable =>
      exact characters_of_plain hquote hbackslash (by omega)
  | letter hletter => exact hescape _ (.letter hletter)
  | unit hdigits hwhole => exact hescape _ (.unit hdigits hwhole)
  | pair hhigh hfirst hlow hsecond => exact hescape _ (.pair hhigh hfirst hlow hsecond)

theorem characters_of_spellsChars {inside cs : List Char} (hspells : SpellsChars inside cs)
    {fuel : Nat} (hfuel : inside.length < fuel) (rest : List Char) :
    characters fuel (inside ++ '"' :: rest) = some (cs, rest) := by
  induction hspells generalizing fuel with
  | nil =>
      obtain ⟨fuel, rfl⟩ := Nat.exists_eq_add_of_lt hfuel
      rfl
  | cons hfirst hmore ih =>
      obtain ⟨fuel, rfl⟩ := Nat.exists_eq_add_of_lt hfuel
      have hpos := List.length_pos_iff.mpr hfirst.ne_nil
      rw [List.append_assoc, characters_of_spells hfirst, ih (by rw [List.length_append]; omega)]
      rfl

theorem accepts_string? : Accepts SpellsString string? := by
  intro written text rest hspells
  cases hspells with
  | quoted hinside =>
      rw [List.cons_append, List.append_assoc, List.singleton_append, string?,
        characters_of_spellsChars hinside (by rw [List.length_append]; omega)]
      rfl

/-! ## Words and numbers -/

/-- The text ends, or goes on with something that cannot belong to a word or number. -/
def Ends (rest : List Char) : Prop := ∀ c ∈ rest.head?, isWordChar c = false

theorem isWordChar_of_isDigit {c : Char} (hdigit : c.isDigit = true) : isWordChar c = true := by
  simp [isWordChar, Char.isAlphanum, hdigit]

theorem isWordChar_of_isNumber {written : List Char} (hnumber : IsNumber written) :
    ∀ c ∈ written, isWordChar c = true := by
  have hdigits : ∀ {cs : List Char}, IsDigits cs → ∀ c ∈ cs, isWordChar c = true :=
    fun hcs c hc => isWordChar_of_isDigit (hcs.digits c hc)
  cases hnumber with
  | @parts sign whole fraction exponent hsign hwhole hfraction hexponent =>
      simp only [List.forall_mem_append]
      refine ⟨?_, hdigits hwhole.isDigits, ?_, ?_⟩
      · simp only [List.mem_cons, List.not_mem_nil, or_false] at hsign
        rcases hsign with rfl | rfl
        · exact List.forall_mem_nil _
        · exact List.forall_mem_singleton.mpr (by decide)
      · cases hfraction with
        | absent => exact List.forall_mem_nil _
        | present hfraction => exact List.forall_mem_cons.mpr ⟨by decide, hdigits hfraction⟩
      · cases hexponent with
        | absent => exact List.forall_mem_nil _
        | present hmark hsign hdigit =>
            simp only [List.forall_mem_cons, List.forall_mem_append]
            refine ⟨?_, ?_, hdigits hdigit⟩
            · rcases hmark with rfl | rfl <;> decide
            · simp only [List.mem_cons, List.not_mem_nil, or_false] at hsign
              rcases hsign with rfl | rfl | rfl
              · exact List.forall_mem_nil _
              · exact List.forall_mem_singleton.mpr (by decide)
              · exact List.forall_mem_singleton.mpr (by decide)

theorem IsNumber.ne_nil {written : List Char} (hnumber : IsNumber written) : written ≠ [] := by
  cases hnumber with
  | parts _ hwhole _ _ => simp [hwhole.isDigits.nonempty]

theorem ne_of_isWordChar {c d : Char} (hword : isWordChar c = true)
    (hother : isWordChar d = false) : c ≠ d := by
  rintro rfl
  rw [hword] at hother
  cases hother

theorem isSpace_of_isWordChar {c : Char} (hword : isWordChar c = true) : isSpace c = false := by
  cases hspace : isSpace c with
  | false => rfl
  | true =>
      rw [isSpace, decide_eq_true_iff] at hspace
      rcases hspace with rfl | rfl | rfl | rfl <;> cases hword

theorem value_of_isWordChar {c : Char} (hword : isWordChar c = true) (fuel : Nat) (cs : List Char) :
    value (fuel + 1) (c :: cs) = word? (c :: cs) := by
  rw [value, skipSpaces_cons (isSpace_of_isWordChar hword)]
  split
  · rename_i heq
    exact absurd (List.cons.inj heq).1 (ne_of_isWordChar hword (by decide))
  · rename_i heq
    exact absurd (List.cons.inj heq).1 (ne_of_isWordChar hword (by decide))
  · rename_i heq
    exact absurd (List.cons.inj heq).1 (ne_of_isWordChar hword (by decide))
  · rfl

theorem value_of_word {written rest : List Char} (hword : ∀ c ∈ written, isWordChar c = true)
    (hnonempty : written ≠ []) (hends : Ends rest) (fuel : Nat) :
    value (fuel + 1) (written ++ rest) =
      if written = "null".toList then some (.null, rest)
      else if written = "true".toList then some (.boolean true, rest)
      else if written = "false".toList then some (.boolean false, rest)
      else if isNumber written then some (.number (String.ofList written), rest)
      else none := by
  have htake := (takeWhile_dropWhile_seam hword hends).1
  obtain ⟨c, cs, rfl⟩ := List.exists_cons_of_ne_nil hnonempty
  rw [List.cons_append, value_of_isWordChar (hword c List.mem_cons_self), ← List.cons_append]
  simp only [word?, htake, List.drop_left]

theorem value_of_isNumber {written rest : List Char} (hnumber : IsNumber written)
    (hends : Ends rest) (fuel : Nat) :
    value (fuel + 1) (written ++ rest) = some (.number (String.ofList written), rest) := by
  have hcheck := isNumber_iff.mpr hnumber
  have hne : ∀ word : String, isNumber word.toList = false → written ≠ word.toList := by
    rintro word hword rfl
    rw [hcheck] at hword
    cases hword
  rw [value_of_word (isWordChar_of_isNumber hnumber) hnumber.ne_nil hends,
    if_neg (hne "null" (by decide)), if_neg (hne "true" (by decide)),
    if_neg (hne "false" (by decide)), if_pos hcheck]

/-! ## Values -/

/-- No value begins with a space or a closing bracket. -/
theorem Spells.exists_cons {written : List Char} {result : Value}
    (hspells : Spells written result) :
    ∃ c cs, written = c :: cs ∧ isSpace c = false ∧ c ≠ ']' := by
  cases hspells with
  | null => exact ⟨'n', _, rfl, by decide, by decide⟩
  | boolean b =>
      cases b with
      | false => exact ⟨'f', _, rfl, by decide, by decide⟩
      | true => exact ⟨'t', _, rfl, by decide, by decide⟩
  | number hnumber =>
      obtain ⟨c, cs, rfl⟩ := List.exists_cons_of_ne_nil hnumber.ne_nil
      have hword := isWordChar_of_isNumber hnumber c List.mem_cons_self
      exact ⟨c, cs, rfl, isSpace_of_isWordChar hword, ne_of_isWordChar hword (by decide)⟩
  | string hstring =>
      cases hstring
      exact ⟨'"', _, rfl, by decide, by decide⟩
  | emptyArray _ => exact ⟨'[', _, rfl, by decide, by decide⟩
  | array _ => exact ⟨'[', _, rfl, by decide, by decide⟩
  | emptyObject _ => exact ⟨'\x7b', _, rfl, by decide, by decide⟩
  | object _ => exact ⟨'\x7b', _, rfl, by decide, by decide⟩

theorem SpellsString.exists_cons {written : List Char} {text : String}
    (hspells : SpellsString written text) :
    ∃ c cs, written = c :: cs ∧ isSpace c = false ∧ c = '"' := by
  cases hspells
  exact ⟨'"', _, rfl, by decide, rfl⟩

/-- Behind the gap, the first character is that of what the gap is around. -/
theorem Padded.exists_skipSpaces {α : Type} {spells : List Char → α → Prop} {first : Char → Prop}
    (hfirst : ∀ {written a}, spells written a →
      ∃ c cs, written = c :: cs ∧ isSpace c = false ∧ first c)
    {written : List Char} {a : α} (hpadded : Padded spells written a) (rest : List Char) :
    ∃ c cs, skipSpaces (written ++ rest) = c :: cs ∧ first c := by
  cases hpadded with
  | between hbefore hwritten hafter =>
      obtain ⟨c, cs, rfl, hspace, hc⟩ := hfirst hwritten
      rw [List.append_assoc, skipSpaces_append hbefore, List.cons_append, List.cons_append,
        skipSpaces_cons hspace]
      exact ⟨c, _, rfl, hc⟩

theorem Keyed.exists_skipSpaces {α : Type} {spells : List Char → α → Prop} {written : List Char}
    {field : String × α} (hkeyed : Keyed spells written field) (rest : List Char) :
    ∃ c cs, skipSpaces (written ++ rest) = c :: cs ∧ c = '"' := by
  cases hkeyed with
  | pair hkey _ =>
      rw [List.append_assoc]
      exact hkey.exists_skipSpaces SpellsString.exists_cons _

theorem Separated.exists_skipSpaces {α : Type} {spells : List Char → α → Prop}
    {first : Char → Prop}
    (hfirst : ∀ {written a} (rest : List Char), spells written a →
      ∃ c cs, skipSpaces (written ++ rest) = c :: cs ∧ first c)
    {written : List Char} {as : List α} (hseparated : Separated spells written as)
    (rest : List Char) : ∃ c cs, skipSpaces (written ++ rest) = c :: cs ∧ first c := by
  cases hseparated with
  | one hwritten => exact hfirst rest hwritten
  | more hwritten _ =>
      rw [List.append_assoc]
      exact hfirst _ hwritten

theorem skipSpaces_gap {gap : List Char} (hgap : IsGap gap) {c : Char} (hspace : isSpace c = false)
    (rest : List Char) : skipSpaces (gap ++ c :: rest) = c :: rest := by
  rw [skipSpaces_append hgap, skipSpaces_cons hspace]

theorem ends_gap {gap : List Char} (hgap : IsGap gap) {rest : List Char} (hends : Ends rest) :
    Ends (gap ++ rest) := by
  cases gap with
  | nil => exact hends
  | cons space more =>
      intro c hc
      cases hc
      cases hword : isWordChar space with
      | false => rfl
      | true =>
          have hspace := hgap space List.mem_cons_self
          rw [isSpace_of_isWordChar hword] at hspace
          cases hspace

theorem ends_cons {c : Char} (hword : isWordChar c = false) (rest : List Char) :
    Ends (c :: rest) := by
  intro d hd
  cases hd
  exact hword

theorem string?_of_padded {front : List Char} {key : String}
    (hkey : Padded SpellsString front key) (back : List Char) :
    ∃ colon, string? (skipSpaces (front ++ ':' :: back)) = some (key, colon) ∧
      skipSpaces colon = ':' :: back := by
  cases hkey with
  | @between before written after key hbefore hwritten hafter =>
      refine ⟨after ++ ':' :: back, ?_, skipSpaces_gap hafter (by decide) back⟩
      obtain ⟨c, cs, hcons, hspace, _⟩ := hwritten.exists_cons
      have hread := accepts_string? written key (after ++ ':' :: back) hwritten
      rw [List.append_assoc, skipSpaces_append hbefore, List.append_assoc]
      rw [hcons, List.cons_append] at hread ⊢
      rw [skipSpaces_cons hspace, hread]

/-- What spells a result and is shorter than the size is taken off with its closing character. -/
def AcceptsUpTo {α : Type} (size : Nat) (close : Char) (spells : List Char → α → Prop)
    (read : Reader α) : Prop :=
  ∀ written a rest, spells written a → written.length < size →
    read (written ++ close :: rest) = some (a, rest)

/-- So much fuel is enough for every value that is no longer. -/
def Suffices (fuel : Nat) : Prop :=
  ∀ written result rest, Spells written result → written.length ≤ fuel → Ends rest →
    value fuel (written ++ rest) = some (result, rest)

section Steps

variable {fuel : Nat}

/-- A value between gaps is read, and what follows it goes on with the next character. -/
theorem Suffices.value_of_padded (hvalue : Suffices fuel) {written : List Char} {item : Value}
    (hpadded : Padded Spells written item) (hfuel : written.length ≤ fuel) {c : Char}
    (hspace : isSpace c = false) (hword : isWordChar c = false) (rest : List Char) :
    ∃ behind, value fuel (written ++ c :: rest) = some (item, behind) ∧
      skipSpaces behind = c :: rest := by
  cases hpadded with
  | @between before core after item hbefore hcore hafter =>
      refine ⟨after ++ c :: rest, ?_, skipSpaces_gap hafter hspace rest⟩
      have hlength : core.length ≤ fuel := by
        rw [List.length_append, List.length_append] at hfuel
        omega
      rw [List.append_assoc, value_append hbefore, List.append_assoc]
      exact hvalue core item _ hcore hlength (ends_gap hafter (ends_cons hword rest))

theorem items_of_separated (hvalue : Suffices fuel)
    (hitems : AcceptsUpTo fuel ']' (Separated (Padded Spells)) (items fuel)) :
    AcceptsUpTo (fuel + 1) ']' (Separated (Padded Spells)) (items (fuel + 1)) := by
  intro written list rest hspells hfuel
  cases hspells with
  | one hitem =>
      obtain ⟨behind, hread, hskip⟩ :=
        hvalue.value_of_padded hitem (by omega) (c := ']') (by decide) (by decide) rest
      exact items_of_bracket hread hskip
  | @more first later item more hitem hmore =>
      rw [List.length_append, List.length_cons] at hfuel
      obtain ⟨behind, hread, hskip⟩ := hvalue.value_of_padded hitem (by omega) (c := ',')
        (by decide) (by decide) (later ++ ']' :: rest)
      have hstep := items_of_comma hread hskip
      rw [hitems later more rest hmore (by omega)] at hstep
      rw [List.append_assoc, List.cons_append]
      exact hstep

theorem members_of_separated (hvalue : Suffices fuel)
    (hmembers : AcceptsUpTo fuel '\x7d' (Separated (Keyed Spells)) (members fuel)) :
    AcceptsUpTo (fuel + 1) '\x7d' (Separated (Keyed Spells)) (members (fuel + 1)) := by
  intro written list rest hspells hfuel
  cases hspells with
  | one hfield =>
      cases hfield with
      | @pair front back key item hkey hback =>
          rw [List.length_append, List.length_cons] at hfuel
          obtain ⟨colon, hstring, hcolon⟩ := string?_of_padded hkey (back ++ '\x7d' :: rest)
          obtain ⟨behind, hread, hskip⟩ := hvalue.value_of_padded hback (by omega)
            (c := '\x7d') (by decide) (by decide) rest
          rw [List.append_assoc, List.cons_append]
          exact members_of_brace hstring hcolon hread hskip
  | @more first later field more hfield hmore =>
      cases hfield with
      | @pair front back key item hkey hback =>
          simp only [List.length_append, List.length_cons] at hfuel
          obtain ⟨colon, hstring, hcolon⟩ :=
            string?_of_padded hkey (back ++ ',' :: (later ++ '\x7d' :: rest))
          obtain ⟨behind, hread, hskip⟩ := hvalue.value_of_padded hback (by omega) (c := ',')
            (by decide) (by decide) (later ++ '\x7d' :: rest)
          have hstep := members_of_comma hstring hcolon hread hskip
          rw [hmembers later more rest hmore (by omega)] at hstep
          simp only [List.append_assoc, List.cons_append]
          exact hstep

theorem suffices_succ (hitems : AcceptsUpTo fuel ']' (Separated (Padded Spells)) (items fuel))
    (hmembers : AcceptsUpTo fuel '\x7d' (Separated (Keyed Spells)) (members fuel)) :
    Suffices (fuel + 1) := by
  intro written result rest hspells hfuel hends
  cases hspells with
  | null =>
      rw [value_of_word (List.all_eq_true.mp (by decide)) (by decide) hends, if_pos rfl]
  | boolean b =>
      cases b with
      | true =>
          rw [value_of_word (List.all_eq_true.mp (by decide)) (by decide) hends,
            if_neg (by decide), if_pos (by decide)]
      | false =>
          rw [value_of_word (List.all_eq_true.mp (by decide)) (by decide) hends,
            if_neg (by decide), if_neg (by decide), if_pos (by decide)]
  | number hnumber => exact value_of_isNumber hnumber hends fuel
  | string hstring =>
      have hread := accepts_string? _ _ rest hstring
      obtain ⟨c, cs, rfl, hspace, rfl⟩ := hstring.exists_cons
      rw [List.cons_append] at hread ⊢
      rw [value, skipSpaces_cons hspace]
      simp only [hread, Option.map_some]
  | @emptyArray gap hgap =>
      have hskip := skipSpaces_gap hgap (c := ']') (by decide) rest
      rw [List.cons_append, List.append_assoc, List.singleton_append, value,
        skipSpaces_cons (by decide)]
      simp only [hskip]
  | @array inside list hlist =>
      simp only [List.length_cons, List.length_append] at hfuel
      have hread := hitems inside list rest hlist (by omega)
      obtain ⟨c, cs, hskip, hc⟩ := hlist.exists_skipSpaces
        (fun rest hitem => hitem.exists_skipSpaces Spells.exists_cons rest) (']' :: rest)
      rw [List.cons_append, List.append_assoc, List.singleton_append,
        value_of_bracket fuel hskip hc, hread]
      rfl
  | @emptyObject gap hgap =>
      have hskip := skipSpaces_gap hgap (c := '\x7d') (by decide) rest
      rw [List.cons_append, List.append_assoc, List.singleton_append, value,
        skipSpaces_cons (by decide)]
      simp only [hskip]
  | @object inside fields hfields =>
      simp only [List.length_cons, List.length_append] at hfuel
      have hread := hmembers inside fields rest hfields (by omega)
      obtain ⟨c, cs, hskip, rfl⟩ := hfields.exists_skipSpaces
        (fun rest hfield => hfield.exists_skipSpaces rest) ('\x7d' :: rest)
      rw [List.cons_append, List.append_assoc, List.singleton_append, value_of_brace fuel hskip,
        hread]
      rfl

end Steps

/-- Fuel for the length of a text is enough: no rule of the grammar is without a character. -/
theorem suffices_length (fuel : Nat) :
    Suffices fuel ∧ AcceptsUpTo fuel ']' (Separated (Padded Spells)) (items fuel) ∧
      AcceptsUpTo fuel '\x7d' (Separated (Keyed Spells)) (members fuel) := by
  induction fuel with
  | zero =>
      refine ⟨?_, ?_, ?_⟩
      · intro written result rest hspells hfuel
        obtain ⟨c, cs, rfl, _⟩ := hspells.exists_cons
        cases hfuel
      · intro written list rest _ hfuel
        cases hfuel
      · intro written list rest _ hfuel
        cases hfuel
  | succ fuel ih =>
      obtain ⟨hvalue, hitems, hmembers⟩ := ih
      exact ⟨suffices_succ hitems hmembers, items_of_separated hvalue hitems,
        members_of_separated hvalue hmembers⟩

/-- The reader recognizes the documents, each with the value that it spells. -/
theorem parse_eq_some_iff {text : String} {result : Value} :
    parse text = some result ↔ IsDocument text result := by
  constructor
  · exact isDocument_of_parse
  · intro hdocument
    rw [IsDocument] at hdocument
    generalize hcs : text.toList = cs at hdocument
    cases hdocument with
    | @between before core after result hbefore hcore hafter =>
        have hlength : core.length ≤ text.toList.length + 1 := by
          rw [hcs, List.length_append, List.length_append]
          omega
        have hends : Ends after := by
          have hnothing : Ends (after ++ []) := ends_gap hafter (by intro c hc; cases hc)
          rwa [List.append_nil] at hnothing
        have hvalue := (suffices_length _).1 core result after hcore hlength hends
        have hskip : skipSpaces after = [] := by
          have happend := skipSpaces_append hafter []
          rwa [List.append_nil] at happend
        rw [← value_append hbefore, ← hcs] at hvalue
        rw [parse, hvalue]
        simp only [Option.bind_eq_bind, Option.bind_some, hskip]
        rfl

end AboutPages.Json
