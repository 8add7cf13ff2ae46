import AboutPages.Proofs.Text.Casing
import AboutPages.Proofs.Text.Split
import AboutPages.Text.Digits
import AboutPages.Text.Quoted

/-!
# Quoted text read back

The writings of characters between quotes form a code that can be read from the front: no writing
is the beginning of another, and none begins with the quote that ends the text. So a quoted text
says where it ends, whatever follows it. It is made of characters with a picture of their own, and
keeps controls and line breaks out of the line that it stands in.
-/

namespace AboutPages.Text

/-! ## Hexadecimal digits -/

theorem digitValue_digitChar : ∀ d < 16, digitValue (Nat.digitChar d) = d := by decide

theorem numeral_append (base : Nat) (digits : List Char) (c : Char) :
    numeral base (digits ++ [c]) = numeral base digits * base + digitValue c := by
  simp [numeral]

theorem numeral_toDigits (n : Nat) : numeral 16 (Nat.toDigits 16 n) = n := by
  induction n using Nat.strongRecOn with
  | ind n ih =>
      rw [Nat.toDigits_eq_if (by decide)]
      split
      · rename_i hlt
        simp [numeral, digitValue_digitChar n hlt]
      · rw [numeral_append, ih (n / 16) (by omega),
          digitValue_digitChar (n % 16) (Nat.mod_lt n (by decide))]
        omega

theorem exists_digitChar_of_mem_toDigits {n : Nat} {c : Char} (hmem : c ∈ Nat.toDigits 16 n) :
    ∃ d < 16, c = Nat.digitChar d := by
  induction n using Nat.strongRecOn with
  | ind n ih =>
      rw [Nat.toDigits_eq_if (by decide)] at hmem
      split at hmem
      · rename_i hlt
        exact ⟨n, hlt, List.mem_singleton.mp hmem⟩
      · rcases List.mem_append.mp hmem with hfront | hlast
        · exact ih (n / 16) (by omega) hfront
        · exact ⟨n % 16, Nat.mod_lt n (by decide), List.mem_singleton.mp hlast⟩

/-! ## Writing one character -/

def letterEscape? (letter : Char) : Option Char :=
  if letter = '0' then some '\x00'
  else if letter = 't' then some '\t'
  else if letter = 'n' then some '\n'
  else if letter = 'r' then some '\r'
  else if letter = '"' then some '"'
  else if letter = '\\' then some '\\'
  else none

/-- A character is written by a letter behind a backslash, by itself, or by its code point. -/
theorem quoteChar_cases (c : Char) :
    (∃ letter, letterEscape? letter = some c ∧ quoteChar c = ['\\', letter]) ∨
    (c ≠ '"' ∧ c ≠ '\\' ∧ isGraphic c = true ∧ quoteChar c = [c]) ∨
    quoteChar c = escapeCode c := by
  by_cases hnull : c = '\x00'
  · exact Or.inl ⟨'0', by rw [hnull]; rfl, by rw [hnull]; rfl⟩
  by_cases htab : c = '\t'
  · exact Or.inl ⟨'t', by rw [htab]; rfl, by rw [htab]; rfl⟩
  by_cases hbreak : c = '\n'
  · exact Or.inl ⟨'n', by rw [hbreak]; rfl, by rw [hbreak]; rfl⟩
  by_cases hreturn : c = '\r'
  · exact Or.inl ⟨'r', by rw [hreturn]; rfl, by rw [hreturn]; rfl⟩
  by_cases hquote : c = '"'
  · exact Or.inl ⟨'"', by rw [hquote]; rfl, by rw [hquote]; rfl⟩
  by_cases hbackslash : c = '\\'
  · exact Or.inl ⟨'\\', by rw [hbackslash]; rfl, by rw [hbackslash]; rfl⟩
  by_cases hgraphic : isGraphic c = true
  · refine Or.inr (Or.inl ⟨hquote, hbackslash, hgraphic, ?_⟩)
    simp [quoteChar, hnull, htab, hbreak, hreturn, hquote, hbackslash, hgraphic]
  · refine Or.inr (Or.inr ?_)
    simp [quoteChar, hnull, htab, hbreak, hreturn, hquote, hbackslash, hgraphic]

/-! ## Reading one character -/

/-- Read one character between quotes, and what follows it. -/
def unquoteChar? : List Char → Option (Char × List Char)
  | [] => none
  | c :: rest =>
      if c = '"' then none
      else if c = '\\' then
        match rest with
        | [] => none
        | letter :: more =>
            if letter = 'u' then
              let digits := (more.drop 1).takeWhile fun d => decide (d ≠ '\x7d')
              some (Char.ofNat (numeral 16 digits), more.drop (digits.length + 2))
            else (letterEscape? letter).map fun escaped => (escaped, more)
      else some (c, rest)

theorem unquoteChar?_numbered (behind : List Char) :
    unquoteChar? ('\\' :: 'u' :: '\x7b' :: behind) =
      some (Char.ofNat (numeral 16 (behind.takeWhile fun d => decide (d ≠ '\x7d'))),
        behind.drop ((behind.takeWhile fun d => decide (d ≠ '\x7d')).length + 1)) := rfl

theorem unquoteChar?_escapeCode (c : Char) (rest : List Char) :
    unquoteChar? (escapeCode c ++ rest) = some (c, rest) := by
  let digits := Nat.toDigits 16 c.toNat
  have hdigits : ∀ d ∈ digits, decide (d ≠ '\x7d') = true := by
    intro d hd
    obtain ⟨value, hlt, rfl⟩ := exists_digitChar_of_mem_toDigits hd
    have hall : ∀ value < 16, decide (Nat.digitChar value ≠ '\x7d') = true := by decide
    exact hall value hlt
  have hstop : ∀ d ∈ ('\x7d' :: rest).head?, decide (d ≠ '\x7d') = false := by simp
  have hdrop : (digits ++ '\x7d' :: rest).drop (digits.length + 1) = rest := by
    rw [← List.drop_drop, List.drop_left]
    rfl
  have hwritten : escapeCode c ++ rest = '\\' :: 'u' :: '\x7b' :: (digits ++ '\x7d' :: rest) := by
    simp [escapeCode, digits]
  have hread := (takeWhile_dropWhile_seam hdigits hstop).1
  have hnumber : Char.ofNat (numeral 16 digits) = c := by
    rw [numeral_toDigits, Char.ofNat_toNat]
  calc
    unquoteChar? (escapeCode c ++ rest)
        = unquoteChar? ('\\' :: 'u' :: '\x7b' :: (digits ++ '\x7d' :: rest)) := by rw [hwritten]
    _ = some (Char.ofNat (numeral 16 digits),
          (digits ++ '\x7d' :: rest).drop (digits.length + 1)) := by
        rw [unquoteChar?_numbered, hread]
    _ = some (c, rest) := by rw [hnumber, hdrop]

/-- What is written for a character is read as this character, whatever follows. -/
theorem unquoteChar?_quoteChar (c : Char) (rest : List Char) :
    unquoteChar? (quoteChar c ++ rest) = some (c, rest) := by
  rcases quoteChar_cases c with
    ⟨letter, hletter, hwritten⟩ | ⟨hquote, hbackslash, _, hwritten⟩ | hwritten
  · have hne : letter ≠ 'u' := by
      rintro rfl
      cases hletter
    simp [hwritten, unquoteChar?, hne, hletter]
  · simp [hwritten, unquoteChar?, hquote, hbackslash]
  · rw [hwritten]
    exact unquoteChar?_escapeCode c rest

theorem quoteChar_append_inj {c d : Char} {rest other : List Char}
    (hsame : quoteChar c ++ rest = quoteChar d ++ other) : c = d ∧ rest = other := by
  have hread := unquoteChar?_quoteChar c rest
  rw [hsame, unquoteChar?_quoteChar] at hread
  simpa [eq_comm] using hread

theorem quoteChar_append_ne_quote (c : Char) (rest other : List Char) :
    quoteChar c ++ rest ≠ '"' :: other := by
  intro hsame
  have hread := unquoteChar?_quoteChar c rest
  rw [hsame] at hread
  simp [unquoteChar?] at hread

/-! ## Reading a whole text -/

theorem flatMap_quoteChar_inj {cs ds rest other : List Char}
    (hsame : cs.flatMap quoteChar ++ '"' :: rest = ds.flatMap quoteChar ++ '"' :: other) :
    cs = ds ∧ rest = other := by
  induction cs generalizing ds with
  | nil =>
      cases ds with
      | nil => simpa using hsame
      | cons d more =>
          rw [List.flatMap_cons, List.append_assoc] at hsame
          exact absurd hsame.symm (quoteChar_append_ne_quote d _ rest)
  | cons c more ih =>
      cases ds with
      | nil =>
          rw [List.flatMap_cons, List.append_assoc] at hsame
          exact absurd hsame (quoteChar_append_ne_quote c _ other)
      | cons d others =>
          rw [List.flatMap_cons, List.flatMap_cons, List.append_assoc, List.append_assoc] at hsame
          obtain ⟨rfl, hrest⟩ := quoteChar_append_inj hsame
          obtain ⟨rfl, rfl⟩ := ih hrest
          exact ⟨rfl, rfl⟩

theorem toList_quoted (text : String) :
    (quoted text).toList = '"' :: (text.toList.flatMap quoteChar ++ ['"']) := by
  rw [quoted, String.toList_ofList, List.cons_append]

/-- A quoted text says where it ends. -/
theorem quoted_append_inj {text other rest more : String}
    (hsame : quoted text ++ rest = quoted other ++ more) : text = other ∧ rest = more := by
  have hlists := congrArg String.toList hsame
  simp only [String.toList_append, toList_quoted, List.cons_append, List.append_assoc,
    List.nil_append, List.cons.injEq, true_and] at hlists
  obtain ⟨htext, hrest⟩ := flatMap_quoteChar_inj hlists
  exact ⟨String.toList_inj.mp htext, String.toList_inj.mp hrest⟩

theorem quoted_inj {text other : String} (hsame : quoted text = quoted other) : text = other :=
  (quoted_append_inj (congrArg (· ++ "") hsame)).1

/-! ## Pictures -/

theorem isGraphic_ascii {c : Char} (hfirst : 0x20 ≤ c.toNat) (hlast : c.toNat ≤ 0x7E) :
    isGraphic c = true := by
  have hprintable : CodeRanges.Apart unprintableRanges 0x20 0x7E := by decide +kernel
  have hextend : CodeRanges.Apart graphemeExtendRanges 0x20 0x7E := by decide +kernel
  rw [isGraphic, CodeRanges.holds_eq_false_of_apart hprintable hfirst hlast,
    CodeRanges.holds_eq_false_of_apart hextend hfirst hlast]
  rfl

theorem isControl_of_isGraphic {c : Char} (hgraphic : isGraphic c = true) :
    isControl c = false := by
  have hlow : (0x0, 0x1F) ∈ unprintableRanges := List.mem_cons_self
  have hhigh : (0x7F, 0xA0) ∈ unprintableRanges := List.mem_cons_of_mem _ List.mem_cons_self
  have hprintable : ¬CodeRanges.holds unprintableRanges c.toNat = true := by
    simp only [isGraphic, Bool.and_eq_true, Bool.not_eq_true'] at hgraphic
    simp [hgraphic.1]
  rw [CodeRanges.holds_iff] at hprintable
  simp only [isControl, decide_eq_false_iff_not]
  rintro (hlt | ⟨hfirst, hlast⟩)
  · exact hprintable ⟨_, hlow, Nat.zero_le _, Nat.le_of_lt_succ hlt⟩
  · exact hprintable ⟨_, hhigh, hfirst, Nat.le_succ_of_le hlast⟩

/-- A text of letters, digits, punctuation and spaces, as the fixed parts of messages are. -/
def isPlainText (text : List Char) : Bool :=
  text.all fun c => decide (0x20 ≤ c.toNat ∧ c.toNat ≤ 0x7E)

theorem isGraphic_of_isPlainText {text : List Char} (hplain : isPlainText text = true) :
    ∀ c ∈ text, isGraphic c = true := by
  intro c hc
  have hrange := List.all_eq_true.mp hplain c hc
  rw [decide_eq_true_eq] at hrange
  exact isGraphic_ascii hrange.1 hrange.2

theorem isPlainText_toDigits (n : Nat) : isPlainText (Nat.toDigits 16 n) = true := by
  have hdigits : ∀ d < 16, decide (0x20 ≤ (Nat.digitChar d).toNat ∧
      (Nat.digitChar d).toNat ≤ 0x7E) = true := by decide
  rw [isPlainText, List.all_eq_true]
  intro c hc
  obtain ⟨d, hlt, rfl⟩ := exists_digitChar_of_mem_toDigits hc
  exact hdigits d hlt

theorem isPlainText_escapeCode (c : Char) : isPlainText (escapeCode c) = true := by
  have hopen : isPlainText ['\\', 'u', '\x7b'] = true := by decide
  have hclose : isPlainText ['\x7d'] = true := by decide
  have hdigits := isPlainText_toDigits c.toNat
  unfold isPlainText at hopen hclose hdigits ⊢
  rw [escapeCode, List.all_append, List.all_append, hopen, hdigits, hclose]
  rfl

theorem letterEscape?_eq_some {letter c : Char} (hletter : letterEscape? letter = some c) :
    letter ∈ ['0', 't', 'n', 'r', '"', '\\'] := by
  unfold letterEscape? at hletter
  simp only [List.mem_cons]
  grind

theorem isGraphic_of_mem_quoteChar {c d : Char} (hmem : d ∈ quoteChar c) : isGraphic d = true := by
  have hmarks : isPlainText ['\\', '0', 't', 'n', 'r', '"', '\\'] = true := by decide
  rcases quoteChar_cases c with
    ⟨letter, hletter, hwritten⟩ | ⟨_, _, hgraphic, hwritten⟩ | hwritten
  · rw [hwritten] at hmem
    refine isGraphic_of_isPlainText hmarks d ?_
    rcases List.mem_cons.mp hmem with rfl | hmem
    · exact List.mem_cons_self
    · rw [List.mem_singleton.mp hmem]
      exact List.mem_cons_of_mem _ (letterEscape?_eq_some hletter)
  · rw [hwritten] at hmem
    rw [List.mem_singleton.mp hmem]
    exact hgraphic
  · rw [hwritten] at hmem
    exact isGraphic_of_isPlainText (isPlainText_escapeCode c) d hmem

theorem isGraphic_of_mem_quoted {text : String} {c : Char} (hmem : c ∈ (quoted text).toList) :
    isGraphic c = true := by
  have hquote : isGraphic '"' = true := isGraphic_ascii (by decide) (by decide)
  simp only [toList_quoted, List.mem_cons, List.mem_append, List.mem_flatMap, List.not_mem_nil,
    or_false] at hmem
  rcases hmem with rfl | ⟨d, _, hd⟩ | rfl
  · exact hquote
  · exact isGraphic_of_mem_quoteChar hd
  · exact hquote

variable {c : Char}

/-- A quoted text shows nothing but characters with a picture of their own. -/
theorem count_quoted (hpicture : isGraphic c = false) (text : String) :
    (quoted text).toList.count c = 0 := by
  rw [List.count_eq_zero]
  intro hmem
  simp [isGraphic_of_mem_quoted hmem] at hpicture

theorem count_of_isPlainText (hpicture : isGraphic c = false) {text : List Char}
    (hplain : isPlainText text = true) : text.count c = 0 := by
  rw [List.count_eq_zero]
  intro hmem
  simp [isGraphic_of_isPlainText hplain c hmem] at hpicture

theorem isGraphic_eq_false_of_isControl (hcontrol : isControl c = true) : isGraphic c = false := by
  rw [Bool.eq_false_iff]
  intro hgraphic
  simp [isControl_of_isGraphic hgraphic] at hcontrol

end AboutPages.Text
