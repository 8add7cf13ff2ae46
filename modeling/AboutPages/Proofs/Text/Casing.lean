import AboutPages.Text.Blank
import AboutPages.Text.Casing

/-!
# What lower-casing keeps and what it ignores

A code point that no run of `lowerRuns` reaches keeps its place in a lower-cased text; blanks and
controls are such code points. The case of the letters A to Z is invisible to lower-casing, also to
the rule for the final sigma, which looks at whole neighbourhoods. A lower-cased text is made of
code points that lower-casing keeps, so that lower-casing it again changes nothing; and what was not
in the text before is a letter, or the mark that a dotted capital I leaves behind.
-/

namespace AboutPages.Text

/-! ## Stretches that a table leaves alone -/

def CodeRanges.Apart (ranges : CodeRanges) (first last : Nat) : Prop :=
  ∀ range ∈ ranges, range.2 < first ∨ last < range.1

instance (ranges : CodeRanges) (first last : Nat) : Decidable (ranges.Apart first last) :=
  inferInstanceAs (Decidable (∀ range ∈ ranges, range.2 < first ∨ last < range.1))

def CodeRun.Apart (runs : List CodeRun) (first last : Nat) : Prop :=
  ∀ run ∈ runs, run.last < first ∨ last < run.first

instance (runs : List CodeRun) (first last : Nat) : Decidable (CodeRun.Apart runs first last) :=
  inferInstanceAs (Decidable (∀ run ∈ runs, run.last < first ∨ last < run.first))

theorem CodeRanges.holds_eq_false_of_apart {ranges : CodeRanges} {first last n : Nat}
    (hapart : ranges.Apart first last) (hfirst : first ≤ n) (hlast : n ≤ last) :
    ranges.holds n = false := by
  rw [Bool.eq_false_iff]
  intro hholds
  obtain ⟨range, hmem, hlow, hhigh⟩ := (CodeRanges.holds_iff ranges n).mp hholds
  have hside := hapart range hmem
  omega

theorem CodeRun.image?_eq_none_of_apart {runs : List CodeRun} {first last n : Nat}
    (hapart : CodeRun.Apart runs first last) (hfirst : first ≤ n) (hlast : n ≤ last) :
    CodeRun.image? runs n = none := by
  rw [CodeRun.image?_eq_none_iff]
  intro run hmem
  have hside := hapart run hmem
  simp only [CodeRun.covers, decide_eq_false_iff_not]
  omega

/-! ## Characters that stay as they are -/

/-- Lower-casing replaces the character by itself, wherever it stands. -/
def Fixed (c : Char) : Prop := c ≠ 'Σ' ∧ lowerChar c = [c]

/-- The stretch holds no capital letter: none that a run moves, and neither of the two letters with
a rule of their own. -/
def Caseless (first last : Nat) : Prop :=
  CodeRun.Apart lowerRuns first last ∧ ¬(first ≤ 0x3A3 ∧ 0x3A3 ≤ last) ∧
    ¬(first ≤ 0x130 ∧ 0x130 ≤ last)

instance (first last : Nat) : Decidable (Caseless first last) :=
  inferInstanceAs (Decidable (_ ∧ _ ∧ _))

theorem fixed_of_caseless {c : Char} {first last : Nat} (hcaseless : Caseless first last)
    (hfirst : first ≤ c.toNat) (hlast : c.toNat ≤ last) : Fixed c := by
  obtain ⟨hapart, hsigma, hdotted⟩ := hcaseless
  constructor
  · rintro rfl
    exact hsigma ⟨hfirst, hlast⟩
  · have hne : c ≠ 'İ' := by
      rintro rfl
      exact hdotted ⟨hfirst, hlast⟩
    simp [lowerChar, hne, CodeRun.image?_eq_none_of_apart hapart hfirst hlast]

theorem caseless_low : Caseless 0 0x40 := by decide +kernel

theorem caseless_small : Caseless 0x61 0x7A := by decide +kernel

theorem caseless_highControl : Caseless 0x7F 0x9F := by decide +kernel

theorem caseless_blank : ∀ range ∈ blankRanges, Caseless range.1 range.2 := by decide +kernel

/-- Everything below the letters stays: digits, punctuation and the lower block of controls. -/
theorem fixed_of_le {c : Char} (hlast : c.toNat ≤ 0x40) : Fixed c :=
  fixed_of_caseless caseless_low (Nat.zero_le _) hlast

theorem fixed_of_small {c : Char} (hfirst : 0x61 ≤ c.toNat) (hlast : c.toNat ≤ 0x7A) : Fixed c :=
  fixed_of_caseless caseless_small hfirst hlast

theorem fixed_of_isBlank {c : Char} (hblank : isBlank c = true) : Fixed c := by
  obtain ⟨range, hmem, hfirst, hlast⟩ := (CodeRanges.holds_iff blankRanges c.toNat).mp hblank
  exact fixed_of_caseless (caseless_blank range hmem) hfirst hlast

theorem fixed_of_isControl {c : Char} (hcontrol : isControl c = true) : Fixed c := by
  simp only [isControl, decide_eq_true_eq] at hcontrol
  rcases hcontrol with hlow | ⟨hfirst, hlast⟩
  · exact fixed_of_le (by omega)
  · exact fixed_of_caseless caseless_highControl hfirst hlast

theorem mem_lowerFrom_of_fixed {c : Char} (hfixed : Fixed c) {cs : List Char} (hmem : c ∈ cs)
    (before : Bool) : c ∈ lowerFrom before cs := by
  induction cs generalizing before with
  | nil => simp at hmem
  | cons d rest ih =>
      rw [lowerFrom]
      rcases List.mem_cons.mp hmem with rfl | hrest
      · rw [if_neg hfixed.1, hfixed.2]
        exact List.mem_append_left _ (List.mem_singleton_self c)
      · exact List.mem_append_right _ (ih hrest (casedAfter before d))

theorem mem_lowercase_of_fixed {c : Char} (hfixed : Fixed c) {text : String}
    (hmem : c ∈ text.toList) : c ∈ (lowercase text).toList := by
  rw [lowercase, String.toList_ofList]
  exact mem_lowerFrom_of_fixed hfixed hmem false

theorem lowerFrom_eq_self_of_fixed {cs : List Char} (hfixed : ∀ c ∈ cs, Fixed c) (before : Bool) :
    lowerFrom before cs = cs := by
  induction cs generalizing before with
  | nil => rfl
  | cons c rest ih =>
      have hc := hfixed c List.mem_cons_self
      rw [lowerFrom, if_neg hc.1, hc.2, ih fun d hd => hfixed d (List.mem_cons_of_mem c hd)]
      rfl

theorem lowercase_eq_self_of_fixed {text : String} (hfixed : ∀ c ∈ text.toList, Fixed c) :
    lowercase text = text := by
  rw [lowercase, lowerFrom_eq_self_of_fixed hfixed, String.ofList_toList]

/-! ## The case of A to Z -/

/-- Either the character is no letter from A to Z, or it moves up by 32 code points. -/
theorem toLower_cases (c : Char) :
    c.toLower = c ∨ (0x41 ≤ c.toNat ∧ c.toNat ≤ 0x5A ∧ c.toLower.toNat = c.toNat + 32) := by
  unfold Char.toLower
  split
  · rename_i hcapital
    obtain ⟨hfirst, hlast⟩ := hcapital
    have hlow : 65 ≤ c.val.toNat := hfirst
    have hhigh : c.val.toNat ≤ 90 := hlast
    refine Or.inr ⟨hlow, hhigh, ?_⟩
    change (c.val + ('a'.val - 'A'.val)).toNat = c.val.toNat + 32
    have hstep : ('a'.val - 'A'.val).toNat = 32 := by decide
    rw [UInt32.toNat_add, hstep]
    omega
  · exact Or.inl rfl

/-- A table that is apart from both alphabets does not see the case of A to Z. -/
theorem CodeRanges.holds_toLower {ranges : CodeRanges}
    (hapart : ranges.Apart 0x41 0x5A ∧ ranges.Apart 0x61 0x7A) (c : Char) :
    ranges.holds c.toLower.toNat = ranges.holds c.toNat := by
  rcases toLower_cases c with hsame | ⟨hfirst, hlast, hcode⟩
  · rw [hsame]
  · obtain ⟨hcapital, hsmall⟩ := hapart
    rw [holds_eq_false_of_apart hcapital hfirst hlast,
      holds_eq_false_of_apart hsmall (by omega) (by omega)]

theorem isCaseIgnorable_toLower (c : Char) : isCaseIgnorable c.toLower = isCaseIgnorable c :=
  CodeRanges.holds_toLower (by decide +kernel) c

theorem isBlank_toLower (c : Char) : isBlank c.toLower = isBlank c :=
  CodeRanges.holds_toLower (by decide +kernel) c

theorem letters_mem_casedRanges : (0x41, 0x5A) ∈ casedRanges ∧ (0x61, 0x7A) ∈ casedRanges := by
  decide +kernel

theorem isCased_toLower (c : Char) : isCased c.toLower = isCased c := by
  rcases toLower_cases c with hsame | ⟨hfirst, hlast, hcode⟩
  · rw [hsame]
  · obtain ⟨hcapital, hsmall⟩ := letters_mem_casedRanges
    have hcased : isCased c = true :=
      (CodeRanges.holds_iff _ _).mpr ⟨_, hcapital, hfirst, hlast⟩
    have hlower : isCased c.toLower = true :=
      (CodeRanges.holds_iff _ _).mpr ⟨_, hsmall, by omega, by omega⟩
    rw [hcased, hlower]

theorem CodeRun.image?_cons_of_covers {run : CodeRun} {n : Nat} (hcovers : run.covers n = true)
    (runs : List CodeRun) : CodeRun.image? (run :: runs) n = some (run.apply n) := by
  simp [CodeRun.image?, hcovers]

theorem lowerRuns_head : lowerRuns = ⟨0x41, 0x5A, 1, 0x61⟩ :: lowerRuns.tail := rfl

/-- The first run of the table takes each letter from A to Z to its small form. -/
theorem lowerChar_of_capital {c : Char} (hfirst : 0x41 ≤ c.toNat) (hlast : c.toNat ≤ 0x5A) :
    lowerChar c = [Char.ofNat (c.toNat + 32)] := by
  have hdot : c ≠ 'İ' := by
    rintro rfl
    have hcode : 'İ'.toNat = 0x130 := by decide
    omega
  have hrun : (⟨0x41, 0x5A, 1, 0x61⟩ : CodeRun).covers c.toNat = true := by
    simp only [CodeRun.covers, decide_eq_true_eq]
    omega
  have himage : CodeRun.image? lowerRuns c.toNat = some (c.toNat + 32) := by
    rw [lowerRuns_head, CodeRun.image?_cons_of_covers hrun]
    simp only [CodeRun.apply, Option.some.injEq]
    omega
  simp [lowerChar, hdot, himage]

theorem lowerChar_toLower (c : Char) : lowerChar c.toLower = lowerChar c := by
  rcases toLower_cases c with hsame | ⟨hfirst, hlast, hcode⟩
  · rw [hsame]
  · have hfixed : Fixed c.toLower := fixed_of_small (by omega) (by omega)
    rw [hfixed.2, lowerChar_of_capital hfirst hlast, ← hcode, Char.ofNat_toNat]

theorem toLower_eq_sigma_iff (c : Char) : c.toLower = 'Σ' ↔ c = 'Σ' := by
  rcases toLower_cases c with hsame | ⟨hfirst, hlast, hcode⟩
  · rw [hsame]
  · have hsigma : 'Σ'.toNat = 0x3A3 := by decide
    constructor
    · intro h
      rw [h] at hcode
      omega
    · rintro rfl
      omega

theorem casedAfter_toLower (before : Bool) (c : Char) :
    casedAfter before c.toLower = casedAfter before c := by
  rw [casedAfter, casedAfter, isCaseIgnorable_toLower, isCased_toLower]

theorem meetsCased_map_toLower (cs : List Char) :
    meetsCased (cs.map Char.toLower) = meetsCased cs := by
  induction cs with
  | nil => rfl
  | cons c rest ih =>
      rw [List.map_cons, meetsCased, meetsCased, isCaseIgnorable_toLower, isCased_toLower, ih]

/-- Lower-casing does not see the case of A to Z, in whatever context a letter stands. -/
theorem lowerFrom_map_toLower (cs : List Char) (before : Bool) :
    lowerFrom before (cs.map Char.toLower) = lowerFrom before cs := by
  induction cs generalizing before with
  | nil => rfl
  | cons c rest ih =>
      -- A sigma looks back through `casedAfter` and ahead through `meetsCased`.
      rw [List.map_cons, lowerFrom, lowerFrom, casedAfter_toLower, ih, lowerChar_toLower,
        meetsCased_map_toLower]
      simp only [toLower_eq_sigma_iff]

theorem lowercase_eq_of_sameIgnoringCase {a b : String}
    (hsame : sameIgnoringCase a.toList b.toList = true) : lowercase a = lowercase b := by
  have hmap : a.toList.map Char.toLower = b.toList.map Char.toLower := of_decide_eq_true hsame
  rw [lowercase, lowercase, ← lowerFrom_map_toLower a.toList, hmap, lowerFrom_map_toLower]

/-! ## Lower-casing twice -/

/-- The images of a run are clear of another run: they lie beyond it, or both go by every second
code point and start on different sides of the even numbers. -/
def CodeRun.misses (run other : CodeRun) : Bool :=
  Nat.blt (run.image + (run.last - run.first)) other.first || Nat.blt other.last run.image ||
    (Nat.beq other.step 2 && (Nat.beq run.step 2 || Nat.beq run.first run.last) &&
      !Nat.beq (run.image % 2) (other.first % 2))

theorem CodeRun.misses_iff (run other : CodeRun) :
    run.misses other = true ↔
      run.image + (run.last - run.first) < other.first ∨ other.last < run.image ∨
        other.step = 2 ∧ (run.step = 2 ∨ run.first = run.last) ∧
          run.image % 2 ≠ other.first % 2 := by
  have hparity : (!Nat.beq (run.image % 2) (other.first % 2)) = true ↔
      run.image % 2 ≠ other.first % 2 := by
    rw [Bool.not_eq_true', Bool.eq_false_iff, ne_eq, Nat.beq_eq]
  simp [misses, or_assoc, and_assoc, hparity]

theorem CodeRun.covers_iff (run : CodeRun) (n : Nat) :
    run.covers n = true ↔ run.first ≤ n ∧ n ≤ run.last ∧ (n - run.first) % run.step = 0 := by
  rw [covers, decide_eq_true_iff]

theorem CodeRun.covers_apply_eq_false {run other : CodeRun} (hmisses : run.misses other = true)
    {n : Nat} (hcovers : run.covers n = true) : other.covers (run.apply n) = false := by
  obtain ⟨hfirst, hlast, hstep⟩ := (covers_iff run n).mp hcovers
  rw [Bool.eq_false_iff]
  intro hother
  obtain ⟨hotherFirst, hotherLast, hotherStep⟩ := (covers_iff other _).mp hother
  rw [apply] at hotherFirst hotherLast hotherStep
  rcases (misses_iff run other).mp hmisses with hbelow | habove | ⟨htwo, hrun, hparity⟩
  · omega
  · omega
  · rw [htwo] at hotherStep
    rcases hrun with hrun | hsingle
    · rw [hrun] at hstep
      omega
    · omega

theorem CodeRun.exists_of_image? {runs : List CodeRun} {n m : Nat}
    (himage : CodeRun.image? runs n = some m) :
    ∃ run ∈ runs, run.covers n = true ∧ run.apply n = m := by
  obtain ⟨run, hfind, happly⟩ := Option.map_eq_some_iff.mp himage
  have hcovers : run.covers n = true := by simpa using List.find?_some hfind
  exact ⟨run, List.mem_of_find?_eq_some hfind, hcovers, happly⟩

def CodeRun.ImagesApart (runs : List CodeRun) (first last : Nat) : Prop :=
  ∀ run ∈ runs, run.image + (run.last - run.first) < first ∨ last < run.image

instance (runs : List CodeRun) (first last : Nat) :
    Decidable (CodeRun.ImagesApart runs first last) :=
  inferInstanceAs (Decidable (∀ run ∈ runs,
    run.image + (run.last - run.first) < first ∨ last < run.image))

theorem CodeRun.image?_apart {runs : List CodeRun} {first last n m : Nat}
    (hapart : CodeRun.ImagesApart runs first last) (himage : CodeRun.image? runs n = some m) :
    m < first ∨ last < m := by
  obtain ⟨run, hrun, hcovers, happly⟩ := exists_of_image? himage
  have hside := hapart run hrun
  obtain ⟨hfirst, hlast, _⟩ := (covers_iff run n).mp hcovers
  rw [apply] at happly
  omega

/-- No small letter of the table is a capital letter of it. -/
theorem lowerRuns_misses : lowerRuns.all (fun run => lowerRuns.all run.misses) = true := by
  decide +kernel

/-- Neither is one of the two capital letters with a rule of their own. -/
theorem imagesApart_special :
    ∀ special ∈ [0x130, 0x3A3], CodeRun.ImagesApart lowerRuns special special := by
  decide +kernel

/-- The small letters of the table are code points of characters. -/
theorem imagesApart_surrogates : CodeRun.ImagesApart lowerRuns 0xD800 0xDFFF := by decide +kernel

theorem lowerRuns_bounded :
    ∀ run ∈ lowerRuns, run.image + (run.last - run.first) < 0x110000 := by decide +kernel

theorem image?_of_image {n m : Nat} (himage : CodeRun.image? lowerRuns n = some m) :
    CodeRun.image? lowerRuns m = none := by
  obtain ⟨run, hrun, hcovers, happly⟩ := CodeRun.exists_of_image? himage
  rw [CodeRun.image?_eq_none_iff]
  intro other hother
  rw [← happly]
  have hmisses := List.all_eq_true.mp (List.all_eq_true.mp lowerRuns_misses run hrun) other hother
  exact CodeRun.covers_apply_eq_false hmisses hcovers

theorem image_ne_special {n m special : Nat} (himage : CodeRun.image? lowerRuns n = some m)
    (hspecial : special ∈ [0x130, 0x3A3]) : m ≠ special := by
  have hside := CodeRun.image?_apart (imagesApart_special special hspecial) himage
  omega

theorem toNat_ofNat_of_isValidChar {n : Nat} (hvalid : n.isValidChar) :
    (Char.ofNat n).toNat = n := by
  rw [Char.ofNat, dif_pos hvalid]
  rfl

theorem toNat_ofNat_image {n m : Nat} (himage : CodeRun.image? lowerRuns n = some m) :
    (Char.ofNat m).toNat = m := by
  have hside := CodeRun.image?_apart imagesApart_surrogates himage
  have hbound : m < 0x110000 := by
    obtain ⟨run, hrun, hcovers, happly⟩ := CodeRun.exists_of_image? himage
    have hlargest := lowerRuns_bounded run hrun
    obtain ⟨hfirst, hlast, _⟩ := (CodeRun.covers_iff run n).mp hcovers
    rw [CodeRun.apply] at happly
    omega
  exact toNat_ofNat_of_isValidChar (hside.imp id fun habove => ⟨habove, hbound⟩)

theorem fixed_of_image {n m : Nat} (himage : CodeRun.image? lowerRuns n = some m) :
    Fixed (Char.ofNat m) := by
  have hcode := toNat_ofNat_image himage
  have hdotted : Char.ofNat m ≠ 'İ' := by
    intro heq
    rw [heq] at hcode
    exact image_ne_special himage (by simp) hcode.symm
  have hsigma : Char.ofNat m ≠ 'Σ' := by
    intro heq
    rw [heq] at hcode
    exact image_ne_special himage (by simp) hcode.symm
  refine ⟨hsigma, ?_⟩
  simp [lowerChar, hdotted, hcode, image?_of_image himage]

theorem fixed_special : ∀ c ∈ ['i', '\u0307', 'σ', 'ς'], Fixed c := by
  have hmark : '\u0307' ≠ 'Σ' ∧ lowerChar '\u0307' = ['\u0307'] := by decide +kernel
  have hsmall : 'σ' ≠ 'Σ' ∧ lowerChar 'σ' = ['σ'] := by decide +kernel
  have hfinal : 'ς' ≠ 'Σ' ∧ lowerChar 'ς' = ['ς'] := by decide +kernel
  simp only [List.forall_mem_cons]
  exact ⟨fixed_of_small (by decide) (by decide), hmark, hsmall, hfinal, List.forall_mem_nil _⟩

theorem mem_lowerChar {c d : Char} (hmem : d ∈ lowerChar c) :
    d ∈ ['i', '\u0307'] ∨ (∃ n m, CodeRun.image? lowerRuns n = some m ∧ d = Char.ofNat m) ∨
      (d = c ∧ lowerChar c = [c]) := by
  by_cases hdotted : c = 'İ'
  · rw [lowerChar, if_pos hdotted] at hmem
    exact Or.inl hmem
  · cases himage : CodeRun.image? lowerRuns c.toNat with
    | some m =>
        simp only [lowerChar, hdotted, himage, if_false, List.mem_singleton] at hmem
        exact Or.inr (Or.inl ⟨c.toNat, m, himage, hmem⟩)
    | none =>
        have hself : lowerChar c = [c] := by simp [lowerChar, hdotted, himage]
        rw [hself, List.mem_singleton] at hmem
        exact Or.inr (Or.inr ⟨hmem, hself⟩)

/-- Where the characters of a lower-cased text come from: a letter with a rule of its own, a run of
the table, or the text itself. -/
theorem mem_lowerFrom {cs : List Char} {before : Bool} {d : Char}
    (hmem : d ∈ lowerFrom before cs) :
    d ∈ ['i', '\u0307', 'σ', 'ς'] ∨
      (∃ n m, CodeRun.image? lowerRuns n = some m ∧ d = Char.ofNat m) ∨ (d ∈ cs ∧ Fixed d) := by
  induction cs generalizing before with
  | nil => simp [lowerFrom] at hmem
  | cons c rest ih =>
      rw [lowerFrom] at hmem
      rcases List.mem_append.mp hmem with hhead | htail
      · by_cases hsigma : c = 'Σ'
        · simp only [hsigma, if_true, List.mem_singleton] at hhead
          left
          rw [hhead]
          split <;> simp
        · rw [if_neg hsigma] at hhead
          rcases mem_lowerChar hhead with hdotted | himage | ⟨rfl, hself⟩
          · exact Or.inl (List.mem_append_left ['σ', 'ς'] hdotted)
          · exact Or.inr (Or.inl himage)
          · exact Or.inr (Or.inr ⟨List.mem_cons_self, hsigma, hself⟩)
      · rcases ih htail with hspecial | himage | ⟨hrest, hfixed⟩
        · exact Or.inl hspecial
        · exact Or.inr (Or.inl himage)
        · exact Or.inr (Or.inr ⟨List.mem_cons_of_mem c hrest, hfixed⟩)

/-- Nothing in a lower-cased text can change any more, not even by the rule for the sigma. -/
theorem fixed_of_mem_lowerFrom {cs : List Char} {before : Bool} {d : Char}
    (hmem : d ∈ lowerFrom before cs) : Fixed d := by
  rcases mem_lowerFrom hmem with hspecial | ⟨n, m, himage, rfl⟩ | ⟨_, hfixed⟩
  · exact fixed_special d hspecial
  · exact fixed_of_image himage
  · exact hfixed

theorem fixed_of_mem_lowercase {text : String} {c : Char} (hmem : c ∈ (lowercase text).toList) :
    Fixed c := by
  rw [lowercase, String.toList_ofList] at hmem
  exact fixed_of_mem_lowerFrom hmem

theorem lowercase_lowercase (text : String) : lowercase (lowercase text) = lowercase text :=
  lowercase_eq_self_of_fixed fun _ => fixed_of_mem_lowercase

/-- That a text is in lower case can be told from its characters one by one, though lower-casing
looks at their neighbours. -/
theorem lowercase_eq_self_iff (text : String) :
    lowercase text = text ↔ ∀ c ∈ text.toList, Fixed c := by
  refine ⟨?_, lowercase_eq_self_of_fixed⟩
  intro hself c hc
  rw [← hself] at hc
  exact fixed_of_mem_lowercase hc

/-! ## What lower-casing brings in -/

/-- A character that can stand within a word: it lies above the signs and digits, and is neither
blank nor control. -/
def Wordlike (c : Char) : Prop := 0x40 < c.toNat ∧ isBlank c = false ∧ isControl c = false

instance (c : Char) : Decidable (Wordlike c) := inferInstanceAs (Decidable (_ ∧ _ ∧ _))

theorem imagesApart_low : CodeRun.ImagesApart lowerRuns 0 0x40 := by decide +kernel

theorem imagesApart_highControl : CodeRun.ImagesApart lowerRuns 0x7F 0x9F := by decide +kernel

theorem imagesApart_blank :
    ∀ range ∈ blankRanges, CodeRun.ImagesApart lowerRuns range.1 range.2 := by decide +kernel

theorem wordlike_of_image {n m : Nat} (himage : CodeRun.image? lowerRuns n = some m) :
    Wordlike (Char.ofNat m) := by
  have hcode := toNat_ofNat_image himage
  have hlow := CodeRun.image?_apart imagesApart_low himage
  have hcontrol := CodeRun.image?_apart imagesApart_highControl himage
  refine ⟨by omega, ?_, ?_⟩
  · rw [Bool.eq_false_iff]
    intro hblank
    obtain ⟨range, hmem, hfirst, hlast⟩ := (CodeRanges.holds_iff blankRanges _).mp hblank
    have hside := CodeRun.image?_apart (imagesApart_blank range hmem) himage
    omega
  · simp only [isControl, decide_eq_false_iff_not]
    omega

theorem wordlike_special : ['i', '\u0307', 'σ', 'ς'].all (fun c => decide (Wordlike c)) = true := by
  decide

theorem mem_or_wordlike_of_mem_lowercase {text : String} {d : Char}
    (hmem : d ∈ (lowercase text).toList) : d ∈ text.toList ∨ Wordlike d := by
  rw [lowercase, String.toList_ofList] at hmem
  rcases mem_lowerFrom hmem with hspecial | ⟨n, m, himage, rfl⟩ | ⟨hkept, _⟩
  · exact Or.inr (of_decide_eq_true (List.all_eq_true.mp wordlike_special d hspecial))
  · exact Or.inr (wordlike_of_image himage)
  · exact Or.inl hkept

/-- A fixed character that is not part of words is replaced by itself, and replaces nothing else. -/
theorem count_lowerFrom {c : Char} (hfixed : Fixed c) (hword : ¬Wordlike c) (cs : List Char)
    (before : Bool) : (lowerFrom before cs).count c = cs.count c := by
  have hspecial : c ∉ ['i', '\u0307', 'σ', 'ς'] := by
    intro hmem
    exact hword (of_decide_eq_true (List.all_eq_true.mp wordlike_special c hmem))
  have hsmall : ∀ final : Bool, [if final then 'ς' else 'σ'].count c = 0 := by
    intro final
    rw [List.count_eq_zero, List.mem_singleton]
    rintro rfl
    exact hspecial (by cases final <;> simp)
  have himage : ∀ d, d ≠ c → (lowerChar d).count c = 0 := by
    intro d hne
    rw [List.count_eq_zero]
    intro hmem
    rcases mem_lowerChar hmem with hdotted | ⟨n, m, hrun, rfl⟩ | ⟨rfl, _⟩
    · exact hspecial (List.mem_append_left ['σ', 'ς'] hdotted)
    · exact hword (wordlike_of_image hrun)
    · exact hne rfl
  induction cs generalizing before with
  | nil => rfl
  | cons d rest ih =>
      rw [lowerFrom, List.count_append, ih, List.count_cons, Nat.add_comm]
      congr 1
      by_cases hsigma : d = 'Σ'
      · have hne : d ≠ c := by
          rintro rfl
          exact hfixed.1 hsigma
        rw [if_pos hsigma, hsmall, beq_eq_false_iff_ne.mpr hne]
        rfl
      · rw [if_neg hsigma]
        by_cases hsame : d = c
        · rw [hsame, hfixed.2]
          simp
        · rw [himage d hsame, beq_eq_false_iff_ne.mpr hsame]
          rfl

theorem lowerChar_ne_nil (c : Char) : lowerChar c ≠ [] := by
  unfold lowerChar
  split
  · simp
  · split <;> simp

theorem lowercase_ne_empty {text : String} (hne : text ≠ "") : lowercase text ≠ "" := by
  intro hempty
  have hlist : lowerFrom false text.toList = [] := by
    rw [← String.toList_ofList (l := lowerFrom false text.toList)]
    exact congrArg String.toList hempty
  cases htext : text.toList with
  | nil => exact hne (String.toList_eq_nil_iff.mp htext)
  | cons c rest =>
      rw [htext, lowerFrom, List.append_eq_nil_iff] at hlist
      by_cases hsigma : c = 'Σ'
      · simp [hsigma] at hlist
      · rw [if_neg hsigma] at hlist
        exact lowerChar_ne_nil c hlist.1

end AboutPages.Text
