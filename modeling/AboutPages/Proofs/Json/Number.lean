import AboutPages.Proofs.Json.Grammar

/-!
# Recognizing numbers

The check that the reader makes of a number, cut at the mark of its exponent and at its point,
accepts what the grammar calls a number and nothing else.
-/

namespace AboutPages.Json

open Text

theorem isDigits_iff {cs : List Char} : isDigits cs = true ↔ IsDigits cs := by
  rw [isDigits, Bool.and_eq_true, List.all_eq_true]
  constructor
  · rintro ⟨hnonempty, hdigits⟩
    exact ⟨by simpa using hnonempty, hdigits⟩
  · rintro ⟨hnonempty, hdigits⟩
    exact ⟨by simpa using hnonempty, hdigits⟩

theorem isWhole_iff {cs : List Char} : isWhole cs = true ↔ IsWholePart cs := by
  rw [isWhole, Bool.and_eq_true, isDigits_iff]
  constructor
  · rintro ⟨⟨hnonempty, hdigits⟩, hzero⟩
    obtain ⟨first, more, rfl⟩ := List.exists_cons_of_ne_nil hnonempty
    rw [List.forall_mem_cons] at hdigits
    by_cases hfirst : first = '0'
    · have hmore : more = [] := by simpa [hfirst] using hzero
      rw [hfirst, hmore]
      exact .zero
    · exact .positive hdigits.1 hfirst hdigits.2
  · intro hwhole
    cases hwhole with
    | zero => exact ⟨⟨by simp, List.forall_mem_singleton.mpr (by decide)⟩, by decide⟩
    | positive hdigit hnonzero hmore =>
        exact ⟨⟨by simp, List.forall_mem_cons.mpr ⟨hdigit, hmore⟩⟩, by simp [hnonzero]⟩

theorem IsWholePart.isDigits {cs : List Char} (hwhole : IsWholePart cs) : IsDigits cs := by
  have hdigits := isWhole_iff.mpr hwhole
  rw [isWhole, Bool.and_eq_true] at hdigits
  exact isDigits_iff.mp hdigits.1

theorem IsDigits.not_mem {cs : List Char} (hdigits : IsDigits cs) {c : Char}
    (hc : c.isDigit = false) : c ∉ cs := by
  intro hmem
  rw [hdigits.digits c hmem] at hc
  cases hc

/-- A mantissa has at most one point, with digits before and behind it. -/
theorem isMantissa_iff {cs : List Char} :
    isMantissa cs = true ↔
      ∃ whole fraction, IsWholePart whole ∧ IsFraction fraction ∧ cs = whole ++ fraction := by
  have hpoint : Char.isDigit '.' = false := by decide
  constructor
  · intro hmantissa
    by_cases hmem : '.' ∈ cs
    · obtain ⟨whole, digits, rfl, hwhole⟩ := List.eq_append_cons_of_mem hmem
      rw [isMantissa, pieces_append_sep, pieces_of_not_mem hwhole] at hmantissa
      by_cases hsecond : '.' ∈ digits
      · obtain ⟨front, back, rfl, hfront⟩ := List.eq_append_cons_of_mem hsecond
        obtain ⟨piece, more, hpieces⟩ := exists_pieces_eq_cons '.' back
        rw [pieces_append_sep, pieces_of_not_mem hfront, hpieces] at hmantissa
        cases hmantissa
      · rw [pieces_of_not_mem hsecond] at hmantissa
        obtain ⟨hleft, hright⟩ := Bool.and_eq_true_iff.mp hmantissa
        exact ⟨whole, '.' :: digits, isWhole_iff.mp hleft, .present (isDigits_iff.mp hright), rfl⟩
    · rw [isMantissa, pieces_of_not_mem hmem] at hmantissa
      exact ⟨cs, [], isWhole_iff.mp hmantissa, .absent, (List.append_nil cs).symm⟩
  · rintro ⟨whole, fraction, hwhole, hfraction, rfl⟩
    have hleft := pieces_of_not_mem (hwhole.isDigits.not_mem hpoint)
    cases hfraction with
    | absent =>
        rw [isMantissa, List.append_nil, hleft]
        exact isWhole_iff.mpr hwhole
    | present hdigits =>
        rw [isMantissa, pieces_append_sep, hleft, pieces_of_not_mem (hdigits.not_mem hpoint)]
        exact Bool.and_eq_true_iff.mpr ⟨isWhole_iff.mpr hwhole, isDigits_iff.mpr hdigits⟩

theorem isExponent_cons_iff {mark : Char} {cs : List Char} :
    isExponent (mark :: cs) = true ↔
      ∃ sign digits, sign ∈ [[], ['+'], ['-']] ∧ IsDigits digits ∧ cs = sign ++ digits := by
  constructor
  · intro hexponent
    unfold isExponent at hexponent
    split at hexponent
    · contradiction
    · rename_i heq
      cases heq
      exact ⟨['+'], _, by simp, isDigits_iff.mp hexponent, rfl⟩
    · rename_i heq
      cases heq
      exact ⟨['-'], _, by simp, isDigits_iff.mp hexponent, rfl⟩
    · rename_i heq
      cases heq
      exact ⟨[], _, by simp, isDigits_iff.mp hexponent, rfl⟩
  · rintro ⟨sign, digits, hsign, hdigits, rfl⟩
    simp only [List.mem_cons, List.not_mem_nil, or_false] at hsign
    rcases hsign with rfl | rfl | rfl
    · obtain ⟨first, more, rfl⟩ := List.exists_cons_of_ne_nil hdigits.nonempty
      have hplus : first ≠ '+' := by
        rintro rfl
        exact hdigits.not_mem (by decide) List.mem_cons_self
      have hminus : first ≠ '-' := by
        rintro rfl
        exact hdigits.not_mem (by decide) List.mem_cons_self
      rw [List.nil_append, isExponent]
      · exact isDigits_iff.mpr hdigits
      · intro _ heq
        exact hplus (List.cons.inj heq).1
      · intro _ heq
        exact hminus (List.cons.inj heq).1
    · exact isDigits_iff.mpr hdigits
    · exact isDigits_iff.mpr hdigits

/-- A number without its sign: a mantissa up to the first mark of an exponent, and the exponent. -/
theorem isMantissa_isExponent_iff {body : List Char} :
    isMantissa (body.takeWhile fun c => decide (c ≠ 'e' ∧ c ≠ 'E')) = true ∧
      isExponent (body.dropWhile fun c => decide (c ≠ 'e' ∧ c ≠ 'E')) = true ↔
    ∃ whole fraction exponent, IsWholePart whole ∧ IsFraction fraction ∧ IsExponent exponent ∧
      body = whole ++ (fraction ++ exponent) := by
  constructor
  · rintro ⟨hmantissa, hexponent⟩
    obtain ⟨whole, fraction, hwhole, hfraction, hfront⟩ := isMantissa_iff.mp hmantissa
    have hbody : body = whole ++ (fraction ++
        body.dropWhile fun c => decide (c ≠ 'e' ∧ c ≠ 'E')) := by
      rw [← List.append_assoc, ← hfront, List.takeWhile_append_dropWhile]
    refine ⟨whole, fraction, _, hwhole, hfraction, ?_, hbody⟩
    cases hback : body.dropWhile fun c => decide (c ≠ 'e' ∧ c ≠ 'E') with
    | nil => exact .absent
    | cons mark more =>
        have hstop := head?_dropWhile_eq_false mark (by rw [hback]; rfl)
        have hmark : mark = 'e' ∨ mark = 'E' := by
          rwa [decide_eq_false_iff_not, Decidable.not_and_iff_or_not, Decidable.not_not,
            Decidable.not_not] at hstop
        rw [hback] at hexponent
        obtain ⟨sign, digits, hsign, hdigits, rfl⟩ := isExponent_cons_iff.mp hexponent
        exact .present hmark hsign hdigits
  · rintro ⟨whole, fraction, exponent, hwhole, hfraction, hexponent, rfl⟩
    have hfront : ∀ c ∈ whole ++ fraction, decide (c ≠ 'e' ∧ c ≠ 'E') = true := by
      have hdigits : ∀ {cs : List Char}, IsDigits cs → ∀ c ∈ cs, c ≠ 'e' ∧ c ≠ 'E' := by
        intro cs hcs c hc
        refine ⟨?_, ?_⟩
        · rintro rfl
          exact hcs.not_mem (by decide) hc
        · rintro rfl
          exact hcs.not_mem (by decide) hc
      intro c hc
      rw [decide_eq_true_iff]
      rcases List.mem_append.mp hc with hc | hc
      · exact hdigits hwhole.isDigits c hc
      · cases hfraction with
        | absent => cases hc
        | present hfraction =>
            rcases List.mem_cons.mp hc with rfl | hc
            · decide
            · exact hdigits hfraction c hc
    have hback : ∀ c ∈ exponent.head?, decide (c ≠ 'e' ∧ c ≠ 'E') = false := by
      cases hexponent with
      | absent => simp
      | present hmark _ _ => rcases hmark with rfl | rfl <;> simp
    obtain ⟨htake, hdrop⟩ := takeWhile_dropWhile_seam hfront hback
    rw [← List.append_assoc, htake, hdrop]
    refine ⟨isMantissa_iff.mpr ⟨whole, fraction, hwhole, hfraction, rfl⟩, ?_⟩
    cases hexponent with
    | absent => rfl
    | present _ hsign hdigits => exact isExponent_cons_iff.mpr ⟨_, _, hsign, hdigits, rfl⟩

theorem isNumber_iff {cs : List Char} : isNumber cs = true ↔ IsNumber cs := by
  have hunsigned : isNumber cs = true ↔ ∃ whole fraction exponent, IsWholePart whole ∧
      IsFraction fraction ∧ IsExponent exponent ∧
      (if cs.head? = some '-' then cs.drop 1 else cs) = whole ++ (fraction ++ exponent) := by
    simp only [isNumber, drop_length_takeWhile, Bool.and_eq_true, isMantissa_isExponent_iff]
  rw [hunsigned]
  constructor
  · rintro ⟨whole, fraction, exponent, hwhole, hfraction, hexponent, hbody⟩
    by_cases hminus : cs.head? = some '-'
    · rw [if_pos hminus] at hbody
      obtain ⟨body, rfl⟩ := List.head?_eq_some_iff.mp hminus
      rw [List.drop_one, List.tail_cons] at hbody
      rw [hbody]
      have hsign : ['-'] ∈ [[], ['-']] := by simp
      exact .parts hsign hwhole hfraction hexponent
    · rw [if_neg hminus] at hbody
      rw [hbody]
      have hsign : ([] : List Char) ∈ [[], ['-']] := by simp
      have hnumber := IsNumber.parts hsign hwhole hfraction hexponent
      exact hnumber
  · intro hnumber
    cases hnumber with
    | @parts sign whole fraction exponent hsign hwhole hfraction hexponent =>
        refine ⟨whole, fraction, exponent, hwhole, hfraction, hexponent, ?_⟩
        simp only [List.mem_cons, List.not_mem_nil, or_false] at hsign
        rcases hsign with rfl | rfl
        · obtain ⟨first, more, rfl⟩ := List.exists_cons_of_ne_nil hwhole.isDigits.nonempty
          have hfirst : first ≠ '-' := by
            rintro rfl
            exact hwhole.isDigits.not_mem (by decide) List.mem_cons_self
          simp [hfirst]
        · simp

end AboutPages.Json
