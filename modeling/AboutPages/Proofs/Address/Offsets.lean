import AboutPages.Proofs.Address.Parts

/-!
# Cutting an address at byte offsets

The same cut as `Address.parse`, made the way a program with texts in UTF-8 makes it: find the
delimiters as byte offsets, then slice the bytes between them. A slice fails when an offset lies
outside the text or inside a character. No slice of this cut ever fails.
-/

namespace AboutPages

namespace Text

/-- The stretch between two byte offsets, if they are in order and both lie between characters. -/
def slice? (text : String) (start stop : Nat) : Option String :=
  if start ≤ stop ∧ String.Pos.Raw.IsValid text ⟨start⟩ ∧ String.Pos.Raw.IsValid text ⟨stop⟩ then
    String.fromUTF8? (text.toUTF8.extract start stop)
  else none

def offsetOf? (p : Char → Bool) : List Char → Option Nat
  | [] => none
  | c :: rest => if p c then some 0 else (offsetOf? p rest).map (c.utf8Size + ·)

theorem fromUTF8?_toByteArray (text : String) :
    String.fromUTF8? text.toByteArray = some text := by
  rw [String.fromUTF8?, dif_pos text.isValidUTF8]
  rfl

/-- A text sliced at its own seams gives the piece between them. -/
theorem slice?_append (before piece after : String) :
    slice? (before ++ piece ++ after) before.utf8ByteSize
      (before.utf8ByteSize + piece.utf8ByteSize) = some piece := by
  have hstart : String.Pos.Raw.IsValid (before ++ piece ++ after) ⟨before.utf8ByteSize⟩ :=
    String.Pos.Raw.isValid_iff_exists_append.mpr
      ⟨before, piece ++ after, String.append_assoc, rfl⟩
  have hstop : String.Pos.Raw.IsValid (before ++ piece ++ after)
      ⟨before.utf8ByteSize + piece.utf8ByteSize⟩ :=
    String.Pos.Raw.isValid_iff_exists_append.mpr
      ⟨before ++ piece, after, rfl, by simp [String.Pos.Raw.ext_iff]⟩
  rw [slice?, if_pos ⟨Nat.le_add_right _ _, hstart, hstop⟩]
  have hbytes : (before ++ piece ++ after).toUTF8.extract before.utf8ByteSize
      (before.utf8ByteSize + piece.utf8ByteSize) = piece.toByteArray := by
    rw [String.append_assoc, String.toUTF8_eq_toByteArray, String.toByteArray_append,
      String.toByteArray_append]
    calc (before.toByteArray ++ (piece.toByteArray ++ after.toByteArray)).extract
          (before.utf8ByteSize + 0) (before.utf8ByteSize + piece.utf8ByteSize)
      _ = (piece.toByteArray ++ after.toByteArray).extract 0 piece.utf8ByteSize :=
          ByteArray.extract_append_size_add' String.size_toByteArray.symm
      _ = piece.toByteArray := ByteArray.extract_append_eq_left String.size_toByteArray.symm
  rw [hbytes, fromUTF8?_toByteArray]

theorem slice?_front (piece after : String) :
    slice? (piece ++ after) 0 piece.utf8ByteSize = some piece := by
  simpa using slice?_append "" piece after

theorem slice?_back (before piece : String) :
    slice? (before ++ piece) before.utf8ByteSize
      (before.utf8ByteSize + piece.utf8ByteSize) = some piece := by
  simpa using slice?_append before piece ""

theorem offsetOf?_eq_none {p : Char → Bool} {cs : List Char} (hcs : ∀ c ∈ cs, p c = false) :
    offsetOf? p cs = none := by
  induction cs with
  | nil => rfl
  | cons c rest ih =>
      rw [offsetOf?, hcs c List.mem_cons_self, ih fun d hd => hcs d (List.mem_cons_of_mem c hd)]
      simp

theorem offsetOf?_append_hit {p : Char → Bool} {front rest : List Char} {c : Char}
    (hfront : ∀ d ∈ front, p d = false) (hc : p c = true) :
    offsetOf? p (front ++ c :: rest) = some (String.ofList front).utf8ByteSize := by
  induction front with
  | nil => simp [offsetOf?, hc]
  | cons d front ih =>
      have hd : p d = false := hfront d List.mem_cons_self
      have htail := ih fun e he => hfront e (List.mem_cons_of_mem d he)
      simp [offsetOf?, hd, htail, String.ofList_cons]

end Text

open Text

namespace Address

/-- The offset at which the suffix begins: the end of the text if there is none. -/
def suffixOffset (text : String) : Nat :=
  (offsetOf? startsSuffix text.toList).getD text.utf8ByteSize

theorem suffixOffset_append {front suffix : String} (hfront : Plain front)
    (hsuffix : Suffixed suffix) : suffixOffset (front ++ suffix) = front.utf8ByteSize := by
  have hplain := (plain_iff front).mp hfront
  have hstart := (suffixed_iff suffix).mp hsuffix
  unfold suffixOffset
  rw [String.toList_append]
  cases hlist : suffix.toList with
  | nil =>
      have hempty : suffix = "" := by simpa using hlist
      rw [List.append_nil, offsetOf?_eq_none hplain]
      simp [hempty]
  | cons c rest =>
      have hc : startsSuffix c = true := hstart c (by simp [hlist])
      rw [offsetOf?_append_hit hplain hc]
      simp

/-- The scheme, if a colon stands before the suffix, and what follows its colon. -/
def sliceScheme? (text : String) : Option (Option String × String) := do
  let head ← slice? text 0 (suffixOffset text)
  match offsetOf? (fun c => decide (c = ':')) head.toList with
  | some colon =>
      let scheme ← slice? text 0 colon
      let rest ← slice? text (colon + 1) text.utf8ByteSize
      return (some scheme, rest)
  | none => return (none, text)

/-- Cut an address at byte offsets. The suffix is looked for twice: in the whole text, to bound the
search for the colon, and again in what follows the colon. -/
def parseAtOffsets? (text : String) : Option Address := do
  let (scheme, rest) ← sliceScheme? text
  let rawName ← slice? rest 0 (suffixOffset rest)
  let suffix ← slice? rest (suffixOffset rest) rest.utf8ByteSize
  return { scheme := scheme, rawName := rawName, suffix := suffix }

theorem sliceScheme?_of_none {rawName suffix : String} (hplain : Plain rawName)
    (hcolon : ':' ∉ rawName.toList) (hsuffix : Suffixed suffix) :
    sliceScheme? (rawName ++ suffix) = some (none, rawName ++ suffix) := by
  rw [sliceScheme?, suffixOffset_append hplain hsuffix, slice?_front]
  simp [offsetOf?_eq_none (decide_eq_of_not_mem hcolon)]

theorem sliceScheme?_of_some {scheme rawName suffix : String} (hscheme : Plain scheme)
    (hcolon : ':' ∉ scheme.toList) (hname : Plain rawName) (hsuffix : Suffixed suffix) :
    sliceScheme? (scheme ++ ":" ++ rawName ++ suffix) =
      some (some scheme, rawName ++ suffix) := by
  have hhead : Plain (scheme ++ ":" ++ rawName) := by
    simp only [Plain, String.toList_append, List.mem_append] at hscheme hname ⊢
    refine ⟨?_, ?_⟩ <;> simp [hscheme, hname]
  have hoffset : offsetOf? (fun c => decide (c = ':')) (scheme ++ ":" ++ rawName).toList =
      some scheme.utf8ByteSize := by
    rw [String.append_assoc, String.toList_append, String.toList_append]
    simpa using offsetOf?_append_hit (decide_eq_of_not_mem hcolon) (decide_eq_true rfl)
  have hfront : slice? (scheme ++ ":" ++ rawName ++ suffix) 0 scheme.utf8ByteSize =
      some scheme := by
    simpa [String.append_assoc] using slice?_front scheme (":" ++ rawName ++ suffix)
  have hback : slice? (scheme ++ ":" ++ rawName ++ suffix) (scheme.utf8ByteSize + 1)
      (scheme ++ ":" ++ rawName ++ suffix).utf8ByteSize = some (rawName ++ suffix) := by
    have hsize : (scheme ++ ":").utf8ByteSize = scheme.utf8ByteSize + 1 :=
      String.utf8ByteSize_append
    have hslice := slice?_back (scheme ++ ":") (rawName ++ suffix)
    rwa [← String.utf8ByteSize_append, ← String.append_assoc, hsize] at hslice
  rw [sliceScheme?, suffixOffset_append hhead hsuffix, slice?_front]
  simp only [Option.bind_eq_bind, Option.bind_some, hoffset, hfront, hback]
  rfl

/-- Both ways to cut an address agree; in particular every slice lies within its text and between
characters. -/
theorem parseAtOffsets?_eq_parse (text : String) : parseAtOffsets? text = some (parse text) := by
  have hcut := cut_parse text
  have htext := render_parse text
  -- From here on only the shape of the parts counts, not how they were found.
  generalize parse text = address at hcut htext
  obtain ⟨scheme, rawName, suffix⟩ := address
  have hscheme : sliceScheme? text = some (scheme, rawName ++ suffix) := by
    cases scheme with
    | none =>
        have hwritten : text = rawName ++ suffix := by simpa [render] using htext.symm
        rw [hwritten]
        exact sliceScheme?_of_none hcut.rawName_plain (hcut.no_colon rfl) hcut.suffixed
    | some scheme =>
        have hwritten : text = scheme ++ ":" ++ rawName ++ suffix := htext.symm
        obtain ⟨hcolon, hplain⟩ := hcut.scheme_plain scheme rfl
        rw [hwritten]
        exact sliceScheme?_of_some hplain hcolon hcut.rawName_plain hcut.suffixed
  simp [parseAtOffsets?, hscheme, suffixOffset_append hcut.rawName_plain hcut.suffixed,
    slice?_front, slice?_back, String.utf8ByteSize_append]

/-- Parsing and writing addresses are inverse to each other: what was parsed can be written back in
exactly one way, what was written from separate parts is parsed into these parts, and the cut at
byte offsets never fails. -/
theorem parse_inverse_of_writing :
    (∀ text : String, ∃ rawName : String,
      (∀ other, { parse text with rawName := other }.render = text ↔ other = rawName) ∧
      Plain rawName ∧ (parse text).name = lowercase rawName ∧ Suffixed (parse text).suffix ∧
      (∀ scheme, (parse text).scheme = some scheme → ':' ∉ scheme.toList ∧ Plain scheme) ∧
      ((parse text).scheme = none → ':' ∉ rawName.toList)) ∧
    (∀ scheme rawName suffix : String, ':' ∉ scheme.toList → Plain scheme → Plain rawName →
      Suffixed suffix →
      (parse (scheme ++ ":" ++ rawName ++ suffix)).scheme = some scheme ∧
      (parse (scheme ++ ":" ++ rawName ++ suffix)).name = lowercase rawName ∧
      (parse (scheme ++ ":" ++ rawName ++ suffix)).suffix = suffix) ∧
    (∀ rawName suffix : String, Plain rawName → ':' ∉ rawName.toList → Suffixed suffix →
      (parse (rawName ++ suffix)).scheme = none ∧
      (parse (rawName ++ suffix)).name = lowercase rawName ∧
      (parse (rawName ++ suffix)).suffix = suffix) ∧
    ∀ text : String, parseAtOffsets? text = some (parse text) := by
  refine ⟨?_, ?_, ?_, parseAtOffsets?_eq_parse⟩
  · intro text
    have hcut := cut_parse text
    refine ⟨(parse text).rawName, ?_, hcut.rawName_plain, rfl, hcut.suffixed,
      hcut.scheme_plain, hcut.no_colon⟩
    intro other
    constructor
    · intro hother
      exact render_rawName_inj (hother.trans (render_parse text).symm)
    · rintro rfl
      exact render_parse text
  · intro scheme rawName suffix hcolon hscheme hname hsuffix
    rw [parse_scheme_append hcolon hscheme hname hsuffix]
    exact ⟨rfl, rfl, rfl⟩
  · intro rawName suffix hname hcolon hsuffix
    rw [parse_append hname hcolon hsuffix]
    exact ⟨rfl, rfl, rfl⟩

/-- Two colons, a capital sigma and letters of two and three bytes. -/
theorem parse_inverse_of_writing_multibyte :
    (parse ("ß" ++ ":" ++ "ΟΔΟΣ:ẞ" ++ "?#:")).scheme = some "ß" ∧
      (parse ("ß" ++ ":" ++ "ΟΔΟΣ:ẞ" ++ "?#:")).name = lowercase "ΟΔΟΣ:ẞ" ∧
      (parse ("ß" ++ ":" ++ "ΟΔΟΣ:ẞ" ++ "?#:")).suffix = "?#:" ∧
      (parse ("ẞΣ" ++ "#é")).scheme = none ∧
      parseAtOffsets? "é:ẞ?Σ" = some (parse "é:ẞ?Σ") := by
  obtain ⟨_, hscheme, hbare, hoffsets⟩ := parse_inverse_of_writing
  obtain ⟨h1, h2, h3⟩ := hscheme "ß" "ΟΔΟΣ:ẞ" "?#:" (by decide +kernel)
    (by unfold Plain; decide +kernel) (by unfold Plain; decide +kernel)
    (by unfold Suffixed; decide +kernel)
  obtain ⟨h4, _⟩ := hbare "ẞΣ" "#é" (by unfold Plain; decide +kernel) (by decide +kernel)
    (by unfold Suffixed; decide +kernel)
  exact ⟨h1, h2, h3, h4, hoffsets _⟩

end Address

end AboutPages
