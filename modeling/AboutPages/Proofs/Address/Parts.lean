import AboutPages.Address
import AboutPages.Proofs.Text.Split

/-!
# Cutting and writing addresses

`Address.parse` and `Address.render` are inverse to each other. The addresses that parsing can
return are described by `Address.Cut`, a condition on the parts alone; on these, and only on these,
parsing undoes writing.
-/

namespace AboutPages

open Text

/-! ## Cutting a list at an element -/

theorem decide_eq_of_not_mem {α : Type} [DecidableEq α] {a : α} {l : List α} (ha : a ∉ l) :
    ∀ b ∈ l, decide (b = a) = false := by
  intro b hb
  have hne : b ≠ a := fun heq => ha (heq ▸ hb)
  simpa using hne

/-- A list that holds `a` is what stands before its first `a`, then `a`, then the rest. -/
theorem takeWhile_ne_append_drop {α : Type} [DecidableEq α] {a : α} {l : List α} (ha : a ∈ l) :
    l.takeWhile (fun b => decide (b ≠ a)) ++
      a :: (l.dropWhile fun b => decide (b ≠ a)).drop 1 = l := by
  induction l with
  | nil => simp at ha
  | cons b rest ih =>
      by_cases hb : b = a
      · simp [hb]
      · have hrest : a ∈ rest := by
          rcases List.mem_cons.mp ha with rfl | hmem
          · exact absurd rfl hb
          · exact hmem
        simpa [hb] using ih hrest

namespace Address

/-! ## Well-cut addresses -/

theorem startsSuffix_eq_false_iff (c : Char) : startsSuffix c = false ↔ c ≠ '?' ∧ c ≠ '#' := by
  simp [startsSuffix]

def Plain (text : String) : Prop := '?' ∉ text.toList ∧ '#' ∉ text.toList

theorem plain_iff (text : String) : Plain text ↔ ∀ c ∈ text.toList, startsSuffix c = false := by
  constructor
  · intro h c hc
    rw [startsSuffix_eq_false_iff]
    exact ⟨fun heq => h.1 (heq ▸ hc), fun heq => h.2 (heq ▸ hc)⟩
  · intro h
    exact ⟨fun hc => ((startsSuffix_eq_false_iff _).mp (h _ hc)).1 rfl,
      fun hc => ((startsSuffix_eq_false_iff _).mp (h _ hc)).2 rfl⟩

def Suffixed (text : String) : Prop := text.toList.head? ∈ [none, some '?', some '#']

theorem suffixed_iff (text : String) :
    Suffixed text ↔ ∀ c ∈ text.toList.head?, startsSuffix c = true := by
  unfold Suffixed
  cases text.toList.head? with
  | none => simp
  | some c => simp [startsSuffix]

/-- The parts of an address stand apart from each other: each ends where the next one can begin. -/
structure Cut (address : Address) : Prop where
  scheme_plain : ∀ scheme ∈ address.scheme, ':' ∉ scheme.toList ∧ Plain scheme
  rawName_plain : Plain address.rawName
  no_colon : address.scheme = none → ':' ∉ address.rawName.toList
  suffixed : Suffixed address.suffix

def headText (address : Address) : List Char :=
  (match address.scheme with
    | some scheme => scheme.toList ++ [':']
    | none => []) ++ address.rawName.toList

theorem toList_render (address : Address) :
    address.render.toList = address.headText ++ address.suffix.toList := by
  cases hscheme : address.scheme <;> simp [render, headText, hscheme]

theorem Cut.headText_plain {address : Address} (hcut : address.Cut) :
    ∀ c ∈ address.headText, startsSuffix c = false := by
  have hname := (plain_iff _).mp hcut.rawName_plain
  intro c hc
  cases hscheme : address.scheme with
  | none =>
      simp only [headText, hscheme, List.nil_append] at hc
      exact hname c hc
  | some scheme =>
      have hplain := (plain_iff _).mp (hcut.scheme_plain scheme hscheme).2
      simp only [headText, hscheme, List.append_assoc, List.mem_append, List.mem_singleton] at hc
      rcases hc with hc | rfl | hc
      · exact hplain c hc
      · decide
      · exact hname c hc

/-! ## Parsing what was written -/

theorem parse_of_toList {text : String} {head suffix : List Char}
    (htext : text.toList = head ++ suffix) (hhead : ∀ c ∈ head, startsSuffix c = false)
    (hsuffix : ∀ c ∈ suffix.head?, startsSuffix c = true) :
    parse text =
      if ':' ∈ head then
        { scheme := some (String.ofList (head.takeWhile fun c => decide (c ≠ ':')))
          rawName := String.ofList ((head.dropWhile fun c => decide (c ≠ ':')).drop 1)
          suffix := String.ofList suffix }
      else
        { scheme := none, rawName := String.ofList head, suffix := String.ofList suffix } := by
  have hfront : ∀ c ∈ head, (!startsSuffix c) = true := by
    intro c hc
    simp [hhead c hc]
  have hback : ∀ c ∈ suffix.head?, (!startsSuffix c) = false := by
    intro c hc
    simp [hsuffix c hc]
  obtain ⟨htake, hdrop⟩ := takeWhile_dropWhile_seam hfront hback
  simp only [parse, htext, htake, hdrop]

theorem parse_render {address : Address} (hcut : address.Cut) :
    parse address.render = address := by
  rw [parse_of_toList (toList_render address) hcut.headText_plain
    ((suffixed_iff _).mp hcut.suffixed)]
  obtain ⟨scheme, rawName, suffix⟩ := address
  cases scheme with
  | none =>
      have hcolon : ':' ∉ rawName.toList := hcut.no_colon rfl
      simp [headText, hcolon]
  | some scheme =>
      have hcolon : ':' ∉ scheme.toList := (hcut.scheme_plain scheme rfl).1
      have hfront : ∀ c ∈ scheme.toList, decide (c ≠ ':') = true := by
        intro c hc
        simpa using decide_eq_of_not_mem hcolon c hc
      have hback : ∀ c ∈ (':' :: rawName.toList).head?, decide (c ≠ ':') = false := by simp
      have hhead : headText ⟨some scheme, rawName, suffix⟩ =
          scheme.toList ++ ':' :: rawName.toList := by
        simp [headText]
      obtain ⟨htake, hdrop⟩ := takeWhile_dropWhile_seam hfront hback
      rw [hhead, if_pos (by simp), htake, hdrop]
      simp

theorem parse_scheme_append {scheme rawName suffix : String} (hcolon : ':' ∉ scheme.toList)
    (hscheme : Plain scheme) (hname : Plain rawName) (hsuffix : Suffixed suffix) :
    parse (scheme ++ ":" ++ rawName ++ suffix) = ⟨some scheme, rawName, suffix⟩ := by
  have hcut : Cut ⟨some scheme, rawName, suffix⟩ := by
    refine ⟨?_, hname, ?_, hsuffix⟩
    · rintro _ ⟨⟩
      exact ⟨hcolon, hscheme⟩
    · rintro ⟨⟩
  simpa [render] using parse_render hcut

theorem parse_append {rawName suffix : String} (hname : Plain rawName)
    (hcolon : ':' ∉ rawName.toList) (hsuffix : Suffixed suffix) :
    parse (rawName ++ suffix) = ⟨none, rawName, suffix⟩ := by
  have hcut : Cut ⟨none, rawName, suffix⟩ := by
    refine ⟨?_, hname, fun _ => hcolon, hsuffix⟩
    rintro _ ⟨⟩
  simpa [render] using parse_render hcut

/-! ## Writing what was parsed -/

/-- Parsing loses nothing, and the suffix begins where the head ends. -/
theorem headText_parse (text : String) :
    (parse text).headText = text.toList.takeWhile (fun c => !startsSuffix c) ∧
      (parse text).suffix.toList = text.toList.dropWhile (fun c => !startsSuffix c) := by
  generalize hhead : text.toList.takeWhile (fun c => !startsSuffix c) = head
  by_cases hcolon : ':' ∈ head
  · refine ⟨?_, by simp [parse, hhead, hcolon]⟩
    simp only [parse, hhead, if_pos hcolon, headText, String.toList_ofList, List.append_assoc,
      List.singleton_append]
    exact takeWhile_ne_append_drop hcolon
  · exact ⟨by simp [parse, hhead, hcolon, headText], by simp [parse, hhead, hcolon]⟩

theorem render_parse (text : String) : (parse text).render = text := by
  obtain ⟨hhead, hsuffix⟩ := headText_parse text
  rw [← String.toList_inj, toList_render, hhead, hsuffix, List.takeWhile_append_dropWhile]

theorem cut_parse (text : String) : (parse text).Cut := by
  obtain ⟨hhead, hsuffix⟩ := headText_parse text
  have hplain : ∀ c ∈ (parse text).headText, startsSuffix c = false := by
    intro c hc
    rw [hhead] at hc
    simpa using List.all_eq_true.mp List.all_takeWhile c hc
  refine ⟨?_, ?_, ?_, ?_⟩
  · intro scheme hscheme
    constructor
    · intro hcolon
      simp only [parse] at hscheme
      split at hscheme
      · cases hscheme
        rw [String.toList_ofList] at hcolon
        simpa using List.all_eq_true.mp List.all_takeWhile ':' hcolon
      · cases hscheme
    · rw [plain_iff]
      intro c hc
      refine hplain c ?_
      simp [headText, Option.mem_def.mp hscheme, hc]
  · rw [plain_iff]
    intro c hc
    exact hplain c (List.mem_append_right _ hc)
  · intro hnone hcolon
    simp only [parse] at hnone hcolon
    split at hnone
    · cases hnone
    · rename_i habsent
      rw [if_neg habsent, String.toList_ofList] at hcolon
      exact habsent hcolon
  · rw [suffixed_iff, hsuffix]
    intro c hc
    simpa using head?_dropWhile_eq_false c hc

/-- With scheme and suffix given, the text leaves one choice for the name between them. -/
theorem render_rawName_inj {address : Address} {rawName other : String}
    (heq : { address with rawName := rawName }.render = { address with rawName := other }.render) :
    rawName = other := by
  have hlist := congrArg String.toList heq
  simp only [toList_render, headText, List.append_assoc, List.append_cancel_left_eq,
    List.append_cancel_right_eq] at hlist
  exact String.toList_inj.mp hlist

end Address

end AboutPages
