import AboutPages.Proofs.Json.Number

/-!
# What is read is in the grammar

Whatever one of the reading functions takes off the front of a text spells its result. So a text
that is read as a value is a document with that value.
-/

namespace AboutPages.Json

open Text

/-- What the function takes off the front of a text spells its result. -/
def Takes {α : Type} (spells : List Char → α → Prop) (read : Reader α) : Prop :=
  ∀ cs a rest, read cs = some (a, rest) → ∃ written, spells written a ∧ cs = written ++ rest

def Closed {α : Type} (close : Char) (spells : List Char → α → Prop) (written : List Char) (a : α) :
    Prop :=
  ∃ inside, spells inside a ∧ written = inside ++ [close]

theorem takes_unit? : Takes SpellsUnit unit? := by
  intro cs n rest hread
  unfold unit? at hread
  split at hread
  · rename_i a b c d more
    split at hread
    · rename_i hdigits
      cases hread
      exact ⟨[a, b, c, d], ⟨rfl, List.all_eq_true.mp hdigits, rfl⟩, rfl⟩
    · cases hread
  · cases hread

theorem takes_numbered? :
    Takes (fun written c => SpellsChar ('\\' :: 'u' :: written) c) numbered? := by
  intro cs c rest hread
  simp only [numbered?, Option.bind_eq_bind, Option.bind_eq_some_iff] at hread
  obtain ⟨⟨first, behind⟩, hfirst, hread⟩ := hread
  obtain ⟨high, hhigh, rfl⟩ := takes_unit? cs first behind hfirst
  split at hread
  · rename_i hpair
    split at hread
    · rename_i more hbehind
      obtain rfl : behind = '\\' :: 'u' :: more := hbehind
      obtain ⟨⟨second, later⟩, hsecond, hread⟩ := Option.bind_eq_some_iff.mp hread
      obtain ⟨low, hlow, rfl⟩ := takes_unit? more second later hsecond
      split at hread
      · rename_i hrange
        obtain ⟨rfl, rfl⟩ := Prod.mk.inj (Option.some.inj hread)
        exact ⟨high ++ '\\' :: 'u' :: low, .pair hhigh hpair hlow hrange, by simp⟩
      · cases hread
    · cases hread
  · rename_i hpair
    split at hread
    · cases hread
    · rename_i hlow
      cases hread
      exact ⟨high, .unit hhigh (by omega), rfl⟩

theorem takes_escape? : Takes (fun written c => SpellsChar ('\\' :: written) c) escape? := by
  intro cs c rest hread
  have hletter : ∀ letter, (letter, c) ∈ letterEscapes → cs = letter :: rest →
      ∃ written, SpellsChar ('\\' :: written) c ∧ cs = written ++ rest :=
    fun letter hmem hcs => ⟨[letter], .letter hmem, hcs⟩
  unfold escape? at hread
  split at hread
  · cases hread
    exact hletter '"' (by decide) rfl
  · cases hread
    exact hletter '\\' (by decide) rfl
  · cases hread
    exact hletter '/' (by decide) rfl
  · cases hread
    exact hletter 'b' (by decide) rfl
  · cases hread
    exact hletter 'f' (by decide) rfl
  · cases hread
    exact hletter 'n' (by decide) rfl
  · cases hread
    exact hletter 'r' (by decide) rfl
  · cases hread
    exact hletter 't' (by decide) rfl
  · rename_i more
    obtain ⟨written, hspells, rfl⟩ := takes_numbered? more c rest hread
    exact ⟨'u' :: written, hspells, rfl⟩
  · cases hread

theorem takes_characters (fuel : Nat) : Takes (Closed '"' SpellsChars) (characters fuel) := by
  induction fuel with
  | zero =>
      intro cs text rest hread
      cases hread
  | succ fuel ih =>
      intro cs text rest hread
      cases cs with
      | nil => cases hread
      | cons c more =>
          rw [characters] at hread
          split at hread
          · rename_i hquote
            cases hread
            exact ⟨['"'], ⟨[], .nil, rfl⟩, by rw [hquote]; rfl⟩
          split at hread
          · rename_i hbackslash
            simp only [Option.bind_eq_bind, Option.bind_eq_some_iff] at hread
            obtain ⟨⟨d, behind⟩, hescape, ⟨later, tail⟩, hlater, hread⟩ := hread
            cases hread
            obtain ⟨front, hfront, rfl⟩ := takes_escape? more d behind hescape
            obtain ⟨_, ⟨inside, hinside, rfl⟩, rfl⟩ := ih behind later tail hlater
            exact ⟨('\\' :: front) ++ inside ++ ['"'],
              ⟨('\\' :: front) ++ inside, .cons hfront hinside, rfl⟩, by simp [hbackslash]⟩
          split at hread
          · cases hread
          · rename_i hquote hbackslash hcontrol
            simp only [Option.bind_eq_bind, Option.bind_eq_some_iff] at hread
            obtain ⟨⟨later, tail⟩, hlater, hread⟩ := hread
            cases hread
            obtain ⟨_, ⟨inside, hinside, rfl⟩, rfl⟩ := ih more later tail hlater
            exact ⟨[c] ++ inside ++ ['"'],
              ⟨[c] ++ inside, .cons (.plain hquote hbackslash (by omega)) hinside, rfl⟩, rfl⟩

theorem takes_string? : Takes SpellsString string? := by
  intro cs text rest hread
  unfold string? at hread
  split at hread
  · rename_i more
    obtain ⟨⟨chars, behind⟩, hchars, hread⟩ := Option.map_eq_some_iff.mp hread
    cases hread
    obtain ⟨_, ⟨inside, hinside, rfl⟩, rfl⟩ := takes_characters _ more chars behind hchars
    exact ⟨'"' :: (inside ++ ['"']), .quoted hinside, rfl⟩
  · cases hread

theorem takes_word? : Takes Spells word? := by
  intro cs result rest hread
  have hcut : cs = cs.takeWhile isWordChar ++ cs.drop (cs.takeWhile isWordChar).length := by
    rw [drop_length_takeWhile, List.takeWhile_append_dropWhile]
  simp only [word?] at hread
  split at hread
  · rename_i hword
    cases hread
    exact ⟨_, .null, hword ▸ hcut⟩
  split at hread
  · rename_i hword
    cases hread
    exact ⟨_, .boolean true, hword ▸ hcut⟩
  split at hread
  · rename_i hword
    cases hread
    exact ⟨_, .boolean false, hword ▸ hcut⟩
  split at hread
  · rename_i hnumber
    cases hread
    exact ⟨_, .number (isNumber_iff.mp hnumber), hcut⟩
  · cases hread

theorem exists_gap (cs : List Char) : ∃ gap, IsGap gap ∧ cs = gap ++ skipSpaces cs :=
  ⟨cs.takeWhile isSpace, List.all_eq_true.mp List.all_takeWhile,
    List.takeWhile_append_dropWhile.symm⟩

theorem isGap_of_skipSpaces {cs : List Char} (hcs : skipSpaces cs = []) : IsGap cs := by
  obtain ⟨gap, hgap, hcut⟩ := exists_gap cs
  rw [hcs, List.append_nil] at hcut
  rwa [hcut]

theorem IsGap.append {first second : List Char} (hfirst : IsGap first) (hsecond : IsGap second) :
    IsGap (first ++ second) :=
  List.forall_mem_append.mpr ⟨hfirst, hsecond⟩

theorem Padded.prepend {α : Type} {spells : List Char → α → Prop} {gap written : List Char} {a : α}
    (hgap : IsGap gap) (hpadded : Padded spells written a) : Padded spells (gap ++ written) a := by
  cases hpadded with
  | between hbefore hwritten hafter =>
      rw [← List.append_assoc]
      exact .between (hgap.append hbefore) hwritten hafter

theorem Keyed.prepend {α : Type} {spells : List Char → α → Prop} {gap written : List Char}
    {field : String × α} (hgap : IsGap gap) (hkeyed : Keyed spells written field) :
    Keyed spells (gap ++ written) field := by
  cases hkeyed with
  | pair hkey hback =>
      rw [← List.append_assoc]
      exact .pair (hkey.prepend hgap) hback

theorem Separated.prepend {α : Type} {spells : List Char → α → Prop} {gap written : List Char}
    {as : List α} (hprepend : ∀ {written a}, spells written a → spells (gap ++ written) a)
    (hseparated : Separated spells written as) : Separated spells (gap ++ written) as := by
  cases hseparated with
  | one hwritten => exact .one (hprepend hwritten)
  | more hwritten hrest =>
      rw [← List.append_assoc]
      exact .more (hprepend hwritten) hrest

def Behind (written : List Char) (value : Value) : Prop :=
  ∃ gap core, IsGap gap ∧ Spells core value ∧ written = gap ++ core

section Steps

variable {fuel : Nat}

theorem takes_value_succ (hitems : Takes (Closed ']' (Separated (Padded Spells))) (items fuel))
    (hmembers : Takes (Closed '\x7d' (Separated (Keyed Spells))) (members fuel)) :
    Takes Behind (value (fuel + 1)) := by
  intro cs result rest hread
  obtain ⟨gap, hgap, hcs⟩ := exists_gap cs
  have hbehind : ∀ core, Spells core result → skipSpaces cs = core ++ rest →
      ∃ written, Behind written result ∧ cs = written ++ rest := by
    intro core hcore hskip
    refine ⟨gap ++ core, ⟨gap, core, hgap, hcore, rfl⟩, ?_⟩
    rw [hcs, hskip, List.append_assoc]
  rw [value] at hread
  split at hread
  · rename_i more hskip
    obtain ⟨⟨text, behind⟩, hstring, hread⟩ := Option.map_eq_some_iff.mp hread
    cases hread
    obtain ⟨written, hspells, hwritten⟩ := takes_string? _ text behind hstring
    exact hbehind written (.string hspells) (hskip.trans hwritten)
  · rename_i more hskip
    obtain ⟨inner, hinner, hmore⟩ := exists_gap more
    split at hread
    · rename_i tail hclose
      cases hread
      refine hbehind _ (.emptyArray hinner) ?_
      rw [hskip, hmore, hclose]
      simp
    · obtain ⟨⟨list, behind⟩, hlist, hread⟩ := Option.map_eq_some_iff.mp hread
      cases hread
      obtain ⟨_, ⟨inside, hinside, rfl⟩, htail⟩ := hitems _ list behind hlist
      refine hbehind _ (.array (hinside.prepend (Padded.prepend hinner))) ?_
      rw [hskip, hmore, htail]
      simp
  · rename_i more hskip
    obtain ⟨inner, hinner, hmore⟩ := exists_gap more
    split at hread
    · rename_i tail hclose
      cases hread
      refine hbehind _ (.emptyObject hinner) ?_
      rw [hskip, hmore, hclose]
      simp
    · obtain ⟨⟨list, behind⟩, hlist, hread⟩ := Option.map_eq_some_iff.mp hread
      cases hread
      obtain ⟨_, ⟨inside, hinside, rfl⟩, htail⟩ := hmembers _ list behind hlist
      refine hbehind _ (.object (hinside.prepend (Keyed.prepend hinner))) ?_
      rw [hskip, hmore, htail]
      simp
  · obtain ⟨written, hspells, hwritten⟩ := takes_word? _ result rest hread
    exact hbehind written hspells hwritten

theorem takes_items_succ (hvalue : Takes Behind (value fuel))
    (hitems : Takes (Closed ']' (Separated (Padded Spells))) (items fuel)) :
    Takes (Closed ']' (Separated (Padded Spells))) (items (fuel + 1)) := by
  intro cs list rest hread
  simp only [items, Option.bind_eq_bind, Option.bind_eq_some_iff] at hread
  obtain ⟨⟨item, behind⟩, hitem, hread⟩ := hread
  obtain ⟨_, ⟨before, core, hbefore, hcore, rfl⟩, rfl⟩ := hvalue cs item behind hitem
  obtain ⟨after, hafter, hbehind⟩ := exists_gap behind
  have hpadded : Padded Spells (before ++ (core ++ after)) item := .between hbefore hcore hafter
  split at hread
  · rename_i tail hcomma
    obtain ⟨⟨more, later⟩, hmore, hread⟩ := Option.bind_eq_some_iff.mp hread
    cases hread
    obtain ⟨_, ⟨inside, hinside, rfl⟩, rfl⟩ := hitems tail more later hmore
    refine ⟨_, ⟨_, .more hpadded hinside, rfl⟩, ?_⟩
    rw [hbehind, hcomma]
    simp
  · rename_i tail hbracket
    cases hread
    refine ⟨_, ⟨_, .one hpadded, rfl⟩, ?_⟩
    rw [hbehind, hbracket]
    simp
  · cases hread

theorem takes_members_succ (hvalue : Takes Behind (value fuel))
    (hmembers : Takes (Closed '\x7d' (Separated (Keyed Spells))) (members fuel)) :
    Takes (Closed '\x7d' (Separated (Keyed Spells))) (members (fuel + 1)) := by
  intro cs list rest hread
  simp only [members, Option.bind_eq_bind, Option.bind_eq_some_iff] at hread
  obtain ⟨⟨key, colon⟩, hkey, hread⟩ := hread
  obtain ⟨before, hbefore, hcs⟩ := exists_gap cs
  obtain ⟨written, hwritten, hskip⟩ := takes_string? _ key colon hkey
  obtain ⟨middle, hmiddle, hcolon⟩ := exists_gap colon
  have hfront : Padded SpellsString (before ++ (written ++ middle)) key :=
    .between hbefore hwritten hmiddle
  split at hread
  · rename_i back hback
    simp only [Option.bind_eq_some_iff] at hread
    obtain ⟨⟨item, behind⟩, hitem, hread⟩ := hread
    obtain ⟨_, ⟨gap, core, hgap, hcore, rfl⟩, rfl⟩ := hvalue back item behind hitem
    obtain ⟨after, hafter, hbehind⟩ := exists_gap behind
    have hkeyed := Keyed.pair hfront (Padded.between hgap hcore hafter)
    split at hread
    · rename_i tail hcomma
      obtain ⟨⟨more, later⟩, hmore, hread⟩ := Option.bind_eq_some_iff.mp hread
      cases hread
      obtain ⟨_, ⟨inside, hinside, rfl⟩, rfl⟩ := hmembers tail more later hmore
      refine ⟨_, ⟨_, .more hkeyed hinside, rfl⟩, ?_⟩
      rw [hcs, hskip, hcolon, hback, hbehind, hcomma]
      simp
    · rename_i tail hbrace
      cases hread
      refine ⟨_, ⟨_, .one hkeyed, rfl⟩, ?_⟩
      rw [hcs, hskip, hcolon, hback, hbehind, hbrace]
      simp
    · cases hread
  · cases hread

end Steps

/-- The reading functions call each other with less fuel, so one induction serves all three. -/
theorem takes_value (fuel : Nat) :
    Takes Behind (value fuel) ∧
      Takes (Closed ']' (Separated (Padded Spells))) (items fuel) ∧
      Takes (Closed '\x7d' (Separated (Keyed Spells))) (members fuel) := by
  induction fuel with
  | zero =>
      refine ⟨?_, ?_, ?_⟩
      · intro cs result rest hread
        cases hread
      · intro cs result rest hread
        cases hread
      · intro cs result rest hread
        cases hread
  | succ fuel ih =>
      obtain ⟨hvalue, hitems, hmembers⟩ := ih
      exact ⟨takes_value_succ hitems hmembers, takes_items_succ hvalue hitems,
        takes_members_succ hvalue hmembers⟩

theorem isDocument_of_parse {text : String} {result : Value} (hparse : parse text = some result) :
    IsDocument text result := by
  simp only [parse, Option.bind_eq_bind, Option.bind_eq_some_iff] at hparse
  obtain ⟨⟨found, rest⟩, hvalue, hparse⟩ := hparse
  split at hparse
  · rename_i hrest
    cases hparse
    obtain ⟨_, ⟨gap, core, hgap, hcore, rfl⟩, htext⟩ := (takes_value _).1 _ found rest hvalue
    rw [IsDocument, htext, List.append_assoc]
    exact .between hgap hcore (isGap_of_skipSpaces (List.isEmpty_iff.mp hrest))
  · cases hparse

/-- What is read back and does not begin with a space is in the grammar as it stands. -/
theorem spells_of_reads {size : Nat} {written : List Char} {result : Value}
    (hreads : Reads size written result) (hfirst : ∀ c ∈ written.head?, isSpace c = false) :
    Spells written result := by
  have hread := hreads size [] (Nat.le_refl size)
  obtain ⟨_, ⟨gap, core, hgap, hcore, rfl⟩, hwritten⟩ := (takes_value size).1 _ result [] hread
  rw [List.append_nil, List.append_nil] at hwritten
  cases gap with
  | nil => rwa [hwritten]
  | cons space more =>
      have hspace := hfirst space (by rw [hwritten]; rfl)
      rw [hgap space List.mem_cons_self] at hspace
      cases hspace

end AboutPages.Json
