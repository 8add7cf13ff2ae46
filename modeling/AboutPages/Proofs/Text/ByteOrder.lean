import AboutPages.Text.Bytes

/-!
# The order of texts by their bytes

Texts are in the same order by characters as by the bytes of their encoding. The bytes of a
character are its digits in base 64 behind a mark that grows with their number; so where two texts
first differ in a character, they first differ in a byte of that character, and the same way round.
-/

namespace AboutPages.Text

/-! ## The bytes of a text -/

theorem toList_loop_eq (bytes : ByteArray) (i : Nat) (done : Bytes) :
    ByteArray.toList.loop bytes i done = done.reverse ++ bytes.data.toList.drop i := by
  fun_induction ByteArray.toList.loop bytes i done with
  | case1 i done hlt ih =>
      have hin : i < bytes.data.toList.length := hlt
      have hget : bytes.get! i = bytes.data.toList[i] := by
        change bytes.data[i]! = _
        rw [getElem!_pos bytes.data i hlt, Array.getElem_toList]
      rw [ih, List.reverse_cons, List.append_assoc, List.singleton_append, hget,
        ← List.drop_eq_getElem_cons hin]
  | case2 i done hge =>
      have hout : bytes.data.toList.length ≤ i := Nat.le_of_not_lt hge
      rw [List.drop_eq_nil_of_le hout, List.append_nil]

theorem utf8_eq_flatMap (text : String) :
    utf8 text = text.toList.flatMap String.utf8EncodeChar := by
  have hbytes : text.toByteArray.data.toList = text.toList.flatMap String.utf8EncodeChar := by
    conv => lhs; rw [← String.ofList_toList (s := text)]
    exact List.toList_data_toByteArray
  rw [utf8, String.toUTF8_eq_toByteArray, ByteArray.toList, toList_loop_eq, hbytes]
  rfl

/-! ## The bytes of a character -/

/-- The digits of a number in base 64, each in a byte of its own from 128 on, except that all digits
above the last `count` are in the first byte, which starts from a mark. -/
def sextets (mark : Nat) : (count : Nat) → Nat → Bytes
  | 0, n => [UInt8.ofNat (mark + n)]
  | count + 1, n => sextets mark count (n / 64) ++ [UInt8.ofNat (n % 64 + 128)]

/-- What is left of a number without its last `count` digits in base 64. -/
def upperDigits : (count : Nat) → Nat → Nat
  | 0, n => n
  | count + 1, n => upperDigits count (n / 64)

/-- The mark of the first byte and the number of further bytes. -/
def encodingShape (n : Nat) : Nat × Nat :=
  if n ≤ 0x7F then (0, 0)
  else if n ≤ 0x7FF then (0xC0, 1)
  else if n ≤ 0xFFFF then (0xE0, 2)
  else (0xF0, 3)

theorem toNat_le_last (c : Char) : c.toNat ≤ 0x10FFFF := by
  rcases c.valid with hlow | ⟨_, hhigh⟩
  · exact Nat.le_trans (Nat.le_of_lt hlow) (by decide)
  · exact Nat.le_of_lt_succ hhigh

theorem utf8EncodeChar_eq_sextets (c : Char) :
    String.utf8EncodeChar c =
      sextets (encodingShape c.toNat).1 (encodingShape c.toNat).2 c.toNat := by
  have hval : c.val.toNat = c.toNat := rfl
  have hmax := toNat_le_last c
  unfold String.utf8EncodeChar encodingShape
  rw [hval]
  dsimp only
  by_cases hone : c.toNat ≤ 0x7F
  · simp only [if_pos hone, sextets, Nat.zero_add]
  · by_cases htwo : c.toNat ≤ 0x7FF
    · have hlead : c.toNat / 64 % 32 + 192 = 0xC0 + c.toNat / 64 := by omega
      simp only [if_neg hone, if_pos htwo, sextets, hlead, List.cons_append, List.nil_append]
    · by_cases hthree : c.toNat ≤ 0xFFFF
      · have hlead : c.toNat / 4096 % 16 + 224 = 0xE0 + c.toNat / 64 / 64 := by omega
        simp only [if_neg hone, if_neg htwo, if_pos hthree, sextets, hlead, List.cons_append,
          List.nil_append]
      · have hlead : c.toNat / 262144 % 8 + 240 = 0xF0 + c.toNat / 64 / 64 / 64 := by omega
        have hupper : c.toNat / 4096 % 64 = c.toNat / 64 / 64 % 64 := by omega
        simp only [if_neg hone, if_neg htwo, if_neg hthree, sextets, hlead, hupper,
          List.cons_append, List.nil_append]

theorem ofNat_lt_ofNat {m n : Nat} (hlt : m < n) (hbound : n < 256) :
    UInt8.ofNat m < UInt8.ofNat n :=
  (UInt8.ofNat_lt_iff_lt (Nat.lt_trans hlt hbound) hbound).mpr hlt

/-- The greater number has the greater digits, whatever follows them. -/
theorem sextets_append_lt {mark count m n : Nat} (hlt : m < n)
    (hbound : mark + upperDigits count n < 256) (rest more : Bytes) :
    sextets mark count m ++ rest < sextets mark count n ++ more := by
  induction count generalizing m n rest more with
  | zero =>
      have hbyte : UInt8.ofNat (mark + m) < UInt8.ofNat (mark + n) :=
        ofNat_lt_ofNat (Nat.add_lt_add_left hlt mark) hbound
      exact List.cons_lt_cons_iff.mpr (Or.inl hbyte)
  | succ count ih =>
      rw [sextets, sextets, List.append_assoc, List.append_assoc]
      by_cases hupper : m / 64 < n / 64
      · exact ih hupper hbound _ _
      · -- The upper digits agree, so the last one decides.
        have hsame : m / 64 = n / 64 := by omega
        have hbyte : UInt8.ofNat (m % 64 + 128) < UInt8.ofNat (n % 64 + 128) :=
          ofNat_lt_ofNat (by omega) (by omega)
        rw [hsame]
        exact List.append_left_lt (List.cons_lt_cons_iff.mpr (Or.inl hbyte))

theorem exists_sextets_eq_cons (mark count n : Nat) :
    ∃ tail, sextets mark count n = UInt8.ofNat (mark + upperDigits count n) :: tail := by
  induction count generalizing n with
  | zero => exact ⟨[], rfl⟩
  | succ count ih =>
      obtain ⟨tail, htail⟩ := ih (n / 64)
      refine ⟨tail ++ [UInt8.ofNat (n % 64 + 128)], ?_⟩
      rw [sextets, htail, upperDigits, List.cons_append]

def leadNumber (n : Nat) : Nat := (encodingShape n).1 + upperDigits (encodingShape n).2 n

/-- The shapes in ascending order, each with the numbers that have it and their first bytes. -/
theorem encodingShape_cases {n : Nat} (hmax : n ≤ 0x10FFFF) :
    ((encodingShape n).1 = 0 ∧ (encodingShape n).2 = 0 ∧ n ≤ 0x7F ∧ leadNumber n ≤ 0x7F) ∨
    ((encodingShape n).1 = 0xC0 ∧ (encodingShape n).2 = 1 ∧ 0x7F < n ∧ n ≤ 0x7FF ∧
      0xC0 ≤ leadNumber n ∧ leadNumber n ≤ 0xDF) ∨
    ((encodingShape n).1 = 0xE0 ∧ (encodingShape n).2 = 2 ∧ 0x7FF < n ∧ n ≤ 0xFFFF ∧
      0xE0 ≤ leadNumber n ∧ leadNumber n ≤ 0xEF) ∨
    ((encodingShape n).1 = 0xF0 ∧ (encodingShape n).2 = 3 ∧ 0xFFFF < n ∧
      0xF0 ≤ leadNumber n ∧ leadNumber n ≤ 0xF4) := by
  unfold leadNumber encodingShape
  split
  · refine Or.inl ⟨rfl, rfl, ?_⟩
    simp only [upperDigits]
    omega
  · split
    · refine Or.inr (Or.inl ⟨rfl, rfl, ?_⟩)
      simp only [upperDigits]
      omega
    · split
      · refine Or.inr (Or.inr (Or.inl ⟨rfl, rfl, ?_⟩))
        simp only [upperDigits]
        omega
      · refine Or.inr (Or.inr (Or.inr ⟨rfl, rfl, ?_⟩))
        simp only [upperDigits]
        omega

/-- Of two numbers with different shapes, the greater has the greater first byte. -/
theorem leadNumber_lt {m n : Nat} (hlt : m < n) (hmax : n ≤ 0x10FFFF) :
    ((encodingShape m).1 = (encodingShape n).1 ∧ (encodingShape m).2 = (encodingShape n).2) ∨
      leadNumber m < leadNumber n := by
  have hm := encodingShape_cases (Nat.le_of_lt (Nat.lt_of_lt_of_le hlt hmax))
  have hn := encodingShape_cases hmax
  omega

theorem utf8EncodeChar_append_lt {c d : Char} (hlt : c < d) (rest more : Bytes) :
    String.utf8EncodeChar c ++ rest < String.utf8EncodeChar d ++ more := by
  have hnumber : c.toNat < d.toNat := hlt
  have hmax := toNat_le_last d
  have hbound : leadNumber d.toNat < 256 := by
    have hcases := encodingShape_cases hmax
    omega
  rw [utf8EncodeChar_eq_sextets, utf8EncodeChar_eq_sextets]
  rcases leadNumber_lt hnumber hmax with ⟨hmark, hcount⟩ | hlead
  · rw [hmark, hcount]
    exact sextets_append_lt hnumber hbound rest more
  · obtain ⟨ctail, hc⟩ := exists_sextets_eq_cons (encodingShape c.toNat).1
      (encodingShape c.toNat).2 c.toNat
    obtain ⟨dtail, hd⟩ := exists_sextets_eq_cons (encodingShape d.toNat).1
      (encodingShape d.toNat).2 d.toNat
    rw [hc, hd]
    exact List.cons_lt_cons_iff.mpr (Or.inl (ofNat_lt_ofNat hlead hbound))

/-! ## Texts -/

theorem flatMap_utf8EncodeChar_lt {cs ds : List Char} (hlt : List.Lex (· < ·) cs ds) :
    cs.flatMap String.utf8EncodeChar < ds.flatMap String.utf8EncodeChar := by
  induction hlt with
  | @nil d more =>
      obtain ⟨lead, tail, hcons⟩ :=
        List.exists_cons_of_ne_nil (String.utf8EncodeChar_ne_nil (c := d))
      rw [List.flatMap_nil, List.flatMap_cons, hcons]
      exact List.nil_lt_cons _ _
  | @rel c rest d more hlt =>
      rw [List.flatMap_cons, List.flatMap_cons]
      exact utf8EncodeChar_append_lt hlt _ _
  | @cons c rest more _ ih =>
      rw [List.flatMap_cons, List.flatMap_cons]
      exact List.append_left_lt ih

theorem utf8_lt_of_lt {a b : String} (hlt : a < b) : utf8 a < utf8 b := by
  rw [utf8_eq_flatMap, utf8_eq_flatMap]
  exact flatMap_utf8EncodeChar_lt hlt

theorem utf8_lt_utf8_iff {a b : String} : utf8 a < utf8 b ↔ a < b := by
  refine ⟨?_, utf8_lt_of_lt⟩
  intro hlt
  rcases Std.lt_trichotomy a b with hless | rfl | hgreater
  · exact hless
  · exact absurd hlt (List.lt_irrefl _)
  · exact absurd hlt (List.lt_asymm (utf8_lt_of_lt hgreater))

theorem utf8_le_utf8_iff {a b : String} : utf8 a ≤ utf8 b ↔ a ≤ b := by
  rw [← List.not_lt, ← String.not_lt, utf8_lt_utf8_iff]

end AboutPages.Text
