import AboutPages.Proofs.Capability.Encoding

/-!
# The older encoding as an embedding

A word of the older encoding has 32 bits, of which four have a meaning, and one of these stands in
another place than in the byte. The words with no other bit are in one-to-one correspondence with
the sets of capabilities. Encoding and decoding drop whatever has no meaning, go bit by bit, and so
agree with union and intersection; inclusion is the same on both sides.
-/

namespace AboutPages.Capabilities

open Capability

/-! ## Bits of a word -/

theorem toNat_testBit_ext {x y : UInt32}
    (hbits : ∀ n, x.toNat.testBit n = true ↔ y.toNat.testBit n = true) : x = y := by
  rw [← UInt32.toNat_inj]
  apply Nat.eq_of_testBit_eq
  intro n
  rw [Bool.eq_iff_iff]
  exact hbits n

theorem testBit_legacyBits_iff (n : Nat) :
    (0x87 : UInt32).toNat.testBit n = true ↔ ∃ capability : Capability, capability.legacyPlace = n := by
  have hknown : known.toLegacy = 0x87 := by decide
  have hall : ∀ capability, known.has capability = true := by
    intro capability
    cases capability <;> decide
  rw [← hknown, testBit_toLegacy_iff]
  simp [hall]

/-! ## There and back -/

theorem toLegacy_ofLegacy (bits : UInt32) : (ofLegacy bits).toLegacy = bits &&& 0x87 := by
  apply toNat_testBit_ext
  intro n
  rw [testBit_toLegacy_iff, UInt32.toNat_and, Nat.testBit_and, Bool.and_eq_true,
    testBit_legacyBits_iff]
  constructor
  · rintro ⟨capability, hhas, rfl⟩
    rw [has_ofLegacy] at hhas
    exact ⟨hhas, capability, rfl⟩
  · rintro ⟨hbit, capability, rfl⟩
    exact ⟨capability, by rw [has_ofLegacy, hbit], rfl⟩

theorem toLegacy_eq_iff (a b : Capabilities) :
    a.toLegacy = b.toLegacy ↔ a.truncated = b.truncated := by
  constructor
  · intro hsame
    rw [← ofLegacy_toLegacy, ← ofLegacy_toLegacy, hsame]
  · intro hsame
    apply toNat_testBit_ext
    intro n
    simp only [testBit_toLegacy_iff, ← has_truncated a, ← has_truncated b, hsame]

theorem known_ofLegacy (bits : UInt32) : (ofLegacy bits).Known := known_ofList _

theorem ofLegacy_masked (bits : UInt32) : ofLegacy (bits &&& 0x87) = ofLegacy bits := by
  calc
    ofLegacy (bits &&& 0x87) = ofLegacy (ofLegacy bits).toLegacy := by rw [toLegacy_ofLegacy]
    _ = (ofLegacy bits).truncated := ofLegacy_toLegacy _
    _ = ofLegacy bits := known_ofLegacy bits

/-! ## Union, intersection, inclusion -/

@[simp] theorem has_inter (a b : Capabilities) (capability : Capability) :
    (a.inter b).has capability = (a.has capability && b.has capability) := by
  simp only [has_eq_testBit, inter, UInt8.toNat_and, Nat.testBit_and]

theorem truncated_inter (a b : Capabilities) :
    (a.inter b).truncated = a.truncated.inter b.truncated := by
  have hknown : (a.truncated.inter b.truncated).Known := by
    have hbits : a.truncated.bits &&& b.truncated.bits &&& known.bits =
        a.truncated.bits &&& b.truncated.bits := by
      rw [UInt8.and_assoc]
      exact congrArg (a.truncated.bits &&& ·.bits) b.known_truncated
    exact congrArg Capabilities.mk hbits
  apply eq_of_has (known_truncated _) hknown
  intro capability
  simp

theorem includes_iff (a b : Capabilities) : a.includes b = true ↔ a.inter b = b := by
  cases b
  simp [includes, inter]

theorem toLegacy_union (a b : Capabilities) :
    (a.union b).toLegacy = a.toLegacy ||| b.toLegacy := by
  apply toNat_testBit_ext
  intro n
  simp only [UInt32.toNat_or, Nat.testBit_or, Bool.or_eq_true, testBit_toLegacy_iff, has_union,
    or_and_right, exists_or]

theorem toLegacy_inter (a b : Capabilities) :
    (a.inter b).toLegacy = a.toLegacy &&& b.toLegacy := by
  apply toNat_testBit_ext
  intro n
  simp only [UInt32.toNat_and, Nat.testBit_and, Bool.and_eq_true, testBit_toLegacy_iff, has_inter]
  constructor
  · rintro ⟨capability, ⟨ha, hb⟩, hplace⟩
    exact ⟨⟨capability, ha, hplace⟩, capability, hb, hplace⟩
  · rintro ⟨⟨capability, ha, hplace⟩, other, hb, hother⟩
    -- One place belongs to one capability only.
    have hsame : other = capability := legacyPlace_inj.mp (hother.trans hplace.symm)
    rw [hsame] at hb
    exact ⟨capability, ⟨ha, hb⟩, hplace⟩

theorem ofLegacy_or (x y : UInt32) :
    ofLegacy (x ||| y) = (ofLegacy x).union (ofLegacy y) := by
  apply eq_of_has (known_ofLegacy _) ((known_ofLegacy x).union (known_ofLegacy y))
  intro capability
  simp only [has_ofLegacy, has_union, UInt32.toNat_or, Nat.testBit_or]

theorem ofLegacy_and (x y : UInt32) :
    ofLegacy (x &&& y) = (ofLegacy x).inter (ofLegacy y) := by
  rw [← known_ofLegacy x, ← known_ofLegacy y, ← truncated_inter]
  apply eq_of_has (known_ofLegacy _) (known_truncated _)
  intro capability
  simp only [has_truncated, has_ofLegacy, has_inter, UInt32.toNat_and, Nat.testBit_and]

/-- A set includes another exactly if its word has all the bits of the other's. -/
theorem includes_truncated_iff (a b : Capabilities) :
    a.truncated.includes b.truncated = true ↔ a.toLegacy &&& b.toLegacy = b.toLegacy := by
  rw [includes_iff, ← truncated_inter, ← toLegacy_eq_iff, toLegacy_inter]

theorem includes_ofLegacy_iff (x y : UInt32) :
    (ofLegacy x).includes (ofLegacy y) = true ↔ (x &&& 0x87) &&& (y &&& 0x87) = y &&& 0x87 := by
  have hiff := includes_truncated_iff (ofLegacy x) (ofLegacy y)
  rw [known_ofLegacy, known_ofLegacy, toLegacy_ofLegacy, toLegacy_ofLegacy] at hiff
  exact hiff

/-- The older encoding is an embedding. From a word, decoding and encoding keep the four bits with a
meaning, and only these count for decoding; from a set, encoding and decoding keep the four
capabilities. Both maps turn unions into unions and intersections into intersections, and one set
includes another exactly if this holds of their words. -/
theorem legacy_embeds_capabilities (x y : UInt32) (a b : Capabilities) :
    (ofLegacy x).toLegacy = x &&& 0x87 ∧
    ofLegacy x = ofLegacy (x &&& 0x87) ∧
    (ofLegacy x).truncated = ofLegacy x ∧
    ofLegacy a.toLegacy = a.truncated ∧
    (a.union b).toLegacy = a.toLegacy ||| b.toLegacy ∧
    (a.inter b).toLegacy = a.toLegacy &&& b.toLegacy ∧
    ofLegacy (x ||| y) = (ofLegacy x).union (ofLegacy y) ∧
    ofLegacy (x &&& y) = (ofLegacy x).inter (ofLegacy y) ∧
    (a.truncated.includes b.truncated = true ↔ a.toLegacy &&& b.toLegacy = b.toLegacy) ∧
    ((ofLegacy x).includes (ofLegacy y) = true ↔
      (x &&& 0x87) &&& (y &&& 0x87) = y &&& 0x87) :=
  ⟨toLegacy_ofLegacy x, (ofLegacy_masked x).symm, known_ofLegacy x, ofLegacy_toLegacy a,
    toLegacy_union a b, toLegacy_inter a b, ofLegacy_or x y, ofLegacy_and x y,
    includes_truncated_iff a b, includes_ofLegacy_iff x y⟩

end AboutPages.Capabilities
