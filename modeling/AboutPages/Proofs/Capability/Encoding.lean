import AboutPages.Proofs.Capability.Naming
import Mathlib.Data.Nat.Bitwise

/-!
# Encodings of a set of capabilities

A set is seen through its members. The byte, the list of names and the older encoding all hold the
same members, so that each can be read back as the set, up to the bits that mean nothing.
-/

namespace AboutPages

namespace Capability

/-- The place of the capability in the byte, counted from the lowest bit. -/
def place : Capability → Nat
  | safeForUntrustedContent => 0
  | allowScript => 1
  | hideFromListing => 2
  | makeLinkable => 3

/-- Its place in the older encoding, which differs for one of the four. -/
def legacyPlace : Capability → Nat
  | safeForUntrustedContent => 0
  | allowScript => 1
  | hideFromListing => 2
  | makeLinkable => 7

theorem toNat_mask (capability : Capability) : capability.mask.toNat = 2 ^ capability.place := by
  cases capability <;> rfl

theorem toNat_legacyMask (capability : Capability) :
    capability.legacyMask.toNat = 2 ^ capability.legacyPlace := by
  cases capability <;> rfl

theorem place_lt (capability : Capability) : capability.place < 4 := by
  cases capability <;> decide

theorem exists_place_eq {n : Nat} (hlt : n < 4) :
    ∃ capability : Capability, capability.place = n := by
  have hcases : n = 0 ∨ n = 1 ∨ n = 2 ∨ n = 3 := by omega
  rcases hcases with rfl | rfl | rfl | rfl
  · exact ⟨safeForUntrustedContent, rfl⟩
  · exact ⟨allowScript, rfl⟩
  · exact ⟨hideFromListing, rfl⟩
  · exact ⟨makeLinkable, rfl⟩

theorem legacyPlace_inj {a b : Capability} : a.legacyPlace = b.legacyPlace ↔ a = b := by
  cases a <;> cases b <;> decide

theorem ofStableName?_stableName (capability : Capability) :
    ofStableName? capability.stableName = some capability := by
  obtain ⟨hsmall, _⟩ := stableName_shape capability
  rw [ofStableName?_eq_some_iff]
  exact ⟨[], capability.stableName.toList, [], by simp, by simp, by simp, hsmall⟩

end Capability

namespace Capabilities

open Capability

/-! ## Members -/

theorem has_eq_testBit (a : Capabilities) (capability : Capability) :
    a.has capability = a.bits.toNat.testBit capability.place := by
  have hpos : 0 < 2 ^ capability.place := Nat.two_pow_pos _
  rw [Bool.eq_iff_iff, has, includes, single, beq_iff_eq, ← UInt8.toNat_inj, UInt8.toNat_and,
    toNat_mask, Nat.and_two_pow]
  cases a.bits.toNat.testBit capability.place with
  | false => simpa using hpos.ne
  | true => simp

@[simp] theorem has_empty (capability : Capability) : empty.has capability = false := by
  rw [has_eq_testBit]
  exact Nat.zero_testBit _

@[simp] theorem has_union (a b : Capabilities) (capability : Capability) :
    (a.union b).has capability = (a.has capability || b.has capability) := by
  simp only [has_eq_testBit, union, UInt8.toNat_or, Nat.testBit_or]

@[simp] theorem has_single (a b : Capability) : (single a).has b = decide (a = b) := by
  cases a <;> cases b <;> decide

theorem testBit_known (n : Nat) : known.bits.toNat.testBit n = decide (n < 4) := by
  have hknown : known.bits.toNat = 2 ^ 4 - 1 := rfl
  rw [hknown, Nat.testBit_two_pow_sub_one]

@[simp] theorem has_truncated (a : Capabilities) (capability : Capability) :
    a.truncated.has capability = a.has capability := by
  simp only [has_eq_testBit, truncated, inter, UInt8.toNat_and, Nat.testBit_and, testBit_known,
    decide_eq_true (place_lt capability), Bool.and_true]

/-- Sets with the same members are the same, up to the bits that mean nothing. -/
theorem truncated_eq_of_has {a b : Capabilities}
    (hhas : ∀ capability, a.has capability = b.has capability) : a.truncated = b.truncated := by
  have hbits : a.truncated.bits = b.truncated.bits := by
    rw [← UInt8.toNat_inj]
    refine Nat.eq_of_testBit_eq ?_
    intro n
    simp only [truncated, inter, UInt8.toNat_and, Nat.testBit_and, testBit_known]
    by_cases hlt : n < 4
    · obtain ⟨capability, rfl⟩ := exists_place_eq hlt
      rw [← has_eq_testBit, ← has_eq_testBit, hhas]
    · simp [hlt]
  exact congrArg Capabilities.mk hbits

/-- The set has no bit that means nothing. -/
def Known (a : Capabilities) : Prop := a.truncated = a

theorem known_truncated (a : Capabilities) : a.truncated.Known :=
  truncated_eq_of_has (has_truncated a)

theorem eq_of_has {a b : Capabilities} (ha : a.Known) (hb : b.Known)
    (hhas : ∀ capability, a.has capability = b.has capability) : a = b := by
  rw [← ha, ← hb]
  exact truncated_eq_of_has hhas

theorem known_empty : empty.Known := rfl

theorem known_single (capability : Capability) : (single capability).Known := by
  cases capability <;> rfl

theorem Known.union {a b : Capabilities} (ha : a.Known) (hb : b.Known) : (a.union b).Known := by
  have hbits : (a.bits ||| b.bits) &&& known.bits = a.bits ||| b.bits := by
    have haBits : a.bits &&& known.bits = a.bits := congrArg Capabilities.bits ha
    have hbBits : b.bits &&& known.bits = b.bits := congrArg Capabilities.bits hb
    rw [← UInt8.toNat_inj, UInt8.toNat_and, UInt8.toNat_or, Nat.and_or_distrib_right,
      ← UInt8.toNat_and, ← UInt8.toNat_and, haBits, hbBits]
  exact congrArg Capabilities.mk hbits

/-! ## Lists of capabilities -/

theorem has_foldl_union (capabilities : List Capability) (start : Capabilities)
    (capability : Capability) :
    (capabilities.foldl (fun a member => a.union (single member)) start).has capability =
      (start.has capability || decide (capability ∈ capabilities)) := by
  induction capabilities generalizing start with
  | nil => simp
  | cons member rest ih =>
      rw [List.foldl_cons, ih, has_union, has_single]
      by_cases heq : member = capability
      · simp [heq]
      · have hne : capability ≠ member := fun h => heq h.symm
        simp [heq, hne]

@[simp] theorem has_ofList (capabilities : List Capability) (capability : Capability) :
    (ofList capabilities).has capability = decide (capability ∈ capabilities) := by
  rw [ofList, has_foldl_union, has_empty, Bool.false_or]

theorem known_foldl_union (capabilities : List Capability) {start : Capabilities}
    (hstart : start.Known) :
    (capabilities.foldl (fun a member => a.union (single member)) start).Known := by
  induction capabilities generalizing start with
  | nil => exact hstart
  | cons member rest ih => exact ih (hstart.union (known_single member))

theorem known_ofList (capabilities : List Capability) : (ofList capabilities).Known :=
  known_foldl_union capabilities known_empty

@[simp] theorem mem_toList {a : Capabilities} {capability : Capability} :
    capability ∈ a.toList ↔ a.has capability = true := by
  simp [toList, mem_all]

theorem ofList_toList (a : Capabilities) : ofList a.toList = a.truncated := by
  refine eq_of_has (known_ofList _) a.known_truncated ?_
  intro capability
  simp

/-! ## Lists of names -/

/-- One more name is one more member, if it is the name of a capability. -/
def addName (a : Capabilities) (name : String) : Except String Capabilities :=
  match ofStableName? name with
  | some capability => .ok (a.union (single capability))
  | none => .error name

theorem ofNames_eq (list : List String) : ofNames list = list.foldlM addName empty := rfl

theorem addName_stableName (a : Capabilities) (capability : Capability) :
    a.addName capability.stableName = .ok (a.union (single capability)) := by
  simp only [addName, ofStableName?_stableName]

theorem addName_eq_ok {a next : Capabilities} {name : String} (hadd : a.addName name = .ok next) :
    ∃ capability, next = a.union (single capability) := by
  unfold addName at hadd
  cases hname : ofStableName? name with
  | none => simp [hname] at hadd
  | some capability =>
      simp only [hname, Except.ok.injEq] at hadd
      exact ⟨capability, hadd.symm⟩

theorem foldlM_addName_stableNames (capabilities : List Capability) (start : Capabilities) :
    (capabilities.map stableName).foldlM addName start =
      .ok (capabilities.foldl (fun a member => a.union (single member)) start) := by
  induction capabilities generalizing start with
  | nil => rfl
  | cons member rest ih =>
      rw [List.map_cons, List.foldl_cons, ← ih]
      exact foldlM_cons_of_ok (addName_stableName start member)

theorem ofNames_names (a : Capabilities) : ofNames a.names = .ok a.truncated := by
  rw [ofNames_eq, names, foldlM_addName_stableNames, ← ofList_toList]
  rfl

theorem known_of_foldlM_addName {list : List String} {start set : Capabilities}
    (hstart : start.Known) (hread : list.foldlM addName start = .ok set) : set.Known := by
  induction list generalizing start with
  | nil =>
      cases hread
      exact hstart
  | cons name rest ih =>
      obtain ⟨middle, hfirst, hrest⟩ := foldlM_cons_eq_ok_iff.mp hread
      obtain ⟨capability, rfl⟩ := addName_eq_ok hfirst
      exact ih (hstart.union (known_single capability)) hrest

theorem known_of_ofNames {list : List String} {set : Capabilities}
    (hread : ofNames list = .ok set) : set.Known :=
  known_of_foldlM_addName known_empty hread

/-! ## The older encoding -/

theorem legacyMask_meets (bits : UInt32) (capability : Capability) :
    (bits &&& capability.legacyMask != 0) = bits.toNat.testBit capability.legacyPlace := by
  have hpos : 0 < 2 ^ capability.legacyPlace := Nat.two_pow_pos _
  rw [Bool.eq_iff_iff, bne_iff_ne, ne_eq, ← UInt32.toNat_inj, UInt32.toNat_and, toNat_legacyMask,
    Nat.and_two_pow]
  cases bits.toNat.testBit capability.legacyPlace <;> simp

@[simp] theorem has_ofLegacy (bits : UInt32) (capability : Capability) :
    (ofLegacy bits).has capability = bits.toNat.testBit capability.legacyPlace := by
  rw [ofLegacy, has_ofList, Bool.eq_iff_iff, decide_eq_true_iff, List.mem_filter,
    legacyMask_meets]
  simp [mem_all]

theorem testBit_foldl_legacyMask (capabilities : List Capability) (start : UInt32) (n : Nat) :
    (capabilities.foldl (fun bits member => bits ||| member.legacyMask) start).toNat.testBit n =
        true ↔
      start.toNat.testBit n = true ∨ ∃ member ∈ capabilities, member.legacyPlace = n := by
  induction capabilities generalizing start with
  | nil => simp
  | cons member rest ih =>
      rw [List.foldl_cons, ih, UInt32.toNat_or, Nat.testBit_or, toNat_legacyMask,
        Nat.testBit_two_pow]
      simp [or_assoc]

/-- Every bit of an encoded set is the bit of a member. -/
theorem testBit_toLegacy_iff (a : Capabilities) (n : Nat) :
    a.toLegacy.toNat.testBit n = true ↔
      ∃ capability, a.has capability = true ∧ capability.legacyPlace = n := by
  have hzero : (0 : UInt32).toNat.testBit n = false := Nat.zero_testBit n
  rw [toLegacy, testBit_foldl_legacyMask, hzero]
  simp

@[simp] theorem testBit_toLegacy (a : Capabilities) (capability : Capability) :
    a.toLegacy.toNat.testBit capability.legacyPlace = a.has capability := by
  rw [Bool.eq_iff_iff, testBit_toLegacy_iff]
  -- No two capabilities share a place.
  simp [legacyPlace_inj]

theorem ofLegacy_toLegacy (a : Capabilities) : ofLegacy a.toLegacy = a.truncated := by
  refine eq_of_has (known_ofList _) a.known_truncated ?_
  intro capability
  rw [has_ofLegacy, testBit_toLegacy, has_truncated]

/-- The lowest bit of the older encoding tells whether untrusted content may load the page. -/
theorem toLegacy_odd_iff (a : Capabilities) :
    a.toLegacy.toNat % 2 = 1 ↔ a.has .safeForUntrustedContent = true := by
  rw [← testBit_toLegacy]
  change _ ↔ a.toLegacy.toNat.testBit 0 = true
  rw [Nat.testBit_zero, decide_eq_true_iff]

end Capabilities

end AboutPages
