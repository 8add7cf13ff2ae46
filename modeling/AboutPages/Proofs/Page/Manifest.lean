import AboutPages.Page.Registration
import AboutPages.Proofs.Page.Enumeration
import AboutPages.Proofs.Page.Name
import AboutPages.Proofs.Text.Split

/-!
# The manifest and the table

The manifest announces the pages of a table and no others. A line can be taken apart again, because
no accepted name holds a blank, and two names have the same line only if they lower-case alike. So a
line is in the manifest exactly if the table knows its name, and exactly if an address with that
name is resolved.
-/

namespace AboutPages

open Text

namespace Registration

/-! ## One line -/

/-- What a line says about a name: three fields with a space between neighbours, of which the second
is the contract identifier, and this is the stem and the name. No other blank or control is in the
line, so that it cannot be broken. -/
structure Announces (line name : String) : Prop where
  fields : pieces ' ' line.toList =
    ["contract".toList, (contractId name).toList, classId.toList]
  stripped : contractId name = contractStem ++ name
  spaces : line.toList.count ' ' = 2
  unbroken : ∀ c ∈ line.toList, c ≠ ' ' → isBlank c = false ∧ isControl c = false

theorem contractId_of_lower {name : String} (hlower : lowercase name = name) :
    contractId name = contractStem ++ name := by
  rw [contractId, hlower]

theorem toList_line (name : String) :
    (line name).toList =
      "contract".toList ++ ' ' :: ((contractId name).toList ++ ' ' :: classId.toList) := by
  simp [line]

theorem line_eq_iff (name other : String) :
    line name = line other ↔ lowercase name = lowercase other := by
  constructor
  · intro hline
    have hlist := congrArg String.toList hline
    simp only [toList_line, contractId, String.toList_append, List.append_cancel_left_eq,
      List.append_cancel_right_eq, List.cons.injEq, true_and, List.append_assoc] at hlist
    exact String.toList_inj.mp hlist
  · intro hlower
    rw [line, line, contractId, contractId, hlower]

/-- The parts of a line that are the same for every page hold no blank and no control. -/
theorem fixedParts_unbroken :
    ("contract".toList ++ contractStem.toList ++ classId.toList).all
      (fun c => !isBlank c && !isControl c) = true := by
  decide +kernel

theorem fixedPart_unbroken {c : Char}
    (hc : c ∈ "contract".toList ++ contractStem.toList ++ classId.toList) :
    isBlank c = false ∧ isControl c = false := by
  simpa using List.all_eq_true.mp fixedParts_unbroken c hc

theorem contractId_unbroken {name : String} (hlower : lowercase name = name)
    (hfree : ∀ c ∈ name.toList, isReserved c = false) :
    ∀ c ∈ (contractId name).toList, isBlank c = false ∧ isControl c = false := by
  intro c hc
  rw [contractId_of_lower hlower, String.toList_append] at hc
  rcases List.mem_append.mp hc with hstem | hname
  · exact fixedPart_unbroken (List.mem_append_left _ (List.mem_append_right _ hstem))
  · exact ((isReserved_eq_false_iff c).mp (hfree c hname)).2

theorem space_not_mem_of_unbroken {cs : List Char}
    (hunbroken : ∀ c ∈ cs, isBlank c = false ∧ isControl c = false) : ' ' ∉ cs := by
  intro hmem
  have hblank : isBlank ' ' = true := by decide
  rw [(hunbroken ' ' hmem).1] at hblank
  cases hblank

theorem announces_line {name : String} (hlower : lowercase name = name)
    (hfree : ∀ c ∈ name.toList, isReserved c = false) : Announces (line name) name := by
  have hword : ∀ c ∈ "contract".toList, isBlank c = false ∧ isControl c = false :=
    fun c hc => fixedPart_unbroken (List.mem_append_left _ (List.mem_append_left _ hc))
  have hclass : ∀ c ∈ classId.toList, isBlank c = false ∧ isControl c = false :=
    fun c hc => fixedPart_unbroken (List.mem_append_right _ hc)
  have hcontract := contractId_unbroken hlower hfree
  have hwordSpace := space_not_mem_of_unbroken hword
  have hclassSpace := space_not_mem_of_unbroken hclass
  have hcontractSpace := space_not_mem_of_unbroken hcontract
  refine ⟨?_, contractId_of_lower hlower, ?_, ?_⟩
  · rw [toList_line, pieces_append_sep, pieces_append_sep, pieces_of_not_mem hwordSpace,
      pieces_of_not_mem hcontractSpace, pieces_of_not_mem hclassSpace]
    rfl
  · rw [toList_line, List.count_append, List.count_cons_self, List.count_append,
      List.count_cons_self, List.count_eq_zero.mpr hwordSpace,
      List.count_eq_zero.mpr hcontractSpace, List.count_eq_zero.mpr hclassSpace]
  · intro c hc hspace
    simp only [toList_line, List.mem_append, List.mem_cons] at hc
    rcases hc with hc | rfl | hc | rfl | hc
    · exact hword c hc
    · exact absurd rfl hspace
    · exact hcontract c hc
    · exact absurd rfl hspace
    · exact hclass c hc

end Registration

namespace PageTable

/-! ## The lines of a table -/

theorem Built.lowercase_of_mem_names {table : PageTable} (hbuilt : table.Built) {name : String}
    (hname : name ∈ table.names) :
    lowercase name = name ∧ ∀ c ∈ name.toList, isReserved c = false := by
  obtain ⟨page, hfind⟩ := Option.isSome_iff_exists.mp (mem_names_iff.mp hname)
  obtain ⟨rfl, horder⟩ := hbuilt.inOrder hfind
  exact ⟨horder.name_lower, horder.name_free⟩

theorem Built.manifest_nodup {table : PageTable} (hbuilt : table.Built) :
    table.manifest.Nodup := by
  refine List.Nodup.map_on ?_ table.names_nodup
  intro name hname other hother hline
  have hlower := (Registration.line_eq_iff name other).mp hline
  rwa [(hbuilt.lowercase_of_mem_names hname).1,
    (hbuilt.lowercase_of_mem_names hother).1] at hlower

theorem Built.manifest_announces {table : PageTable} (hbuilt : table.Built) :
    List.Forall₂ Registration.Announces table.manifest table.names := by
  rw [manifest, List.forall₂_map_left_iff, List.forall₂_same]
  intro name hname
  obtain ⟨hlower, hfree⟩ := hbuilt.lowercase_of_mem_names hname
  exact Registration.announces_line hlower hfree

/-- A line is in the manifest exactly if the table contains the name, in whatever letter case. -/
theorem Built.line_mem_manifest_iff {table : PageTable} (hbuilt : table.Built) (name : String) :
    Registration.line name ∈ table.manifest ↔ table.contains name = true := by
  rw [contains, get?, ← mem_names_iff, manifest, List.mem_map]
  simp only [Registration.line_eq_iff]
  constructor
  · rintro ⟨key, hkey, hsame⟩
    rwa [← hsame, (hbuilt.lowercase_of_mem_names hkey).1]
  · intro hmem
    exact ⟨lowercase name, hmem, lowercase_lowercase name⟩

theorem exists_plan_iff {table : PageTable} {address : String} :
    (∃ plan, table.plan address = .ok plan) ↔
      (table.find? (pageName address)).isSome = true :=
  table.exists_map_lookup_eq_ok_iff address _

/-- The manifest has one line for each page, in the order of the names, from which the name can be
read off. A line for a name is there exactly if the table contains the name; so an address is
resolved exactly if the line for the name in it is there. -/
theorem manifest_mirrors_table {table : PageTable} (hbuilt : table.Built) :
    table.manifest.length = table.size ∧ table.manifest.Nodup ∧
    List.Forall₂ Registration.Announces table.manifest table.names ∧
    table.names = table.pages.map Page.name ∧
    (∀ name, Registration.line name ∈ table.manifest ↔ table.contains name = true) ∧
    ∀ address, (∃ plan, table.plan address = .ok plan) ↔
      Registration.line (pageName address) ∈ table.manifest := by
  refine ⟨?_, hbuilt.manifest_nodup, hbuilt.manifest_announces, hbuilt.map_name_pages.symm,
    hbuilt.line_mem_manifest_iff, ?_⟩
  · rw [manifest, List.length_map, length_names]
  · intro address
    rw [hbuilt.line_mem_manifest_iff, contains_pageName, exists_plan_iff]

/-- The line for a name in capitals, of which the last is a sigma. -/
theorem manifest_mirrors_table_sigma :
    Registration.line "ΚΌΣΜΟΣ" ∈ (PageTable.empty.put ⟨"κόσμος", "x:y", ⟨17⟩⟩).manifest := by
  have haccepted : PageTable.empty.insert ⟨"κόσμος", "x:y", ⟨17⟩⟩ =
      .ok (PageTable.empty.put ⟨"κόσμος", "x:y", ⟨17⟩⟩) :=
    insert_eq_ok_iff.mpr
      ⟨.of_checks (by decide) (by decide +kernel) (by decide +kernel) rfl,
        find?_empty _, rfl⟩
  obtain ⟨_, _, _, _, hline, _⟩ := manifest_mirrors_table (Built.empty.insert haccepted)
  refine (hline "ΚΌΣΜΟΣ").mpr ?_
  have hlower : lowercase "ΚΌΣΜΟΣ" = "κόσμος" := by decide +kernel
  rw [contains, get?, hlower, find?_put, if_pos rfl]
  rfl

end PageTable

end AboutPages
