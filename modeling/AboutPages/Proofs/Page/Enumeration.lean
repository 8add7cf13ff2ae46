import AboutPages.Proofs.Page.History
import Mathlib.Data.List.Nodup

/-!
# What a table enumerates

A table is determined by its look-ups. Its names and pages are enumerated by ascending name, and
that is the one result which sorting can have, whatever the order in which the entries are given out
and whatever sorting does with equals: no two pages have the same name.
-/

namespace AboutPages

/-! ## Sorting -/

/-- What sorting by a text may return: the given elements by ascending keys, in any order where keys
are equal. -/
structure Arranges {α : Type} (key : α → String) (given arranged : List α) : Prop where
  perm : arranged.Perm given
  ascending : arranged.Pairwise fun a b => key a ≤ key b

theorem Arranges.unique {α : Type} {key : α → String} {given first second : List α}
    (hkeys : (given.map key).Nodup) (hfirst : Arranges key given first)
    (hsecond : Arranges key given second) : first = second := by
  refine List.Perm.eq_of_pairwise ?_ hfirst.ascending hsecond.ascending
    (hfirst.perm.trans hsecond.perm.symm)
  intro a b ha hb hle hge
  exact List.inj_on_of_nodup_map hkeys (hfirst.perm.mem_iff.mp ha) (hsecond.perm.mem_iff.mp hb)
    (String.le_antisymm hle hge)

namespace PageTable

/-! ## Tables and their look-ups -/

theorem ext_find? {table other : PageTable} (hfind : ∀ name, table.find? name = other.find? name) :
    table = other := by
  obtain ⟨byName⟩ := table
  obtain ⟨otherByName⟩ := other
  congr 1
  exact Std.ExtTreeMap.ext_getElem? hfind

theorem mem_toList_iff {table : PageTable} {name : String} {page : Page} :
    (name, page) ∈ table.byName.toList ↔ table.find? name = some page :=
  Std.ExtTreeMap.mem_toList_iff_getElem?_eq_some

theorem toList_nodup (table : PageTable) : table.byName.toList.Nodup := by
  refine table.byName.distinct_keys_toList.imp ?_
  rintro entry _ hne rfl
  exact hne Std.ReflCmp.compare_self

theorem mem_names_iff {table : PageTable} {name : String} :
    name ∈ table.names ↔ (table.find? name).isSome = true := by
  rw [names, Std.ExtTreeMap.mem_keys, Std.ExtTreeMap.mem_iff_isSome_getElem?]
  rfl

theorem not_mem_names_iff {table : PageTable} {name : String} :
    name ∉ table.names ↔ table.find? name = none := by
  rw [mem_names_iff, Option.not_isSome_iff_eq_none]

theorem length_names (table : PageTable) : table.names.length = table.size :=
  Std.ExtTreeMap.length_keys

theorem names_nodup (table : PageTable) : table.names.Nodup :=
  table.byName.nodup_keys

/-- In a table that was filled by acceptance, the keys are the names of the pages. -/
theorem Built.map_name_pages {table : PageTable} (hbuilt : table.Built) :
    table.pages.map Page.name = table.names := by
  rw [pages, names, List.map_map, ← Std.ExtTreeMap.map_fst_toList_eq_keys]
  refine List.map_congr_left ?_
  rintro ⟨name, page⟩ hmem
  exact (hbuilt.inOrder (mem_toList_iff.mp hmem)).1

theorem Built.map_name_pages_nodup {table : PageTable} (hbuilt : table.Built) :
    (table.pages.map Page.name).Nodup := by
  rw [hbuilt.map_name_pages]
  exact table.names_nodup

/-! ## Order -/

theorem names_ascending (table : PageTable) : table.names.Pairwise fun a b => a < b :=
  table.byName.ordered_keys.imp fun hlt => compareOfLessAndEq_eq_lt.mp hlt

theorem Built.pages_ascending {table : PageTable} (hbuilt : table.Built) :
    table.pages.Pairwise fun a b => a.name < b.name := by
  have hnames := table.names_ascending
  rwa [← hbuilt.map_name_pages, List.pairwise_map] at hnames

/-- The entries of a table in some order, each of them once. -/
structure Enumerates (table : PageTable) (entries : List (String × Page)) : Prop where
  nodup : entries.Nodup
  mem_iff : ∀ name page, (name, page) ∈ entries ↔ table.find? name = some page

theorem Enumerates.perm {table : PageTable} {entries : List (String × Page)}
    (hentries : table.Enumerates entries) : table.byName.toList.Perm entries := by
  rw [List.perm_ext_iff_of_nodup table.toList_nodup hentries.nodup]
  rintro ⟨name, page⟩
  rw [mem_toList_iff, hentries.mem_iff]

/-- Sorting the keys gives the names of the table and nothing else. -/
theorem Enumerates.arranges_names_iff {table : PageTable} {entries : List (String × Page)}
    (hentries : table.Enumerates entries) (arranged : List String) :
    Arranges id (entries.map Prod.fst) arranged ↔ arranged = table.names := by
  have hperm : table.names.Perm (entries.map Prod.fst) := by
    rw [names, ← Std.ExtTreeMap.map_fst_toList_eq_keys]
    exact hentries.perm.map Prod.fst
  have hnames : Arranges id (entries.map Prod.fst) table.names :=
    ⟨hperm, table.names_ascending.imp Std.le_of_lt⟩
  constructor
  · intro harranged
    refine harranged.unique ?_ hnames
    rw [List.map_id]
    exact hperm.nodup_iff.mp table.names_nodup
  · rintro rfl
    exact hnames

/-- Sorting the pages by name gives the pages of the table and nothing else. -/
theorem Enumerates.arranges_pages_iff {table : PageTable} (hbuilt : table.Built)
    {entries : List (String × Page)} (hentries : table.Enumerates entries) (arranged : List Page) :
    Arranges Page.name (entries.map Prod.snd) arranged ↔ arranged = table.pages := by
  have hperm : table.pages.Perm (entries.map Prod.snd) := hentries.perm.map Prod.snd
  have hpages : Arranges Page.name (entries.map Prod.snd) table.pages :=
    ⟨hperm, hbuilt.pages_ascending.imp Std.le_of_lt⟩
  constructor
  · intro harranged
    exact harranged.unique ((hperm.map Page.name).nodup_iff.mp hbuilt.map_name_pages_nodup) hpages
  · rintro rfl
    exact hpages

end PageTable

/-! ## Tables that agree with a list -/

namespace Ledger

theorem find?_eq_some_iff {ledger : Ledger} (hdistinct : (ledger.map Page.name).Nodup)
    {name : String} {page : Page} :
    (ledger.find? fun other => decide (other.name = name)) = some page ↔
      page ∈ ledger ∧ page.name = name := by
  constructor
  · intro hfind
    exact ⟨List.mem_of_find?_eq_some hfind, by simpa using List.find?_some hfind⟩
  · rintro ⟨hmem, rfl⟩
    have hsome : (ledger.find? fun other => decide (other.name = page.name)).isSome = true := by
      rw [List.find?_isSome]
      exact ⟨page, hmem, by simp⟩
    obtain ⟨other, hother⟩ := Option.isSome_iff_exists.mp hsome
    have hname : other.name = page.name := by simpa using List.find?_some hother
    rw [hother, List.inj_on_of_nodup_map hdistinct (List.mem_of_find?_eq_some hother) hmem hname]

end Ledger

namespace Agrees

theorem find?_eq_some_iff {table : PageTable} {ledger : Ledger} (hagrees : Agrees table ledger)
    (hdistinct : (ledger.map Page.name).Nodup) {name : String} {page : Page} :
    table.find? name = some page ↔ page ∈ ledger ∧ page.name = name := by
  rw [hagrees.find, Ledger.find?_eq_some_iff hdistinct]

theorem pages_perm {table : PageTable} {ledger : Ledger} (hagrees : Agrees table ledger)
    (hbuilt : table.Built) (hdistinct : (ledger.map Page.name).Nodup) :
    table.pages.Perm ledger := by
  rw [List.perm_ext_iff_of_nodup hbuilt.map_name_pages_nodup.of_map hdistinct.of_map]
  intro page
  rw [PageTable.mem_pages_iff hbuilt, hagrees.find?_eq_some_iff hdistinct]
  simp

/-- The order of the list does not matter if its names are distinct. -/
theorem of_perm {table : PageTable} {ledger rearranged : Ledger} (hagrees : Agrees table ledger)
    (hdistinct : (ledger.map Page.name).Nodup) (hperm : ledger.Perm rearranged) :
    Agrees table rearranged := by
  have hdistinct' : (rearranged.map Page.name).Nodup :=
    (hperm.map Page.name).nodup_iff.mp hdistinct
  constructor
  · intro name
    refine Option.ext fun page => ?_
    rw [hagrees.find?_eq_some_iff hdistinct, Ledger.find?_eq_some_iff hdistinct', hperm.mem_iff]
  · rw [hagrees.size, hperm.length_eq]

theorem unique {table other : PageTable} {ledger : Ledger} (hagrees : Agrees table ledger)
    (hother : Agrees other ledger) : table = other :=
  PageTable.ext_find? fun name => by rw [hagrees.find, hother.find]

end Agrees

end AboutPages
