import AboutPages.Page.Builtin
import AboutPages.Proofs.Fold
import AboutPages.Proofs.Text.Casing

/-!
# Tables that grow by accepted pages

What one accepted page does to a table, and what every table holds that was filled by acceptance
alone: each key is the name of its page, and each page passed the checks that do not depend on the
table. The built-in table, which is filled without checks, is such a table.
-/

namespace AboutPages

open Text

/-! ## Checks of a single page -/

theorem isReserved_eq_false_iff (c : Char) :
    isReserved c = false ↔
      (c ≠ '?' ∧ c ≠ '#' ∧ c ≠ ':' ∧ c ≠ '/') ∧ isBlank c = false ∧ isControl c = false := by
  simp [isReserved, and_assoc]

theorem checkName_eq_ok_iff (name : String) :
    checkName name = .ok () ↔
      name ≠ "" ∧ (∀ c ∈ name.toList, isReserved c = false) ∧ lowercase name = name := by
  unfold checkName
  by_cases hempty : name = ""
  · simp [hempty]
  · by_cases hreserved : name.toList.any isReserved = true
    · have hsome : ¬∀ c ∈ name.toList, isReserved c = false := by simpa using hreserved
      simp [hempty, hreserved, hsome]
    · have hnone : ∀ c ∈ name.toList, isReserved c = false := by simpa using hreserved
      by_cases hlower : lowercase name = name
      · simpa [hempty, hreserved, hlower] using hnone
      · simp [hempty, hreserved, hlower]

theorem checkTarget_eq_ok_iff (name target : String) :
    checkTarget name target = .ok () ↔ Target.check target = .ok () := by
  unfold checkTarget
  cases Target.check target <;> simp

theorem checkTarget_eq_error_iff {name target : String} {cause : EntryError} :
    checkTarget name target = .error cause ↔
      ∃ fault, Target.check target = .error fault ∧
        cause = .invalidTarget name target fault.reason := by
  unfold checkTarget
  cases Target.check target <;> simp [eq_comm]

/-- A page that passes every check that does not look at the table. -/
structure Page.InOrder (page : Page) : Prop where
  name_ne_empty : page.name ≠ ""
  name_free : ∀ c ∈ page.name.toList, isReserved c = false
  name_lower : lowercase page.name = page.name
  target_ok : Target.check page.target = .ok ()

theorem Page.InOrder.of_checks {page : Page} (hempty : page.name ≠ "")
    (hfree : page.name.toList.any isReserved = false) (hlower : lowercase page.name = page.name)
    (htarget : Target.check page.target = .ok ()) : page.InOrder := by
  refine ⟨hempty, ?_, hlower, htarget⟩
  intro c hc
  simpa using List.any_eq_false.mp hfree c hc

theorem Page.inOrder_iff (page : Page) :
    page.InOrder ↔ checkName page.name = .ok () ∧ checkTarget page.name page.target = .ok () := by
  rw [checkName_eq_ok_iff, checkTarget_eq_ok_iff]
  constructor
  · intro h
    exact ⟨⟨h.name_ne_empty, h.name_free, h.name_lower⟩, h.target_ok⟩
  · rintro ⟨⟨hempty, hfree, hlower⟩, htarget⟩
    exact ⟨hempty, hfree, hlower, htarget⟩

namespace PageTable

/-! ## Looking up after putting -/

@[simp] theorem find?_empty (name : String) : empty.find? name = none := by
  simp [find?, empty]

@[simp] theorem size_empty : empty.size = 0 := by
  simp [size, empty]

theorem find?_put (table : PageTable) (page : Page) (name : String) :
    (table.put page).find? name = if page.name = name then some page else table.find? name := by
  simp [find?, put, Std.ExtTreeMap.getElem?_insert]

theorem find?_put_self (table : PageTable) (page : Page) :
    (table.put page).find? page.name = some page := by
  rw [find?_put, if_pos rfl]

theorem find?_put_of_ne {table : PageTable} {page : Page} {name : String}
    (hne : page.name ≠ name) : (table.put page).find? name = table.find? name := by
  rw [find?_put, if_neg hne]

theorem find?_put_eq_none_iff {table : PageTable} {page : Page} {name : String} :
    (table.put page).find? name = none ↔ page.name ≠ name ∧ table.find? name = none := by
  rw [find?_put]
  by_cases hname : page.name = name <;> simp [hname]

theorem size_put_of_new {table : PageTable} {page : Page} (hnew : table.find? page.name = none) :
    (table.put page).size = table.size + 1 := by
  have hfree : table.byName.contains page.name = false := by
    rw [Std.ExtTreeMap.contains_eq_isSome_getElem?]
    change (table.find? page.name).isSome = false
    simp [hnew]
  simp [size, put, Std.ExtTreeMap.size_insert, hfree]

theorem isEmpty_eq_size (table : PageTable) : table.isEmpty = (table.size == 0) :=
  Std.ExtTreeMap.isEmpty_eq_size_beq_zero

/-! ## Accepting a page -/

theorem insert_eq (table : PageTable) (page : Page) :
    table.insert page =
      match checkName page.name with
      | .error error => .error error
      | .ok () =>
          if (table.find? page.name).isSome then .error (.duplicateName page.name)
          else
            match checkTarget page.name page.target with
            | .error error => .error error
            | .ok () => .ok (table.put page) := by
  unfold insert
  cases checkName page.name with
  | error error => rfl
  | ok _ =>
      by_cases hold : (table.find? page.name).isSome = true
      · simp only [hold, if_true]
        rfl
      · simp only [hold]
        cases checkTarget page.name page.target <;> rfl

theorem insert_eq_ok_iff {table next : PageTable} {page : Page} :
    table.insert page = .ok next ↔
      page.InOrder ∧ table.find? page.name = none ∧ next = table.put page := by
  rw [insert_eq, Page.inOrder_iff]
  cases hname : checkName page.name with
  | error error => simp
  | ok _ =>
      cases hfind : table.find? page.name with
      | some old => simp
      | none =>
          cases htarget : checkTarget page.name page.target with
          | error error => simp
          | ok _ => simp [eq_comm]

/-- A page is refused for its name, for a name that is taken, or for its target, in this order. -/
theorem insert_eq_error_iff {table : PageTable} {page : Page} {error : EntryError} :
    table.insert page = .error error ↔
      checkName page.name = .error error ∨
      checkName page.name = .ok () ∧ (table.find? page.name).isSome = true ∧
        error = .duplicateName page.name ∨
      checkName page.name = .ok () ∧ table.find? page.name = none ∧
        checkTarget page.name page.target = .error error := by
  rw [insert_eq]
  cases hname : checkName page.name with
  | error first => simp
  | ok _ =>
      cases hfind : table.find? page.name with
      | some old => simp [eq_comm]
      | none =>
          cases htarget : checkTarget page.name page.target with
          | error last => simp
          | ok _ => simp

inductive Built : PageTable → Prop where
  | empty : Built empty
  | insert {table next : PageTable} {page : Page} (built : Built table)
      (accepted : table.insert page = .ok next) : Built next

/-- What acceptance guarantees of every page in a table, and under which key it stands. -/
theorem Built.inOrder {table : PageTable} (hbuilt : table.Built) {name : String} {page : Page}
    (hfind : table.find? name = some page) : page.name = name ∧ page.InOrder := by
  induction hbuilt with
  | empty => simp at hfind
  | @insert table next added _ haccepted ih =>
      obtain ⟨horder, _, rfl⟩ := insert_eq_ok_iff.mp haccepted
      by_cases hname : added.name = name
      · rw [find?_put, if_pos hname] at hfind
        cases hfind
        exact ⟨hname, horder⟩
      · rw [find?_put_of_ne hname] at hfind
        exact ih hfind

theorem mem_pages_iff {table : PageTable} (hbuilt : table.Built) (page : Page) :
    page ∈ table.pages ↔ table.find? page.name = some page := by
  simp only [pages, List.mem_map, Prod.exists, exists_eq_right]
  constructor
  · rintro ⟨name, hmem⟩
    have hfind : table.find? name = some page :=
      Std.ExtTreeMap.mem_toList_iff_getElem?_eq_some.mp hmem
    rw [(hbuilt.inOrder hfind).1]
    exact hfind
  · intro hfind
    exact ⟨page.name, Std.ExtTreeMap.mem_toList_iff_getElem?_eq_some.mpr hfind⟩

/-! ## Accepting one page after another -/

/-- Pages are accepted one after another exactly if each is in order and their names are distinct
and new. -/
theorem foldlM_insert_eq_ok_iff {pages : List Page} {table next : PageTable} :
    pages.foldlM PageTable.insert table = .ok next ↔
      (∀ page ∈ pages, page.InOrder) ∧ (pages.map Page.name).Nodup ∧
        (∀ page ∈ pages, table.find? page.name = none) ∧
        next = pages.foldl PageTable.put table := by
  induction pages generalizing table with
  | nil => simp [pure, Except.pure, eq_comm]
  | cons page rest ih =>
      -- The name of the first page is taken for the rest and for nothing else.
      have hrest : (∀ other ∈ rest, (table.put page).find? other.name = none) ↔
          page.name ∉ rest.map Page.name ∧ ∀ other ∈ rest, table.find? other.name = none := by
        simp only [find?_put_eq_none_iff, List.mem_map, not_exists, not_and, ne_eq]
        constructor
        · intro h
          exact ⟨fun other hother heq => (h other hother).1 heq.symm,
            fun other hother => (h other hother).2⟩
        · rintro ⟨hnames, hold⟩ other hother
          exact ⟨fun heq => hnames other hother heq.symm, hold other hother⟩
      rw [foldlM_cons_eq_ok_iff]
      simp only [insert_eq_ok_iff, List.forall_mem_cons, List.map_cons, List.nodup_cons,
        List.foldl_cons]
      constructor
      · rintro ⟨middle, ⟨horder, hnew, rfl⟩, haccepted⟩
        obtain ⟨horders, hdistinct, hnews, rfl⟩ := ih.mp haccepted
        obtain ⟨hname, hnews⟩ := hrest.mp hnews
        exact ⟨⟨horder, horders⟩, ⟨hname, hdistinct⟩, ⟨hnew, hnews⟩, rfl⟩
      · rintro ⟨⟨horder, horders⟩, ⟨hname, hdistinct⟩, ⟨hnew, hnews⟩, rfl⟩
        exact ⟨table.put page, ⟨horder, hnew, rfl⟩,
          ih.mpr ⟨horders, hdistinct, hrest.mpr ⟨hname, hnews⟩, rfl⟩⟩

theorem Built.foldlM_insert {pages : List Page} {table next : PageTable} (hbuilt : table.Built)
    (haccepted : pages.foldlM PageTable.insert table = .ok next) : next.Built := by
  induction pages generalizing table with
  | nil =>
      cases haccepted
      exact hbuilt
  | cons page rest ih =>
      obtain ⟨middle, hfirst, hrest⟩ := foldlM_cons_eq_ok_iff.mp haccepted
      exact ih (hbuilt.insert hfirst) hrest

end PageTable

/-! ## The built-in pages -/

theorem builtinPages_subset (servicesSync : Bool) : builtinPages servicesSync ⊆ builtinPages true := by
  cases servicesSync with
  | true => exact List.Subset.refl _
  | false => exact List.subset_append_left corePages syncPages

theorem builtinPages_letters :
    ∀ page ∈ builtinPages true, page.name.toList.all fun c =>
      decide (c = '-' ∨ (0x61 ≤ c.toNat ∧ c.toNat ≤ 0x7A)) := by
  decide +kernel

theorem builtinPages_inOrder (servicesSync : Bool) :
    ∀ page ∈ builtinPages servicesSync, page.InOrder := by
  have hnames : ∀ page ∈ builtinPages true, page.name ≠ "" ∧
      page.name.toList.any isReserved = false := by
    decide +kernel
  have htargets : ∀ page ∈ builtinPages true, (Target.check page.target).isOk = true := by
    decide +kernel
  intro page hmem
  have hall := builtinPages_subset servicesSync hmem
  obtain ⟨hempty, hfree⟩ := hnames page hall
  have hlower : lowercase page.name = page.name := by
    apply lowercase_eq_self_of_fixed
    intro c hc
    have hletter := List.all_eq_true.mp (builtinPages_letters page hall) c hc
    rcases of_decide_eq_true hletter with rfl | ⟨hfirst, hlast⟩
    · exact fixed_of_le (by decide)
    · exact fixed_of_small hfirst hlast
  refine .of_checks hempty hfree hlower ?_
  have hok := htargets page hall
  cases hcheck : Target.check page.target with
  | error fault => simp [hcheck, Except.isOk, Except.toBool] at hok
  | ok _ => rfl

theorem builtinPages_distinct (servicesSync : Bool) :
    ((builtinPages servicesSync).map Page.name).Nodup := by
  cases servicesSync <;> decide +kernel

namespace PageTable

/-- Every built-in page passes the checks, so filling the table without them changes nothing. -/
theorem foldlM_insert_builtinPages (servicesSync : Bool) :
    (builtinPages servicesSync).foldlM PageTable.insert PageTable.empty =
      .ok (builtin servicesSync) :=
  foldlM_insert_eq_ok_iff.mpr ⟨builtinPages_inOrder servicesSync,
    builtinPages_distinct servicesSync, fun page _ => find?_empty page.name, rfl⟩

theorem built_builtin (servicesSync : Bool) : (builtin servicesSync).Built :=
  Built.empty.foldlM_insert (foldlM_insert_builtinPages servicesSync)

end PageTable

end AboutPages
