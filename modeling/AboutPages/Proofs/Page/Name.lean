import AboutPages.Proofs.Page.Resolution

/-!
# Names in normal form

The name that an address asks for has been lower-cased, and more than that is true of it: none of
its characters can change again, next to whatever neighbours. So it can be looked up as it is. The
lookup that lower-cases first finds the same page, and the name in a refusal is refused again.
-/

namespace AboutPages

open Text

/-- A text of the form that names have: lower-casing keeps every character of it, wherever it
stands, and no suffix begins in it. -/
structure NormalName (text : String) : Prop where
  fixed : ∀ c ∈ text.toList, Fixed c
  plain : Address.Plain text

theorem plain_lowercase {text : String} (hplain : Address.Plain text) :
    Address.Plain (lowercase text) := by
  have hkept : ∀ c, ¬Wordlike c → c ∉ text.toList → c ∉ (lowercase text).toList := by
    intro c hword hnot hmem
    rcases mem_or_wordlike_of_mem_lowercase hmem with hold | hnew
    · exact hnot hold
    · exact hword hnew
  exact ⟨hkept '?' (by decide) hplain.1, hkept '#' (by decide) hplain.2⟩

theorem normalName_pageName (address : String) : NormalName (pageName address) where
  fixed _ := fixed_of_mem_lowercase
  plain := plain_lowercase (Address.cut_parse address).rawName_plain

theorem NormalName.lowercase_eq {text : String} (hnormal : NormalName text) :
    lowercase text = text :=
  (lowercase_eq_self_iff text).mpr hnormal.fixed

/-- Behind a colon, a text in normal form is a name, whatever colons it has itself. -/
theorem NormalName.pageName_colon {text : String} (hnormal : NormalName text) :
    pageName (":" ++ text) = text := by
  have hparse : Address.parse ("" ++ ":" ++ text ++ "") = ⟨some "", text, ""⟩ :=
    Address.parse_scheme_append (by simp) (by simp [Address.Plain]) hnormal.plain
      (by simp [Address.Suffixed])
  rw [String.empty_append, String.append_empty] at hparse
  rw [pageName, hparse]
  exact hnormal.lowercase_eq

theorem exists_pageName_eq_iff (text : String) :
    (∃ address, pageName address = text) ↔ NormalName text := by
  constructor
  · rintro ⟨address, rfl⟩
    exact normalName_pageName address
  · intro hnormal
    exact ⟨":" ++ text, hnormal.pageName_colon⟩

namespace PageTable

variable {table : PageTable} {address : String} {unknown : UnknownPage}

theorem get?_of_normalName (table : PageTable) {name : String} (hnormal : NormalName name) :
    table.get? name = table.find? name := by
  rw [get?, hnormal.lowercase_eq]

theorem contains_pageName (table : PageTable) (address : String) :
    table.contains (pageName address) = (table.find? (pageName address)).isSome := by
  rw [contains, table.get?_of_normalName (normalName_pageName address)]

/-- What is asked for about the page of an address is answered exactly if there is a page. -/
theorem exists_map_lookup_eq_ok_iff {α : Type} (table : PageTable) (address : String)
    (f : Page → α) :
    (∃ answer, (table.lookup address).map f = .ok answer) ↔
      (table.find? (pageName address)).isSome = true := by
  cases hfind : table.find? (pageName address) with
  | some page => simp [lookup_of_find hfind, Except.map]
  | none => simp [lookup_of_find_none hfind, Except.map]

theorem lookup_eq_error_iff :
    table.lookup address = .error unknown ↔
      table.find? (pageName address) = none ∧ unknown.name = pageName address := by
  cases hfind : table.find? (pageName address) with
  | some page => simp [lookup_of_find hfind]
  | none =>
      obtain ⟨name⟩ := unknown
      simp [lookup_of_find_none hfind, eq_comm]

/-- One of the ways to resolve an address, or a request of a host, ends with this error. -/
inductive Reports (table : PageTable) (address : String) (unknown : UnknownPage) : Prop where
  | capabilities (herror : table.resolveCapabilities address = .error unknown)
  | target (herror : table.resolveTarget address = .error unknown)
  | plan (herror : table.plan address = .error unknown)
  | uriCapabilities (herror : table.aboutModule.uriCapabilities address = .error unknown)
  | newChannel (herror : table.aboutModule.newChannel address = .error unknown)

theorem lookup_of_map_eq_error {α : Type} {f : Page → α}
    (herror : (table.lookup address).map f = .error unknown) :
    table.lookup address = .error unknown := by
  cases hlookup : table.lookup address with
  | ok page => simp [hlookup, Except.map] at herror
  | error cause => simpa [hlookup, Except.map] using herror

/-- Whichever way reports the error, it comes from the lookup. -/
theorem Reports.lookup_eq (hreports : table.Reports address unknown) :
    table.lookup address = .error unknown := by
  cases hreports with
  | capabilities herror => exact lookup_of_map_eq_error herror
  | target herror => exact lookup_of_map_eq_error herror
  | plan herror => exact lookup_of_map_eq_error herror
  | uriCapabilities herror => exact lookup_of_map_eq_error herror
  | newChannel herror => exact lookup_of_map_eq_error herror

/-- Lower-casing is done once and for all. The names that addresses ask for are the texts in normal
form, which it leaves as they are. So for every table the two lookups agree on a name, a name is in
the table exactly if its address is resolved, and what an error says is missing is missing. -/
theorem names_in_normal_form (table : PageTable) (address : String) :
    (∀ text, lowercase (lowercase text) = lowercase text) ∧
    (∀ text, (∃ other, pageName other = text) ↔ NormalName text) ∧
    lowercase (pageName address) = pageName address ∧
    table.get? (pageName address) = table.find? (pageName address) ∧
    (table.contains (pageName address) = true ↔
      ∃ set, table.resolveCapabilities address = .ok set) ∧
    ∀ unknown, table.Reports address unknown →
      unknown.name = pageName address ∧ table.get? unknown.name = none := by
  have hnormal := normalName_pageName address
  have hget := table.get?_of_normalName hnormal
  refine ⟨lowercase_lowercase, exists_pageName_eq_iff, hnormal.lowercase_eq, hget, ?_, ?_⟩
  · rw [contains_pageName]
    exact (table.exists_map_lookup_eq_ok_iff address Page.capabilities).symm
  · intro unknown hreports
    obtain ⟨hnone, hname⟩ := lookup_eq_error_iff.mp hreports.lookup_eq
    refine ⟨hname, ?_⟩
    rw [hname, hget, hnone]

/-- A dotted capital I becomes two characters, and a sigma is final behind it but not before it: one
order of the two leads to a page, and the other to an error that names what is missing. -/
theorem names_in_normal_form_sigma :
    let table := PageTable.empty.put ⟨"i̇ς", "x:y", ⟨17⟩⟩
    lowercase "i̇ς" = "i̇ς" ∧ (∃ set, table.resolveCapabilities "about:İΣ?q" = .ok set) ∧
      table.Reports "ΣİΣ#" ⟨"σi̇ς"⟩ ∧ table.get? "σi̇ς" = none := by
  intro table
  have hpresent : pageName "about:İΣ?q" = "i̇ς" := by decide +kernel
  have hmissing : pageName "ΣİΣ#" = "σi̇ς" := by decide +kernel
  have hnone : table.find? "σi̇ς" = none :=
    find?_put_eq_none_iff.mpr ⟨by decide, find?_empty _⟩
  have hreports : table.Reports "ΣİΣ#" ⟨"σi̇ς"⟩ := by
    rw [← hmissing] at hnone ⊢
    exact .newChannel (refuses_of_find_none hnone).newChannel
  obtain ⟨_, _, hlower, hget, hcontains, _⟩ := table.names_in_normal_form "about:İΣ?q"
  obtain ⟨_, _, _, _, _, herror⟩ := table.names_in_normal_form "ΣİΣ#"
  rw [hpresent] at hlower hget hcontains
  refine ⟨hlower, hcontains.mp ?_, hreports, (herror _ hreports).2⟩
  rw [contains, hget, find?_put_self]
  rfl

end PageTable

end AboutPages
