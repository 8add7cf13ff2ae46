import AboutPages.Page.Plan
import AboutPages.Proofs.Address.Parts
import AboutPages.Proofs.Page.Table

/-!
# Resolving addresses

The name in an address decides alone where it leads. Every page can be reached, in each spelling of
its name that lower-cases to it, under any scheme and with any suffix: a delimiter in a spelling
would survive lower-casing, and no accepted name holds one. For the same reason a malformed name
leads nowhere, though nothing looks for malformed names when an address is resolved.
-/

namespace AboutPages

open Text

/-! ## Spellings of an accepted name -/

theorem fixed_of_isReserved {c : Char} (hreserved : isReserved c = true) : Fixed c := by
  simp only [isReserved, Bool.or_eq_true, decide_eq_true_eq] at hreserved
  rcases hreserved with (hdelimiter | hblank) | hcontrol
  · rcases hdelimiter with rfl | rfl | rfl | rfl <;> exact fixed_of_le (by decide)
  · exact fixed_of_isBlank hblank
  · exact fixed_of_isControl hcontrol

theorem free_of_lowercase_free {text : String}
    (hfree : ∀ c ∈ (lowercase text).toList, isReserved c = false) :
    ∀ c ∈ text.toList, isReserved c = false := by
  intro c hc
  cases hreserved : isReserved c with
  | false => rfl
  | true =>
      have hkept := mem_lowercase_of_fixed (fixed_of_isReserved hreserved) hc
      rw [hfree c hkept] at hreserved
      cases hreserved

theorem not_mem_of_free {text : String} (hfree : ∀ c ∈ text.toList, isReserved c = false)
    {c : Char} (hreserved : isReserved c = true) : c ∉ text.toList := by
  intro hc
  rw [hfree c hc] at hreserved
  cases hreserved

/-- A text without reserved characters can stand for a name in an address. -/
theorem plain_of_free {text : String} (hfree : ∀ c ∈ text.toList, isReserved c = false) :
    Address.Plain text ∧ ':' ∉ text.toList :=
  ⟨⟨not_mem_of_free hfree (by decide), not_mem_of_free hfree (by decide)⟩,
    not_mem_of_free hfree (by decide)⟩

/-! ## What an address leads to -/

theorem Capabilities.principal_eq_restricted_iff (capabilities : Capabilities) :
    capabilities.principal = .restricted ↔
      capabilities.has .safeForUntrustedContent = true := by
  unfold Capabilities.principal
  split <;> simp [*]

namespace PageTable

theorem lookup_of_find {table : PageTable} {address : String} {page : Page}
    (hfind : table.find? (pageName address) = some page) : table.lookup address = .ok page := by
  simp only [lookup, hfind]

theorem lookup_of_find_none {table : PageTable} {address : String}
    (hfind : table.find? (pageName address) = none) :
    table.lookup address = .error ⟨pageName address⟩ := by
  simp only [lookup, hfind]

/-- What each way to resolve an address returns for the page that is found. -/
theorem resolutions_of_find {table : PageTable} {address : String} {page : Page}
    (hfind : table.find? (pageName address) = some page) :
    table.resolveCapabilities address = .ok page.capabilities ∧
    table.resolveTarget address =
      .ok ⟨page.target, page.capabilities, page.capabilities.principal⟩ ∧
    table.plan address =
      .ok ⟨address, pageName address, page.target, page.capabilities,
        page.capabilities.principal⟩ := by
  rw [resolveCapabilities, resolveTarget, plan, lookup_of_find hfind]
  exact ⟨rfl, rfl, rfl⟩

theorem resolutions_congr {table other : PageTable} {address : String}
    (hfind : table.find? (pageName address) = other.find? (pageName address)) :
    table.resolveCapabilities address = other.resolveCapabilities address ∧
    table.resolveTarget address = other.resolveTarget address ∧
    table.plan address = other.plan address := by
  have hlookup : table.lookup address = other.lookup address := by
    rw [lookup, lookup, hfind]
  simp only [resolveCapabilities, resolveTarget, plan, hlookup, and_self]

/-- The three ways to resolve an address all show this page. -/
structure Shows (table : PageTable) (address : String) (page : Page) : Prop where
  capabilities : table.resolveCapabilities address = .ok page.capabilities
  target : ∃ principal : Principal,
    (principal = .restricted ↔ page.capabilities.has .safeForUntrustedContent = true) ∧
    table.resolveTarget address = .ok ⟨page.target, page.capabilities, principal⟩ ∧
    table.plan address = .ok ⟨address, page.name, page.target, page.capabilities, principal⟩

theorem shows_of_pageName {table : PageTable} {address : String} {page : Page}
    (hname : pageName address = page.name) (hfind : table.find? page.name = some page) :
    table.Shows address page := by
  rw [← hname] at hfind
  obtain ⟨hcapabilities, htarget, hplan⟩ := resolutions_of_find hfind
  rw [hname] at hplan
  exact ⟨hcapabilities, page.capabilities.principal,
    page.capabilities.principal_eq_restricted_iff, htarget, hplan⟩

/-- Every page of a table is reached by every spelling of its name, under any scheme or none, and
with any suffix. -/
theorem every_page_reachable {table : PageTable} (hbuilt : table.Built) {page : Page}
    (hpage : page ∈ table.pages) {spelling : String} (hspelling : lowercase spelling = page.name)
    {scheme : String} (hcolon : ':' ∉ scheme.toList) (hscheme : Address.Plain scheme)
    {suffix : String} (hsuffix : Address.Suffixed suffix) :
    table.Shows (scheme ++ ":" ++ spelling ++ suffix) page ∧
      table.Shows (spelling ++ suffix) page := by
  have hfind := (mem_pages_iff hbuilt page).mp hpage
  obtain ⟨_, horder⟩ := hbuilt.inOrder hfind
  -- The name was checked, the spelling was not: it is free because lower-casing hides nothing.
  have hfree : ∀ c ∈ spelling.toList, isReserved c = false := by
    apply free_of_lowercase_free
    rw [hspelling]
    exact horder.name_free
  obtain ⟨hplain, hbare⟩ := plain_of_free hfree
  constructor
  · refine shows_of_pageName ?_ hfind
    rw [pageName, Address.parse_scheme_append hcolon hscheme hplain hsuffix]
    exact hspelling
  · refine shows_of_pageName ?_ hfind
    rw [pageName, Address.parse_append hplain hbare hsuffix]
    exact hspelling

/-- A name with a final sigma, asked for in capitals. -/
theorem every_page_reachable_sigma :
    (PageTable.empty.put ⟨"κόσμος", "x:y", ⟨17⟩⟩).Shows ("" ++ ":" ++ "ΚΌΣΜΟΣ" ++ "#:?")
      ⟨"κόσμος", "x:y", ⟨17⟩⟩ := by
  have haccepted : PageTable.empty.insert ⟨"κόσμος", "x:y", ⟨17⟩⟩ =
      .ok (PageTable.empty.put ⟨"κόσμος", "x:y", ⟨17⟩⟩) :=
    insert_eq_ok_iff.mpr
      ⟨.of_checks (by decide) (by decide +kernel) (by decide +kernel) rfl,
        find?_empty _, rfl⟩
  have hbuilt := Built.empty.insert haccepted
  have hpage := (mem_pages_iff hbuilt ⟨"κόσμος", "x:y", ⟨17⟩⟩).mpr (find?_put_self _ _)
  exact (every_page_reachable hbuilt hpage (by decide +kernel) (by decide)
    (by unfold Address.Plain; decide) (by unfold Address.Suffixed; decide)).1

/-! ## Malformed names -/

/-- A name, as it is written in an address, that no page can have. -/
def Malformed (rawName : String) : Prop :=
  rawName = "" ∨
    ∃ c ∈ rawName.toList, c = ':' ∨ c = '/' ∨ isBlank c = true ∨ isControl c = true

/-- Every way to resolve an address fails alike, and so does every request of a host. -/
structure Refuses (table : PageTable) (address : String) (unknown : UnknownPage) : Prop where
  capabilities : table.resolveCapabilities address = .error unknown
  target : table.resolveTarget address = .error unknown
  plan : table.plan address = .error unknown
  uriCapabilities : table.aboutModule.uriCapabilities address = .error unknown
  newChannel : table.aboutModule.newChannel address = .error unknown

theorem refuses_of_find_none {table : PageTable} {address : String}
    (hfind : table.find? (pageName address) = none) :
    table.Refuses address ⟨pageName address⟩ := by
  constructor <;>
    simp only [aboutModule, resolveCapabilities, resolveTarget, PageTable.plan,
      lookup_of_find_none hfind, Except.map]

/-- No page is filed under the lower-case form of a malformed name: what is wrong with the name is
still there after lower-casing. -/
theorem Built.find?_lowercase_malformed {table : PageTable} (hbuilt : table.Built)
    {rawName : String} (hmalformed : Malformed rawName) :
    table.find? (lowercase rawName) = none := by
  cases hfind : table.find? (lowercase rawName) with
  | none => rfl
  | some page =>
      obtain ⟨hname, horder⟩ := hbuilt.inOrder hfind
      rcases hmalformed with rfl | ⟨c, hc, hbad⟩
      · exact absurd hname horder.name_ne_empty
      · have hfree : ∀ c ∈ (lowercase rawName).toList, isReserved c = false := by
          rw [← hname]
          exact horder.name_free
        have hreserved : isReserved c = true := by
          simp only [isReserved, Bool.or_eq_true, decide_eq_true_eq]
          rcases hbad with hcolon | hslash | hblank | hcontrol
          · exact Or.inl (Or.inl (Or.inr (Or.inr (Or.inl hcolon))))
          · exact Or.inl (Or.inl (Or.inr (Or.inr (Or.inr hslash))))
          · exact Or.inl (Or.inr hblank)
          · exact Or.inr hcontrol
        exact absurd hc (not_mem_of_free (free_of_lowercase_free hfree) hreserved)

/-- An address with a malformed name leads nowhere, and neither does any other address whose name
lower-cases to the same, under whatever scheme and with whatever suffix. -/
theorem malformed_name_refused {table : PageTable} (hbuilt : table.Built) {address : String}
    (hmalformed : Malformed (Address.parse address).rawName) :
    table.Refuses address ⟨lowercase (Address.parse address).rawName⟩ ∧
      ∀ other, lowercase (Address.parse other).rawName =
          lowercase (Address.parse address).rawName →
        table.Refuses other ⟨lowercase (Address.parse address).rawName⟩ := by
  have hfind := hbuilt.find?_lowercase_malformed hmalformed
  refine ⟨refuses_of_find_none hfind, ?_⟩
  intro other hsame
  rw [← hsame] at hfind ⊢
  exact refuses_of_find_none hfind

/-- A second colon, after a scheme, in front of the name of a built-in page. -/
theorem malformed_name_refused_colon :
    (PageTable.builtin true).Refuses "about:about:HOME?x" ⟨"about:home"⟩ := by
  have hraw : (Address.parse "about:about:HOME?x").rawName = "about:HOME" := by decide +kernel
  have hmalformed : Malformed (Address.parse "about:about:HOME?x").rawName :=
    Or.inr ⟨':', by rw [hraw]; decide, Or.inl rfl⟩
  have hlower : lowercase (Address.parse "about:about:HOME?x").rawName = "about:home" := by
    decide +kernel
  rw [← hlower]
  exact (malformed_name_refused (built_builtin true) hmalformed).1

/-! ## Addresses with the same name -/

/-- Nothing but the name of an address matters, and of the name not the case of A to Z: two
addresses that agree so far are resolved alike or refused alike. -/
theorem resolution_blind_to_spelling (table : PageTable) {first second : String}
    (hsame : sameIgnoringCase (Address.parse first).rawName.toList
      (Address.parse second).rawName.toList = true) :
    table.resolveCapabilities first = table.resolveCapabilities second ∧
    table.resolveTarget first = table.resolveTarget second ∧
    ((∃ plan other, table.plan first = .ok plan ∧ table.plan second = .ok other ∧
        plan.name = other.name ∧ plan.target = other.target ∧
        plan.capabilities = other.capabilities ∧ plan.principal = other.principal) ∨
      ∃ unknown, unknown.name = lowercase (Address.parse first).rawName ∧
        table.plan first = .error unknown ∧ table.plan second = .error unknown) := by
  have hname : pageName first = pageName second := lowercase_eq_of_sameIgnoringCase hsame
  have hlookup : table.lookup first = table.lookup second := by
    rw [lookup, lookup, hname]
  refine ⟨?_, ?_, ?_⟩
  · rw [resolveCapabilities, resolveCapabilities, hlookup]
  · rw [resolveTarget, resolveTarget, hlookup]
  · rw [plan, plan, hlookup, hname]
    cases hfind : table.find? (pageName second) with
    | some page =>
        rw [lookup_of_find hfind]
        exact Or.inl ⟨_, _, rfl, rfl, rfl, rfl, rfl, rfl⟩
    | none =>
        rw [lookup_of_find_none hfind]
        exact Or.inr ⟨⟨pageName second⟩, hname.symm, rfl, rfl⟩

/-- The sigma is final in both spellings, whatever the case of the letter before it. -/
theorem resolution_blind_to_spelling_sigma :
    (PageTable.builtin false).resolveTarget "x:bΣ?q#" =
      (PageTable.builtin false).resolveTarget "BΣ" :=
  (resolution_blind_to_spelling (PageTable.builtin false) (by decide +kernel)).2.1

end PageTable

end AboutPages
