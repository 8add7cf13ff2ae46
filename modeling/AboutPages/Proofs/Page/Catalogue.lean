import AboutPages.Proofs.Capability.Encoding
import AboutPages.Proofs.Page.Enumeration
import AboutPages.Proofs.Text.ByteOrder

/-!
# Three enumerations of one table

The names, the pages and the listed pages of a table are enumerated each on its own. After any
history they agree: all three are by ascending bytes of the names, and they hold what was accepted,
each page once. Which pages these are is read off the replies that the history got.
-/

namespace AboutPages

open Text

/-! ## What was accepted -/

/-- The pages whose entry was answered with acceptance, oldest first. -/
def acceptedPages : List Action → List Reply → Ledger
  | .enter page :: actions, .accepted :: replies => page :: acceptedPages actions replies
  | _ :: actions, _ :: replies => acceptedPages actions replies
  | _, _ => []

namespace Ledger

theorem act_eq_append (ledger : Ledger) (action : Action) :
    (ledger.act action).1 = ledger ++ acceptedPages [action] [(ledger.act action).2] := by
  cases action with
  | ask question => simp [act, acceptedPages]
  | enter page =>
      rw [act]
      cases ledger.refusal? page <;> simp [acceptedPages]

theorem acceptedPages_cons (action : Action) (actions : List Action) (reply : Reply)
    (replies : List Reply) :
    acceptedPages (action :: actions) (reply :: replies) =
      acceptedPages [action] [reply] ++ acceptedPages actions replies := by
  cases action <;> cases reply <;> simp [acceptedPages]

/-- The list of a history is the one it started from and what the replies accept. -/
theorem play_eq_append (ledger : Ledger) (actions : List Action) :
    (ledger.play actions).1 = ledger ++ acceptedPages actions (ledger.play actions).2 := by
  induction actions generalizing ledger with
  | nil => simp [play, acceptedPages]
  | cons action rest ih =>
      rw [play, acceptedPages_cons, ih, act_eq_append, List.append_assoc]

theorem distinct_act {ledger : Ledger} (hdistinct : (ledger.map Page.name).Nodup)
    (action : Action) : ((ledger.act action).1.map Page.name).Nodup := by
  cases action with
  | ask question => exact hdistinct
  | enter page =>
      rw [act]
      cases hrefusal : ledger.refusal? page with
      | some error => exact hdistinct
      | none =>
          have hnew : ¬∃ old ∈ ledger, old.name = page.name := by
            intro hold
            rw [refusal?] at hrefusal
            cases hname : checkName page.name with
            | error error => simp [hname] at hrefusal
            | ok _ => simp [hname, hold] at hrefusal
          rw [List.map_append, List.map_singleton, List.nodup_append_comm, List.singleton_append,
            List.nodup_cons, List.mem_map]
          exact ⟨hnew, hdistinct⟩

theorem distinct_play {ledger : Ledger} (hdistinct : (ledger.map Page.name).Nodup)
    (actions : List Action) : ((ledger.play actions).1.map Page.name).Nodup := by
  induction actions generalizing ledger with
  | nil => exact hdistinct
  | cons action rest ih => exact ih (distinct_act hdistinct action)

end Ledger

theorem Start.distinct (start : Start) : (start.pages.map Page.name).Nodup := by
  cases start with
  | empty => exact List.nodup_nil
  | builtin servicesSync => exact builtinPages_distinct servicesSync

/-! ## Hidden pages -/

/-- The bit that keeps a page out of listings is set, whatever the other bits are. -/
def Page.Hidden (page : Page) : Prop := page.capabilities.bits.toNat.testBit 2 = true

theorem Page.hidden_iff (page : Page) :
    page.Hidden ↔ page.capabilities.has .hideFromListing = true := by
  rw [Capabilities.has_eq_testBit]
  rfl

namespace PageTable

theorem mem_listing_iff {table : PageTable} {page : Page} :
    page ∈ table.listing ↔ page ∈ table.pages ∧ ¬page.Hidden := by
  rw [listing, List.mem_filter, Page.hidden_iff, Bool.not_eq_true']
  simp

def hidden (table : PageTable) : List Page :=
  table.pages.filter fun page => page.capabilities.has .hideFromListing

theorem mem_hidden_iff {table : PageTable} {page : Page} :
    page ∈ table.hidden ↔ page ∈ table.pages ∧ page.Hidden := by
  rw [hidden, List.mem_filter, Page.hidden_iff]

theorem listing_append_hidden_perm (table : PageTable) :
    (table.listing ++ table.hidden).Perm table.pages := by
  have hparts := List.filter_append_perm (fun page : Page =>
    !page.capabilities.has .hideFromListing) table.pages
  simpa [listing, hidden] using hparts

/-! ## The enumerations together -/

/-- What the three enumerations of a table have to show if these pages were accepted. -/
structure Catalogues (table : PageTable) (accepted : List Page) : Prop where
  /-- No name was accepted twice. -/
  distinct : (accepted.map Page.name).Nodup
  names_ascending : (table.names.map utf8).Pairwise (· < ·)
  names_perm : table.names.Perm (accepted.map Page.name)
  pages_perm : table.pages.Perm accepted
  names_eq : table.pages.map Page.name = table.names
  listing_sublist : table.listing.Sublist table.pages
  mem_listing : ∀ page, page ∈ table.listing ↔ page ∈ accepted ∧ ¬page.Hidden
  /-- The listed pages and the hidden ones make up the table. -/
  partition : ∃ hidden, (∀ page ∈ hidden, page.Hidden) ∧ hidden.Sublist table.pages ∧
    (table.listing ++ hidden).Perm table.pages
  length_names : table.names.length = table.size
  length_pages : table.pages.length = table.size
  /-- Sorting the keys by their bytes gives the names, in whatever order the keys are given out. -/
  sorted_keys : ∀ entries, table.Enumerates entries → ∀ arranged : List String,
    (arranged.Perm (entries.map Prod.fst) ∧ arranged.Pairwise fun a b => utf8 a ≤ utf8 b) ↔
      arranged = table.names
  /-- Sorting the pages by the bytes of their names gives the pages. -/
  sorted_pages : ∀ entries, table.Enumerates entries → ∀ arranged : List Page,
    (arranged.Perm (entries.map Prod.snd) ∧
      arranged.Pairwise fun a b => utf8 a.name ≤ utf8 b.name) ↔ arranged = table.pages

theorem arranges_iff_utf8 {α : Type} {key : α → String} {given arranged : List α} :
    (arranged.Perm given ∧ arranged.Pairwise fun a b => utf8 (key a) ≤ utf8 (key b)) ↔
      Arranges key given arranged := by
  simp only [utf8_le_utf8_iff]
  constructor
  · rintro ⟨hperm, hascending⟩
    exact ⟨hperm, hascending⟩
  · intro harranges
    exact ⟨harranges.perm, harranges.ascending⟩

theorem Built.catalogues {table : PageTable} (hbuilt : table.Built) {accepted : List Page}
    (hagrees : Agrees table accepted) (hdistinct : (accepted.map Page.name).Nodup) :
    table.Catalogues accepted := by
  have hpages : table.pages.Perm accepted := hagrees.pages_perm hbuilt hdistinct
  have hnames := hbuilt.map_name_pages
  refine
    { distinct := hdistinct
      names_ascending := ?_
      names_perm := ?_
      pages_perm := hpages
      names_eq := hnames
      listing_sublist := List.filter_sublist
      mem_listing := ?_
      partition := ?_
      length_names := table.length_names
      length_pages := ?_
      sorted_keys := ?_
      sorted_pages := ?_ }
  · rw [List.pairwise_map]
    exact table.names_ascending.imp utf8_lt_of_lt
  · rw [← hnames]
    exact hpages.map Page.name
  · intro page
    rw [mem_listing_iff, hpages.mem_iff]
  · exact ⟨table.hidden, fun page hpage => (mem_hidden_iff.mp hpage).2, List.filter_sublist,
      table.listing_append_hidden_perm⟩
  · rw [hagrees.size, hpages.length_eq]
  · intro entries hentries arranged
    rw [← hentries.arranges_names_iff]
    exact arranges_iff_utf8
  · intro entries hentries arranged
    rw [← hentries.arranges_pages_iff hbuilt]
    exact arranges_iff_utf8

/-- After any history, from no pages or from the built-in ones, the names, the pages and the listed
pages of the table are enumerated in the order of the bytes of their names, and show exactly what
was there at the start and what was accepted since. -/
theorem enumerations_show_accepted (start : Start) (actions : List Action) :
    (start.table.play actions).1.Catalogues
      (start.pages ++ acceptedPages actions (start.table.play actions).2) := by
  obtain ⟨hreplies, hagrees⟩ := start.agrees.play actions
  have hbuilt := start.built.play actions
  have hdistinct := Ledger.distinct_play start.distinct actions
  rw [Ledger.play_eq_append] at hagrees hdistinct
  rw [hreplies]
  exact hbuilt.catalogues hagrees hdistinct

/-- Two pages with bits that mean nothing, of which the first is hidden; a third one comes under a
name that is taken. By 16-bit units the names would be in the other order. -/
theorem enumerations_show_accepted_astral :
    let actions := [.enter ⟨"𐐨", "x:", ⟨0x14⟩⟩, .enter ⟨"ｚ", "y:", ⟨0xF3⟩⟩, .enter ⟨"ｚ", "z:", ⟨0⟩⟩]
    let table := (Start.empty.table.play actions).1
    table.names = ["ｚ", "𐐨"] ∧ table.listing = [⟨"ｚ", "y:", ⟨0xF3⟩⟩] ∧
      table.Catalogues [⟨"𐐨", "x:", ⟨0x14⟩⟩, ⟨"ｚ", "y:", ⟨0xF3⟩⟩] := by
  intro actions table
  have haccepted : Start.empty.pages ++ acceptedPages actions (Start.empty.table.play actions).2 =
      [⟨"𐐨", "x:", ⟨0x14⟩⟩, ⟨"ｚ", "y:", ⟨0xF3⟩⟩] := by decide +kernel
  have hcatalogues := enumerations_show_accepted .empty actions
  rw [haccepted] at hcatalogues
  exact ⟨by decide +kernel, by decide +kernel, hcatalogues⟩

end PageTable

end AboutPages
