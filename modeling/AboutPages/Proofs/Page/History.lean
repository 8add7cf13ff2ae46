import AboutPages.Page.Plan
import AboutPages.Proofs.Page.Table

/-!
# Histories of a table

A history enters pages into a table and asks it questions, in any order. All that can be seen of the
table in a history is what the bare list of the accepted pages says: the reply to every action is
computed from that list alone.
-/

namespace AboutPages

open Text

/-! ## Actions and what is seen of them -/

inductive Question where
  | exact (name : String)
  | anyCase (name : String)
  | contains (name : String)
  | size
  | isEmpty
  | capabilities (address : String)
  | target (address : String)
  | plan (address : String)
  deriving DecidableEq, Repr

inductive Answer where
  | page (found : Option Page)
  | truth (value : Bool)
  | count (value : Nat)
  | capabilities (result : Except UnknownPage Capabilities)
  | target (result : Except UnknownPage LoadTarget)
  | plan (result : Except UnknownPage LoadPlan)

inductive Action where
  | enter (page : Page)
  | ask (question : Question)
  deriving DecidableEq, Repr

inductive Reply where
  | accepted
  | refused (error : EntryError)
  | answered (answer : Answer)

namespace PageTable

def answer (table : PageTable) : Question → Answer
  | .exact name => .page (table.find? name)
  | .anyCase name => .page (table.get? name)
  | .contains name => .truth (table.contains name)
  | .size => .count table.size
  | .isEmpty => .truth table.isEmpty
  | .capabilities address => .capabilities (table.resolveCapabilities address)
  | .target address => .target (table.resolveTarget address)
  | .plan address => .plan (table.plan address)

/-- A page that is not accepted leaves the table as it was. -/
def act (table : PageTable) : Action → PageTable × Reply
  | .enter page =>
      match table.insert page with
      | .ok next => (next, .accepted)
      | .error error => (table, .refused error)
  | .ask question => (table, .answered (table.answer question))

def play (table : PageTable) : List Action → PageTable × List Reply
  | [] => (table, [])
  | action :: rest =>
      let later := (table.act action).1.play rest
      (later.1, (table.act action).2 :: later.2)

end PageTable

/-! ## The list of accepted pages -/

/-- The accepted pages, oldest first. -/
abbrev Ledger := List Page

namespace Ledger

def view {α : Type} (ledger : Ledger) (address : String) (see : Page → α) :
    Except UnknownPage α :=
  match ledger.find? fun page => decide (page.name = pageName address) with
  | some page => .ok (see page)
  | none => .error ⟨pageName address⟩

def answer (ledger : Ledger) : Question → Answer
  | .exact name => .page (ledger.find? fun page => decide (page.name = name))
  | .anyCase name => .page (ledger.find? fun page => decide (page.name = lowercase name))
  | .contains name => .truth (decide (∃ page ∈ ledger, page.name = lowercase name))
  | .size => .count ledger.length
  | .isEmpty => .truth (decide (ledger = []))
  | .capabilities address => .capabilities (ledger.view address Page.capabilities)
  | .target address => .target (ledger.view address fun page =>
      ⟨page.target, page.capabilities, page.capabilities.principal⟩)
  | .plan address => .plan (ledger.view address fun page =>
      ⟨address, page.name, page.target, page.capabilities, page.capabilities.principal⟩)

/-- Why the list takes no further page like this one, if so. -/
def refusal? (ledger : Ledger) (page : Page) : Option EntryError :=
  match checkName page.name with
  | .error error => some error
  | .ok () =>
      if ∃ old ∈ ledger, old.name = page.name then some (.duplicateName page.name)
      else
        match checkTarget page.name page.target with
        | .error error => some error
        | .ok () => none

def act (ledger : Ledger) : Action → Ledger × Reply
  | .enter page =>
      match ledger.refusal? page with
      | some error => (ledger, .refused error)
      | none => (ledger ++ [page], .accepted)
  | .ask question => (ledger, .answered (ledger.answer question))

def play (ledger : Ledger) : List Action → Ledger × List Reply
  | [] => (ledger, [])
  | action :: rest =>
      let later := play (ledger.act action).1 rest
      (later.1, (ledger.act action).2 :: later.2)

end Ledger

/-! ## Agreement of table and list -/

/-- The table holds the pages of the list and no other. -/
structure Agrees (table : PageTable) (ledger : Ledger) : Prop where
  find : ∀ name, table.find? name = ledger.find? fun page => decide (page.name = name)
  size : table.size = ledger.length

namespace Agrees

theorem empty : Agrees PageTable.empty [] :=
  ⟨fun name => by simp, by simp⟩

theorem isSome_iff {table : PageTable} {ledger : Ledger} (hagrees : Agrees table ledger)
    (name : String) : (table.find? name).isSome = true ↔ ∃ page ∈ ledger, page.name = name := by
  rw [hagrees.find, List.find?_isSome]
  simp

theorem put {table : PageTable} {ledger : Ledger} (hagrees : Agrees table ledger) {page : Page}
    (hnew : table.find? page.name = none) : Agrees (table.put page) (ledger ++ [page]) := by
  constructor
  · intro name
    rw [PageTable.find?_put, List.find?_append, ← hagrees.find]
    by_cases hname : page.name = name
    · subst hname
      simp [hnew]
    · simp [hname]
  · rw [PageTable.size_put_of_new hnew, hagrees.size, List.length_append, List.length_singleton]

theorem view_eq {table : PageTable} {ledger : Ledger} (hagrees : Agrees table ledger)
    {α : Type} (address : String) (see : Page → α) :
    (table.lookup address).map see = ledger.view address see := by
  unfold PageTable.lookup Ledger.view
  rw [hagrees.find]
  cases ledger.find? fun page => decide (page.name = pageName address) <;> rfl

theorem plan_eq {table : PageTable} {ledger : Ledger} (hagrees : Agrees table ledger)
    (address : String) :
    table.plan address = ledger.view address fun page =>
      ⟨address, page.name, page.target, page.capabilities, page.capabilities.principal⟩ := by
  rw [PageTable.plan, hagrees.view_eq]
  unfold Ledger.view
  cases hfind : ledger.find? fun page => decide (page.name = pageName address) with
  | none => rfl
  | some page =>
      -- The plan of a table quotes the name asked for, that of the list the name of the page.
      have hname : page.name = pageName address := by simpa using List.find?_some hfind
      simp only [hname]

theorem answer_eq {table : PageTable} {ledger : Ledger} (hagrees : Agrees table ledger)
    (question : Question) : table.answer question = ledger.answer question := by
  cases question with
  | exact name => rw [PageTable.answer, Ledger.answer, hagrees.find]
  | anyCase name => rw [PageTable.answer, Ledger.answer, PageTable.get?, hagrees.find]
  | contains name =>
      rw [PageTable.answer, Ledger.answer, PageTable.contains, PageTable.get?]
      congr 1
      rw [Bool.eq_iff_iff, hagrees.isSome_iff, decide_eq_true_iff]
  | size => rw [PageTable.answer, Ledger.answer, hagrees.size]
  | isEmpty =>
      rw [PageTable.answer, Ledger.answer, PageTable.isEmpty_eq_size, hagrees.size]
      congr 1
      rw [Bool.eq_iff_iff, beq_iff_eq, decide_eq_true_iff, List.length_eq_zero_iff]
  | capabilities address =>
      rw [PageTable.answer, Ledger.answer, PageTable.resolveCapabilities, hagrees.view_eq]
  | target address =>
      rw [PageTable.answer, Ledger.answer, PageTable.resolveTarget, hagrees.view_eq]
  | plan address => rw [PageTable.answer, Ledger.answer, hagrees.plan_eq]

/-- The list refuses the pages that the table refuses, for the same reasons. -/
theorem insert_eq {table : PageTable} {ledger : Ledger} (hagrees : Agrees table ledger)
    (page : Page) :
    table.insert page =
      match ledger.refusal? page with
      | some error => .error error
      | none => .ok (table.put page) := by
  rw [PageTable.insert_eq, Ledger.refusal?]
  cases checkName page.name with
  | error error => rfl
  | ok _ =>
      simp only [hagrees.isSome_iff]
      split
      · rfl
      · cases checkTarget page.name page.target <;> rfl

/-- One action shows the same on both sides and keeps them in agreement. -/
theorem act {table : PageTable} {ledger : Ledger} (hagrees : Agrees table ledger)
    (action : Action) :
    (table.act action).2 = (ledger.act action).2 ∧
      Agrees (table.act action).1 (ledger.act action).1 := by
  cases action with
  | ask question =>
      rw [PageTable.act, Ledger.act, hagrees.answer_eq]
      exact ⟨rfl, hagrees⟩
  | enter page =>
      have hinsert := hagrees.insert_eq page
      cases hrefusal : ledger.refusal? page with
      | some error =>
          rw [hrefusal] at hinsert
          simp only [PageTable.act, Ledger.act, hinsert, hrefusal]
          exact ⟨trivial, hagrees⟩
      | none =>
          rw [hrefusal] at hinsert
          have hnew := (PageTable.insert_eq_ok_iff.mp hinsert).2.1
          simp only [PageTable.act, Ledger.act, hinsert, hrefusal]
          exact ⟨trivial, hagrees.put hnew⟩

theorem play {table : PageTable} {ledger : Ledger} (hagrees : Agrees table ledger)
    (actions : List Action) :
    (table.play actions).2 = (ledger.play actions).2 ∧
      Agrees (table.play actions).1 (ledger.play actions).1 := by
  induction actions generalizing table ledger with
  | nil => exact ⟨rfl, hagrees⟩
  | cons action rest ih =>
      obtain ⟨hseen, hnext⟩ := hagrees.act action
      obtain ⟨hlater, hlast⟩ := ih hnext
      refine ⟨?_, hlast⟩
      rw [PageTable.play, Ledger.play, hseen, hlater]

theorem foldlM_insert {pages : List Page} {table next : PageTable} {ledger : Ledger}
    (hagrees : Agrees table ledger) (haccepted : pages.foldlM PageTable.insert table = .ok next) :
    Agrees next (ledger ++ pages) := by
  induction pages generalizing table ledger with
  | nil =>
      cases haccepted
      simpa using hagrees
  | cons page rest ih =>
      obtain ⟨middle, hfirst, hrest⟩ := foldlM_cons_eq_ok_iff.mp haccepted
      obtain ⟨_, hnew, rfl⟩ := PageTable.insert_eq_ok_iff.mp hfirst
      simpa using ih (hagrees.put hnew) hrest

end Agrees

/-! ## Reachable tables -/

namespace PageTable

theorem act_enter_of_error {table : PageTable} {page : Page} {error : EntryError}
    (hrefused : table.insert page = .error error) :
    table.act (.enter page) = (table, .refused error) := by
  simp only [act, hrefused]

/-- An action leaves the table alone or is an accepted page. -/
theorem act_cases (table : PageTable) (action : Action) :
    (table.act action).1 = table ∨
      ∃ page, action = .enter page ∧ table.insert page = .ok (table.act action).1 := by
  cases action with
  | ask question => exact Or.inl rfl
  | enter page =>
      cases hinsert : table.insert page with
      | error error => exact Or.inl (by rw [act_enter_of_error hinsert])
      | ok next =>
          refine Or.inr ⟨page, rfl, ?_⟩
          simp only [act, hinsert]

theorem Built.play {table : PageTable} (hbuilt : table.Built) (actions : List Action) :
    (table.play actions).1.Built := by
  induction actions generalizing table with
  | nil => exact hbuilt
  | cons action rest ih =>
      rw [PageTable.play]
      rcases act_cases table action with hsame | ⟨page, _, haccepted⟩
      · rw [hsame]
        exact ih hbuilt
      · exact ih (hbuilt.insert haccepted)

theorem find?_act {table : PageTable} {name : String} {page : Page}
    (hfind : table.find? name = some page) (action : Action) :
    (table.act action).1.find? name = some page := by
  rcases act_cases table action with hsame | ⟨added, _, haccepted⟩
  · rw [hsame, hfind]
  · obtain ⟨_, hnew, hput⟩ := insert_eq_ok_iff.mp haccepted
    have hne : added.name ≠ name := by
      rintro rfl
      rw [hfind] at hnew
      cases hnew
    rw [hput, find?_put_of_ne hne, hfind]

theorem find?_play {table : PageTable} {name : String} {page : Page}
    (hfind : table.find? name = some page) (actions : List Action) :
    (table.play actions).1.find? name = some page := by
  induction actions generalizing table with
  | nil => exact hfind
  | cons action rest ih => exact ih (find?_act hfind action)

end PageTable

/-! ## Histories from an empty or a built-in table -/

inductive Start where
  | empty
  | builtin (servicesSync : Bool)
  deriving DecidableEq, Repr

namespace Start

def pages : Start → Ledger
  | empty => []
  | builtin servicesSync => builtinPages servicesSync

def table : Start → PageTable
  | empty => .empty
  | builtin servicesSync => .builtin servicesSync

/-- Every start is made by accepting its pages one after another. -/
theorem foldlM_insert_pages (start : Start) :
    start.pages.foldlM PageTable.insert PageTable.empty = .ok start.table := by
  cases start with
  | empty => rfl
  | builtin servicesSync => exact PageTable.foldlM_insert_builtinPages servicesSync

theorem agrees (start : Start) : Agrees start.table start.pages := by
  simpa using Agrees.empty.foldlM_insert start.foldlM_insert_pages

theorem built (start : Start) : start.table.Built := by
  cases start with
  | empty => exact .empty
  | builtin servicesSync => exact PageTable.built_builtin servicesSync

end Start

/-- A history shows nothing but what the list of accepted pages says. Refused pages leave no trace
in anything that follows; an accepted page adds itself and nothing else, and stays as it was given;
and every page that is ever found under a name has that name and passed all checks. -/
theorem play_determined_by_ledger (start : Start) (actions : List Action) :
    let table := (start.table.play actions).1
    start.pages.foldlM PageTable.insert PageTable.empty = .ok start.table ∧
    (start.table.play actions).2 = (start.pages.play actions).2 ∧
    (∀ question, table.answer question = (start.pages.play actions).1.answer question) ∧
    (∀ page error, table.insert page = .error error → ∀ later,
      table.play (.enter page :: later) =
        ((table.play later).1, .refused error :: (table.play later).2)) ∧
    (∀ page next, table.insert page = .ok next →
      (∀ name, next.find? name = if name = page.name then some page else table.find? name) ∧
      next.size = table.size + 1 ∧
      ∀ later, (next.play later).1.find? page.name = some page) ∧
    (∀ name page, table.find? name = some page → ∀ later,
      (table.play later).1.find? name = some page) ∧
    (∀ name page, table.find? name = some page →
      page.name = name ∧ name ≠ "" ∧ lowercase name = name ∧
      (∀ c ∈ name.toList, (c ≠ '?' ∧ c ≠ '#' ∧ c ≠ ':' ∧ c ≠ '/') ∧
        isBlank c = false ∧ isControl c = false) ∧
      Target.check page.target = .ok ()) := by
  intro table
  obtain ⟨hseen, hagrees⟩ := start.agrees.play actions
  have hbuilt : table.Built := start.built.play actions
  refine ⟨start.foldlM_insert_pages, hseen, hagrees.answer_eq, ?_, ?_, ?_, ?_⟩
  · intro page error hrefused later
    rw [PageTable.play, PageTable.act_enter_of_error hrefused]
  · intro page next haccepted
    obtain ⟨_, hnew, rfl⟩ := PageTable.insert_eq_ok_iff.mp haccepted
    refine ⟨?_, PageTable.size_put_of_new hnew,
      PageTable.find?_play (PageTable.find?_put_self table page)⟩
    intro name
    rw [PageTable.find?_put]
    simp only [eq_comm]
  · intro name page hfind later
    exact PageTable.find?_play hfind later
  · intro name page hfind
    obtain ⟨hname, horder⟩ := hbuilt.inOrder hfind
    subst hname
    refine ⟨rfl, horder.name_ne_empty, horder.name_lower, ?_, horder.target_ok⟩
    intro c hc
    exact (isReserved_eq_false_iff c).mp (horder.name_free c hc)

/-- A page with every bit set is accepted, then offered again under another target. -/
theorem play_determined_by_ledger_repeated :
    ((PageTable.empty.put ⟨"é", "x:y", ⟨255⟩⟩).play
      [.enter ⟨"é", "z:", ⟨0⟩⟩, .ask (.plan "a:É?")]).1.find? "é" = some ⟨"é", "x:y", ⟨255⟩⟩ := by
  have haccepted : PageTable.empty.insert ⟨"é", "x:y", ⟨255⟩⟩ =
      .ok (PageTable.empty.put ⟨"é", "x:y", ⟨255⟩⟩) :=
    PageTable.insert_eq_ok_iff.mpr
      ⟨.of_checks (by decide) (by decide +kernel) (by decide +kernel) rfl,
        PageTable.find?_empty _, rfl⟩
  obtain ⟨_, _, _, _, hentered, _⟩ := play_determined_by_ledger .empty []
  exact (hentered _ _ haccepted).2.2 _

end AboutPages
