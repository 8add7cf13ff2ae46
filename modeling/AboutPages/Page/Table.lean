import AboutPages.Page.Basic
import Std.Data.ExtTreeMap

/-!
# The table of pages

Pages by name. A page is accepted once and never changes; enumeration is in the order of names.
-/

namespace AboutPages

open Text

structure PageTable where
  byName : Std.ExtTreeMap String Page

namespace PageTable

def empty : PageTable := ⟨∅⟩

def find? (table : PageTable) (name : String) : Option Page := table.byName[name]?

/-- The page with this name in any letter case. -/
def get? (table : PageTable) (name : String) : Option Page := table.find? (lowercase name)

def contains (table : PageTable) (name : String) : Bool := (table.get? name).isSome

def size (table : PageTable) : Nat := table.byName.size

def isEmpty (table : PageTable) : Bool := table.byName.isEmpty

def pages (table : PageTable) : List Page := table.byName.toList.map Prod.snd

def names (table : PageTable) : List String := table.byName.keys

/-- The pages that are not hidden, by ascending name. -/
def listing (table : PageTable) : List Page :=
  table.pages.filter fun page => !page.capabilities.has .hideFromListing

def put (table : PageTable) (page : Page) : PageTable :=
  ⟨table.byName.insert page.name page⟩

/-- Accept a page: its name is in order and new, and its target is a web address. -/
def insert (table : PageTable) (page : Page) : Except EntryError PageTable := do
  checkName page.name
  if (table.find? page.name).isSome then throw (.duplicateName page.name)
  checkTarget page.name page.target
  return table.put page

end PageTable

end AboutPages
