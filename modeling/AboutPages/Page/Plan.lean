import AboutPages.Address
import AboutPages.Page.Table

/-!
# Resolving an address

An address leads to the page of its name, and the page to what is loaded and with which rights.
-/

namespace AboutPages

open Text

inductive Principal where
  /-- With the rights of ordinary content. -/
  | restricted
  /-- With the rights of the target. -/
  | inherit
  deriving DecidableEq, Repr

def Principal.render : Principal → String
  | restricted => "restricted"
  | inherit => "inherit"

/-- A page that is safe for untrusted content loads with restricted rights. -/
def Capabilities.principal (capabilities : Capabilities) : Principal :=
  if capabilities.has .safeForUntrustedContent then .restricted else .inherit

structure UnknownPage where
  name : String
  deriving DecidableEq, Repr

def UnknownPage.message (unknown : UnknownPage) : String :=
  "unknown about: name " ++ quoted unknown.name

/-- The status code that goes with an unknown page: an invalid argument. -/
def UnknownPage.status : UInt32 := 0x80070057

structure LoadTarget where
  target : String
  capabilities : Capabilities
  principal : Principal
  deriving DecidableEq, Repr

structure LoadPlan where
  address : String
  name : String
  target : String
  capabilities : Capabilities
  principal : Principal
  deriving DecidableEq, Repr

namespace PageTable

def lookup (table : PageTable) (address : String) : Except UnknownPage Page :=
  match table.find? (pageName address) with
  | some page => .ok page
  | none => .error ⟨pageName address⟩

def resolveCapabilities (table : PageTable) (address : String) :
    Except UnknownPage Capabilities :=
  (table.lookup address).map Page.capabilities

def resolveTarget (table : PageTable) (address : String) : Except UnknownPage LoadTarget :=
  (table.lookup address).map fun page =>
    { target := page.target
      capabilities := page.capabilities
      principal := page.capabilities.principal }

def plan (table : PageTable) (address : String) : Except UnknownPage LoadPlan :=
  (table.lookup address).map fun page =>
    { address := address
      name := pageName address
      target := page.target
      capabilities := page.capabilities
      principal := page.capabilities.principal }

end PageTable

/-- All that a host depends on to serve its internal addresses. -/
structure AboutModule where
  /-- The capabilities of the page behind an address. -/
  uriCapabilities : String → Except UnknownPage Capabilities
  /-- What the host needs to load an address. -/
  newChannel : String → Except UnknownPage LoadPlan

def PageTable.aboutModule (table : PageTable) : AboutModule where
  uriCapabilities := table.resolveCapabilities
  newChannel := table.plan

end AboutPages
