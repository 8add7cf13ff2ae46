import AboutPages.Text.Blank
import AboutPages.Text.Casing

/-!
# Capabilities of a page

A page carries a set of capabilities, held as a byte of which four bits have a meaning. Each
capability has a stable name for configuration, an identifier for diagnostics, and a bit in the
older 32-bit encoding.
-/

namespace AboutPages

open Text

inductive Capability where
  /-- Ordinary web content may link to the page, which then runs with reduced rights. -/
  | safeForUntrustedContent
  /-- The page may run scripts. -/
  | allowScript
  /-- The page is left out of listings. -/
  | hideFromListing
  /-- Other content may link to the page. -/
  | makeLinkable
  deriving DecidableEq, Repr

namespace Capability

/-- Every capability, in the order in which sets of them are written. -/
def all : List Capability :=
  [safeForUntrustedContent, allowScript, hideFromListing, makeLinkable]

def mask : Capability → UInt8
  | safeForUntrustedContent => 1
  | allowScript => 2
  | hideFromListing => 4
  | makeLinkable => 8

def legacyMask : Capability → UInt32
  | safeForUntrustedContent => 1
  | allowScript => 2
  | hideFromListing => 4
  | makeLinkable => 128

def stableName : Capability → String
  | safeForUntrustedContent => "safe-for-untrusted-content"
  | allowScript => "allow-script"
  | hideFromListing => "hide-from-listing"
  | makeLinkable => "make-linkable"

def identifier : Capability → String
  | safeForUntrustedContent => "SAFE_FOR_UNTRUSTED_CONTENT"
  | allowScript => "ALLOW_SCRIPT"
  | hideFromListing => "HIDE_FROM_LISTING"
  | makeLinkable => "MAKE_LINKABLE"

/-- The capability with this stable name; blanks around it and the case of A to Z do not matter. -/
def ofStableName? (name : String) : Option Capability :=
  all.find? fun capability =>
    sameIgnoringCase (trimBlankList name.toList) capability.stableName.toList

def ofIdentifier? (name : String) : Option Capability :=
  all.find? fun capability => decide (capability.identifier = name)

theorem mem_all (capability : Capability) : capability ∈ all := by
  cases capability <;> decide

end Capability

/-- A set of capabilities. The upper four bits mean nothing and are carried along. -/
structure Capabilities where
  bits : UInt8
  deriving DecidableEq, Repr

namespace Capabilities

def empty : Capabilities := ⟨0⟩

def known : Capabilities := ⟨15⟩

def single (capability : Capability) : Capabilities := ⟨capability.mask⟩

def union (a b : Capabilities) : Capabilities := ⟨a.bits ||| b.bits⟩

def inter (a b : Capabilities) : Capabilities := ⟨a.bits &&& b.bits⟩

def diff (a b : Capabilities) : Capabilities := ⟨a.bits &&& ~~~b.bits⟩

def symmDiff (a b : Capabilities) : Capabilities := ⟨a.bits ^^^ b.bits⟩

/-- The capabilities that are missing, without any meaningless bit. -/
def complement (a : Capabilities) : Capabilities := ⟨~~~a.bits &&& known.bits⟩

def includes (a b : Capabilities) : Bool := a.bits &&& b.bits == b.bits

def meets (a b : Capabilities) : Bool := a.bits &&& b.bits != 0

def isEmpty (a : Capabilities) : Bool := a.bits == 0

def has (a : Capabilities) (capability : Capability) : Bool := a.includes (single capability)

def truncated (a : Capabilities) : Capabilities := a.inter known

/-- The capabilities in the set, in declaration order. -/
def toList (a : Capabilities) : List Capability := Capability.all.filter a.has

def ofList (capabilities : List Capability) : Capabilities :=
  capabilities.foldl (fun a capability => a.union (single capability)) empty

/-- The byte as a set, if it has no meaningless bit. -/
def ofBits? (bits : UInt8) : Option Capabilities :=
  if known.includes ⟨bits⟩ then some ⟨bits⟩ else none

def names (a : Capabilities) : List String := a.toList.map Capability.stableName

/-- The union of the named capabilities, or the first name that is not known. -/
def ofNames (names : List String) : Except String Capabilities :=
  names.foldlM (fun a name =>
    match Capability.ofStableName? name with
    | some capability => .ok (a.union (single capability))
    | none => .error name) empty

def toLegacy (a : Capabilities) : UInt32 :=
  a.toList.foldl (fun bits capability => bits ||| capability.legacyMask) 0

/-- The set that an older encoding stands for; bits without a meaning are dropped. -/
def ofLegacy (bits : UInt32) : Capabilities :=
  ofList (Capability.all.filter fun capability => bits &&& capability.legacyMask != 0)

/-- The names with commas between them; the word `none` for the empty set alone. -/
def render (a : Capabilities) : String :=
  if a.isEmpty then "none" else String.intercalate ", " a.names

/-- The meaningless bits as a hexadecimal number, if there are any. -/
def strayBits (a : Capabilities) : List String :=
  let stray := a.diff known
  if stray.isEmpty then [] else ["0x" ++ String.ofList (Nat.toDigits 16 stray.bits.toNat)]

/-- The set for diagnostics: identifiers, then the meaningless bits as one number. -/
def describe (a : Capabilities) : String :=
  let parts := a.toList.map Capability.identifier ++ a.strayBits
  "CapabilityFlags(" ++ (if a.isEmpty then "0x0" else String.intercalate " | " parts) ++ ")"

end Capabilities

end AboutPages
