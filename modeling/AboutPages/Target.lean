import AboutPages.Target.Host

/-!
# Targets

A page's target is an absolute web address. This module decides whether a text is one, and if not,
why; the text itself is kept as it was given.
-/

namespace AboutPages

namespace Target

inductive SchemeKind where
  /-- A path on this machine, with an optional host. -/
  | file
  /-- A host, whatever number of slashes stands before it. -/
  | web
  /-- Anything; a host after two slashes. -/
  | other
  deriving DecidableEq, Repr

def schemeKind (scheme : List Char) : SchemeKind :=
  let name := String.ofList (scheme.map Char.toLower)
  if name = "file" then .file
  else if name ∈ ["http", "https", "ws", "wss", "ftp"] then .web
  else .other

/-- The text without what surrounds it (controls and spaces) and without tabs and line breaks. -/
def stripped (text : String) : List Char :=
  let surrounds := fun c : Char => decide (c.toNat ≤ 0x20)
  let inner := ((text.toList.dropWhile surrounds).reverse.dropWhile surrounds).reverse
  inner.filter fun c => decide (c ≠ '\t' ∧ c ≠ '\n' ∧ c ≠ '\r')

def isSchemeChar (c : Char) : Bool :=
  c.isAlphanum || decide (c ∈ ['+', '-', '.'])

def scheme? (cs : List Char) : Option (List Char × List Char) :=
  let scheme := cs.takeWhile isSchemeChar
  match cs.dropWhile isSchemeChar with
  | ':' :: rest => if scheme.head?.any Char.isAlpha then some (scheme, rest) else none
  | _ => none

/-- The host ends at the first colon that is not in square brackets. -/
def hostPart (inBrackets : Bool) : List Char → List Char
  | [] => []
  | c :: rest =>
      if c = ':' ∧ inBrackets = false then []
      else c :: hostPart (if c = '[' then true else if c = ']' then false else inBrackets) rest

/-- A port is a run of digits, possibly empty, worth at most 65535; only a backslash may follow it. -/
def checkPort (text : List Char) : Except TargetFault Unit :=
  let digits := text.takeWhile Char.isDigit
  if 65535 < Text.numeral 10 digits then .error .portNumber
  else
    match text.dropWhile Char.isDigit with
    | [] => .ok ()
    | c :: _ => if c = '\\' then .ok () else .error .portNumber

/-- A user name or password of at least one character stands before the host. -/
def hasCredentials (userinfo : List Char) : Bool :=
  decide (userinfo ≠ [] ∧ userinfo ≠ [':'])

def checkHostPort (web credentials : Bool) (text : List Char) : Except TargetFault Unit := do
  let host := hostPart false text
  let rest := text.drop host.length
  if web && host.isEmpty then throw .emptyHost
  if web then checkWebHost host else checkFreeHost host
  if host.isEmpty && (!rest.isEmpty || credentials) then throw .emptyHost
  match rest with
  | ':' :: port => checkPort port
  | _ => return ()

/-- User information, host and port, up to the slash, question mark or number sign that ends
them; a backslash ends them too in a scheme of the web. -/
def checkAuthority (web : Bool) (text : List Char) : Except TargetFault Unit :=
  let ends := fun c : Char => decide (c = '/' ∨ c = '?' ∨ c = '#' ∨ c = '\\' ∧ web = true)
  let authority := text.takeWhile fun c => !ends c
  let following := text.dropWhile fun c => !ends c
  match Text.cutLast? '@' authority with
  | none => checkHostPort web false authority
  | some (userinfo, hostPort) =>
      if userinfo.isEmpty && hostPort.isEmpty && !following.isEmpty then .error .emptyHost
      else checkHostPort web (hasCredentials userinfo) hostPort

/-- A letter and a colon or bar, as some systems name a disk. -/
def isDriveLetter : List Char → Bool
  | [c, d] => c.isAlpha && decide (d = ':' ∨ d = '|')
  | _ => false

def isSlash (c : Char) : Bool := decide (c = '/' ∨ c = '\\')

/-- A file address may name a host after two slashes. -/
def checkFile (text : List Char) : Except TargetFault Unit :=
  match text with
  | a :: b :: rest =>
      if isSlash a && isSlash b then
        let host := rest.takeWhile fun c => decide (¬(c = '/' ∨ c = '\\' ∨ c = '?' ∨ c = '#'))
        if host.isEmpty || isDriveLetter host then .ok () else checkWebHost host
      else .ok ()
  | _ => .ok ()

def check (text : String) : Except TargetFault Unit :=
  match scheme? (stripped text) with
  | none => .error .noScheme
  | some (scheme, rest) =>
      match schemeKind scheme with
      | .file => checkFile rest
      | .web => checkAuthority true (rest.dropWhile isSlash)
      | .other =>
          match rest with
          | '/' :: '/' :: authority => checkAuthority false authority
          | _ => .ok ()

end Target

end AboutPages
