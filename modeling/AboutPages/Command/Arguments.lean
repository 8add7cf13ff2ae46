import AboutPages.FileTree.Path

/-!
# Command-line arguments

Two options may stand before or after the subcommand: the settings file, and the switch for the
synchronisation pages. Each subcommand has at most one flag and one operand. A double hyphen ends
the options of a subcommand.
-/

namespace AboutPages

open Text

inductive Shell where
  | bash
  | elvish
  | fish
  | powershell
  | zsh
  deriving DecidableEq, Repr

def Shell.name : Shell → String
  | bash => "bash"
  | elvish => "elvish"
  | fish => "fish"
  | powershell => "powershell"
  | zsh => "zsh"

def Shell.ofName? (name : Bytes) : Option Shell :=
  [bash, elvish, fish, powershell, zsh].find? fun shell => decide (utf8 shell.name = name)

inductive Query where
  | resolve (address : String) (json : Bool)
  | flags (address : String) (legacy : Bool)
  | list (all : Bool)
  | manifest
  deriving DecidableEq, Repr

inductive Task where
  | query (query : Query)
  | completions (shell : Shell)
  deriving DecidableEq, Repr

structure Options where
  config : Option Path
  servicesSync : Option Bool
  deriving DecidableEq, Repr

structure Invocation where
  options : Options
  task : Task
  deriving DecidableEq, Repr

inductive Request where
  | run (invocation : Invocation)
  | help
  | misuse
  deriving DecidableEq, Repr

inductive Argument where
  /-- The double hyphen. -/
  | separator
  | long (name : Bytes) (value : Option Bytes)
  | short (letters : Bytes)
  | word (text : Bytes)
  deriving DecidableEq, Repr

namespace Argument

def hyphen : UInt8 := 0x2D

def equalsSign : UInt8 := 0x3D

def ofBytes (bytes : Bytes) : Argument :=
  match bytes with
  | first :: second :: rest =>
      if first = hyphen then
        if second = hyphen then
          if rest.isEmpty then .separator
          else
            let name := rest.takeWhile fun b => decide (b ≠ equalsSign)
            match rest.drop name.length with
            | _ :: value => .long name (some value)
            | [] => .long name none
        else .short (second :: rest)
      else .word bytes
  | _ => .word bytes

end Argument

namespace Options

def none : Options := ⟨.none, .none⟩

inductive Key where
  | config
  | servicesSync
  deriving DecidableEq, Repr

def Key.ofName? (name : Bytes) : Option Key :=
  if name = utf8 "config" then some .config
  else if name = utf8 "services-sync" then some .servicesSync
  else .none

/-- Give an option its value. It may be given once, and the value has to be of its kind. -/
def set? (options : Options) (key : Key) (value : Bytes) : Option Options :=
  match key with
  | .config =>
      if options.config.isSome || value.isEmpty then .none
      else some { options with config := some value }
  | .servicesSync =>
      if options.servicesSync.isSome then .none
      else if value = utf8 "true" then some { options with servicesSync := some true }
      else if value = utf8 "false" then some { options with servicesSync := some false }
      else .none

/-- The options of both places; those behind the subcommand prevail. -/
def prevailOver (inner outer : Options) : Options :=
  ⟨inner.config.or outer.config, inner.servicesSync.or outer.servicesSync⟩

end Options

inductive Subcommand where
  | resolve
  | flags
  | list
  | manifest
  | completions
  deriving DecidableEq, Repr

namespace Subcommand

def name : Subcommand → String
  | resolve => "resolve"
  | flags => "flags"
  | list => "list"
  | manifest => "manifest"
  | completions => "completions"

def all : List Subcommand := [resolve, flags, list, manifest, completions]

def ofName? (name : Bytes) : Option Subcommand :=
  all.find? fun subcommand => decide (utf8 subcommand.name = name)

def flagName? : Subcommand → Option String
  | resolve => some "json"
  | flags => some "legacy"
  | list => some "all"
  | manifest => none
  | completions => none

def takesOperand : Subcommand → Bool
  | resolve => true
  | flags => true
  | list => false
  | manifest => false
  | completions => true

/-- The task with a flag and an operand, if the operand is one for it. -/
def task? (subcommand : Subcommand) (flag : Bool) (operand : Option Bytes) : Option Task :=
  match subcommand with
  | resolve => do return .query (.resolve (← ofUtf8? (← operand)) flag)
  | flags => do return .query (.flags (← ofUtf8? (← operand)) flag)
  | list => some (.query (.list flag))
  | manifest => some (.query .manifest)
  | completions => do return .completions (← Shell.ofName? (← operand))

/-- What has been read behind a subcommand; `awaiting` names an option whose value comes next. -/
structure Reading where
  options : Options
  flag : Bool
  operand : Option Bytes
  awaiting : Option Options.Key

namespace Reading

def start : Reading := ⟨Options.none, false, none, none⟩

/-- Take an operand: there is room for one, and it has to suit the subcommand. -/
def operand? (reading : Reading) (subcommand : Subcommand) (bytes : Bytes) : Option Reading :=
  if subcommand.takesOperand && reading.operand.isNone &&
      (subcommand.task? false (some bytes)).isSome then
    some { reading with operand := some bytes }
  else none

def flag? (reading : Reading) : Option Reading :=
  if reading.flag then none else some { reading with flag := true }

def option? (reading : Reading) (key : Options.Key) (value : Bytes) : Option Reading :=
  (reading.options.set? key value).map fun options =>
    { reading with options := options, awaiting := none }

def finish (reading : Reading) (subcommand : Subcommand) : Request :=
  match reading.awaiting, subcommand.task? reading.flag reading.operand with
  | none, some task => .run ⟨reading.options, task⟩
  | _, _ => .misuse

/-- Behind a double hyphen everything is an operand. -/
def operands (subcommand : Subcommand) : List Bytes → Reading → Request
  | [], reading => reading.finish subcommand
  | bytes :: rest, reading =>
      match reading.operand? subcommand bytes with
      | some reading => operands subcommand rest reading
      | none => .misuse

end Reading

end Subcommand

/-- Letters behind one hyphen: the first asks for help, or there is no such option. -/
def shortRequest (letters : Bytes) : Request :=
  if letters.head? = some 0x68 then .help else .misuse

/-- An option without a value: the one that asks for help, or there is none such. -/
def longRequest (name : Bytes) : Request :=
  if name = utf8 "help" then .help else .misuse

/-- An argument either leaves something to read or settles the request. -/
inductive Progress (α : Type) where
  | more (state : α)
  | done (request : Request)

def Progress.ofOption {α : Type} : Option α → Progress α
  | some state => .more state
  | none => .done .misuse

namespace Subcommand.Reading

def long (reading : Reading) (subcommand : Subcommand) (name : Bytes) (value : Option Bytes) :
    Progress Reading :=
  match Options.Key.ofName? name, value with
  | some key, some value => .ofOption (reading.option? key value)
  | some key, none => .more { reading with awaiting := some key }
  | none, some _ => .done .misuse
  | none, none =>
      if subcommand.flagName?.any fun flag => decide (name = utf8 flag) then
        .ofOption reading.flag?
      else .done (longRequest name)

end Subcommand.Reading

def readSubcommand (subcommand : Subcommand) : List Bytes → Subcommand.Reading → Request
  | [], reading => reading.finish subcommand
  | bytes :: rest, reading =>
      let progress : Progress Subcommand.Reading :=
        match Argument.ofBytes bytes, reading.awaiting with
        | .word word, some key => .ofOption (reading.option? key word)
        | .word word, none => .ofOption (reading.operand? subcommand word)
        | _, some _ => .done .misuse
        | .separator, none => .done (reading.operands subcommand rest)
        | .short letters, none => .done (shortRequest letters)
        | .long name value, none => reading.long subcommand name value
      match progress with
      | .more reading => readSubcommand subcommand rest reading
      | .done request => request

def readHelp : List Bytes → Request
  | [] => .help
  | [name] =>
      if (Subcommand.ofName? name).isSome || decide (name = utf8 "help") then .help else .misuse
  | _ => .misuse

/-- Options before the subcommand. A value in an argument of its own is checked only when the next
option comes, or when all else is read. -/
structure Leading where
  options : Options
  unchecked : Option (Options.Key × Bytes)
  awaiting : Option Options.Key

namespace Leading

def start : Leading := ⟨Options.none, none, none⟩

def settle? (leading : Leading) : Option Options :=
  match leading.unchecked with
  | some (key, value) => leading.options.set? key value
  | none => some leading.options

def finish (leading : Leading) : Request → Request
  | .run invocation =>
      match leading.settle? with
      | some options => .run { invocation with options := invocation.options.prevailOver options }
      | none => .misuse
  | request => request

def long (leading : Leading) (name : Bytes) (value : Option Bytes) : Progress Leading :=
  match leading.settle?, Options.Key.ofName? name, value with
  | some options, some key, some value =>
      .ofOption ((options.set? key value).map fun options => ⟨options, none, none⟩)
  | some options, some key, none => .more ⟨options, none, some key⟩
  | some _, none, none => .done (longRequest name)
  | _, _, _ => .done .misuse

def word (leading : Leading) (word : Bytes) (rest : List Bytes) : Request :=
  if word = utf8 "help" then readHelp rest
  else
    match Subcommand.ofName? word with
    | some subcommand => leading.finish (readSubcommand subcommand rest Subcommand.Reading.start)
    | none => .misuse

end Leading

def readArguments : List Bytes → Leading → Request
  | [], _ => .misuse
  | bytes :: rest, leading =>
      let progress : Progress Leading :=
        match Argument.ofBytes bytes, leading.awaiting with
        | .word word, some key => .more ⟨leading.options, some (key, word), none⟩
        | .word word, none => .done (leading.word word rest)
        | _, some _ => .done .misuse
        | .separator, none => .done .misuse
        | .short letters, none =>
            .done (if leading.settle?.isSome then shortRequest letters else .misuse)
        | .long name value, none => leading.long name value
      match progress with
      | .more leading => readArguments rest leading
      | .done request => request

def Request.ofArguments (arguments : List Bytes) : Request :=
  readArguments arguments Leading.start

end AboutPages
