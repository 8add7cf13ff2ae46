import AboutPages.Command.Session
import AboutPages.Proofs.Text.ByteOrder
import AboutPages.Proofs.Text.Split

/-!
# Options wherever they stand

The two options that hold for every subcommand are read in two places: before the subcommand, where
a value in an argument of its own is checked late, and behind it, among the other arguments. All
other arguments are read alike whatever options have been given, so that an option counts the same
at every place ahead of a double hyphen. Where it is given in both places, the later one counts.
-/

namespace AboutPages

open Text

namespace Options

/-! ## Spelling an option -/

def Key.name : Key → String
  | config => "config"
  | servicesSync => "services-sync"

def Key.flag (key : Key) : Bytes := utf8 ("--" ++ key.name)

/-- The values that an option can have: any path, or a truth value. -/
def Key.Admits : Key → Bytes → Prop
  | config, value => value ≠ []
  | servicesSync, value => value = utf8 "true" ∨ value = utf8 "false"

/-- An option with its value, as one argument or as two. A value in an argument of its own does not
begin with a hyphen, unless that is all of it. -/
inductive Key.Spelled (key : Key) (value : Bytes) : List Bytes → Prop where
  | joined : Key.Spelled key value [key.flag ++ Argument.equalsSign :: value]
  | apart (hword : value.head? ≠ some Argument.hyphen ∨ value = [Argument.hyphen]) :
      Key.Spelled key value [key.flag, value]

def only : Key → Bytes → Options
  | .config, value => ⟨some value, .none⟩
  | .servicesSync, value => ⟨.none, some (decide (value = utf8 "true"))⟩

theorem set?_none {key : Key} {value : Bytes} (hadmits : key.Admits value) :
    Options.none.set? key value = some (only key value) := by
  cases key with
  | config =>
      have hvalue : value.isEmpty = false := by simpa [Key.Admits] using hadmits
      simp [set?, Options.none, hvalue, only]
  | servicesSync =>
      have hne : utf8 "false" ≠ utf8 "true" := by
        simp only [utf8_eq_flatMap]
        decide
      rcases hadmits with rfl | rfl
      · simp [set?, Options.none, only]
      · simp [set?, Options.none, only, hne]

theorem prevailOver_none (options : Options) : options.prevailOver Options.none = options := by
  simp [prevailOver, Options.none]

theorem none_prevailOver (options : Options) : Options.none.prevailOver options = options := by
  simp [prevailOver, Options.none]

theorem only_prevailOver (key : Key) (value earlier : Bytes) :
    (only key value).prevailOver (only key earlier) = only key value := by
  cases key <;> rfl

theorem Key.ofName?_name (key : Key) : Key.ofName? (utf8 key.name) = some key := by
  simp only [Key.ofName?, utf8_eq_flatMap]
  cases key <;> decide

theorem Key.flag_eq (key : Key) :
    key.flag = Argument.hyphen :: Argument.hyphen :: utf8 key.name := by
  simp only [Key.flag, utf8_eq_flatMap]
  cases key <;> decide

end Options

namespace Argument

open Options

theorem ofBytes_joined (key : Key) (value : Bytes) :
    ofBytes (key.flag ++ equalsSign :: value) = .long (utf8 key.name) (some value) := by
  have hname : ∀ b ∈ utf8 key.name, decide (b ≠ equalsSign) = true := by
    rw [utf8_eq_flatMap]
    cases key <;> exact List.all_eq_true.mp (by decide)
  have hsign : ∀ b ∈ (equalsSign :: value).head?, decide (b ≠ equalsSign) = false := by simp
  have hread := (takeWhile_dropWhile_seam hname hsign).1
  have hempty : (utf8 key.name ++ equalsSign :: value).isEmpty = false := by simp
  rw [key.flag_eq]
  simp only [List.cons_append, ofBytes, if_true, hempty, hread, List.drop_left, Bool.false_eq_true,
    if_false]

theorem ofBytes_flag (key : Key) : ofBytes key.flag = .long (utf8 key.name) none := by
  simp only [Key.flag, utf8_eq_flatMap]
  cases key <;> decide

theorem ofBytes_of_word {value : Bytes} (hword : value.head? ≠ some hyphen ∨ value = [hyphen]) :
    ofBytes value = .word value := by
  rcases value with _ | ⟨first, _ | ⟨second, rest⟩⟩
  · rfl
  · rfl
  · have hne : first ≠ hyphen := by simpa using hword
    simp [ofBytes, hne]

theorem eq_of_ofBytes_word {bytes text : Bytes} (hword : ofBytes bytes = .word text) :
    text = bytes := by
  unfold ofBytes at hword
  grind

def isOption (bytes : Bytes) : Bool :=
  match ofBytes bytes with
  | .long name _ => (Key.ofName? name).isSome
  | _ => false

theorem ofName?_of_isOption {bytes name : Bytes} {value : Option Bytes}
    (hform : ofBytes bytes = .long name value) (hoption : isOption bytes = false) :
    Key.ofName? name = .none := by
  simpa [isOption, hform] using hoption

end Argument

def aheadOfSeparator (arguments : List Bytes) : List Bytes :=
  arguments.takeWhile fun bytes => decide (Argument.ofBytes bytes ≠ .separator)

/-- Neither of the two options is among the arguments. Behind a double hyphen nothing is an option. -/
def OptionFree (arguments : List Bytes) : Prop :=
  ∀ bytes ∈ aheadOfSeparator arguments, Argument.isOption bytes = false

instance (arguments : List Bytes) : Decidable (OptionFree arguments) :=
  inferInstanceAs (Decidable (∀ bytes ∈ aheadOfSeparator arguments, Argument.isOption bytes = false))

theorem optionFree_cons {bytes : Bytes} {rest : List Bytes}
    (hseparator : Argument.ofBytes bytes ≠ .separator) :
    OptionFree (bytes :: rest) ↔ Argument.isOption bytes = false ∧ OptionFree rest := by
  simp [OptionFree, aheadOfSeparator, hseparator]

/-! ## Reading behind the subcommand -/

def Request.withOptions (options : Options) : Request → Request
  | .run invocation => .run { invocation with options := options }
  | .help => .help
  | .misuse => .misuse

theorem Request.withOptions_of_ne_run {request : Request}
    (hrequest : ∀ invocation, request ≠ .run invocation) (options : Options) :
    request.withOptions options = request := by
  cases request with
  | run invocation => exact absurd rfl (hrequest invocation)
  | help => rfl
  | misuse => rfl

theorem shortRequest_ne_run (letters : Bytes) (invocation : Invocation) :
    shortRequest letters ≠ .run invocation := by
  unfold shortRequest
  split <;> simp

theorem longRequest_ne_run (name : Bytes) (invocation : Invocation) :
    longRequest name ≠ .run invocation := by
  unfold longRequest
  split <;> simp

namespace Subcommand

namespace Reading

def withOptions (options : Options) (reading : Reading) : Reading :=
  { reading with options := options }

variable (reading : Reading) (options : Options) (subcommand : Subcommand)

theorem operand?_withOptions (bytes : Bytes) :
    (reading.withOptions options).operand? subcommand bytes =
      (reading.operand? subcommand bytes).map (withOptions options) := by
  unfold operand?
  split <;> simp_all [withOptions]

theorem flag?_withOptions :
    (reading.withOptions options).flag? = reading.flag?.map (withOptions options) := by
  unfold flag?
  split <;> simp_all [withOptions]

theorem finish_withOptions :
    (reading.withOptions options).finish subcommand =
      (reading.finish subcommand).withOptions options := by
  unfold finish
  split <;> simp_all [withOptions, Request.withOptions]

theorem operands_withOptions (rest : List Bytes) :
    (reading.withOptions options).operands subcommand rest =
      (reading.operands subcommand rest).withOptions options := by
  induction rest generalizing reading with
  | nil => exact reading.finish_withOptions options subcommand
  | cons bytes rest ih =>
      rw [operands, operands, operand?_withOptions]
      cases reading.operand? subcommand bytes with
      | none => rfl
      | some next => exact ih next

theorem awaiting_of_operand? {reading next : Reading} {subcommand : Subcommand} {bytes : Bytes}
    (hoperand : reading.operand? subcommand bytes = some next) :
    next.awaiting = reading.awaiting := by
  unfold operand? at hoperand
  split at hoperand
  · cases hoperand
    rfl
  · cases hoperand

theorem awaiting_of_flag? {reading next : Reading} (hflag : reading.flag? = some next) :
    next.awaiting = reading.awaiting := by
  unfold flag? at hflag
  split at hflag
  · cases hflag
  · cases hflag
    rfl

/-- What one argument does that is neither an option nor the double hyphen: reading goes on, or it
ends without a request to run. The options given so far have no part in it. -/
inductive Step (subcommand : Subcommand) (reading : Reading) (bytes : Bytes) : Prop where
  | more (next : Reading) (hawaiting : next.awaiting = none)
      (hstep : ∀ options rest,
        readSubcommand subcommand (bytes :: rest) (reading.withOptions options) =
          readSubcommand subcommand rest (next.withOptions options))
  | done (request : Request) (hrequest : ∀ invocation, request ≠ .run invocation)
      (hstep : ∀ options rest,
        readSubcommand subcommand (bytes :: rest) (reading.withOptions options) = request)

theorem step_of_plain (subcommand : Subcommand) {reading : Reading}
    (hawaiting : reading.awaiting = none) {bytes : Bytes}
    (hseparator : Argument.ofBytes bytes ≠ .separator) (hoption : Argument.isOption bytes = false) :
    Step subcommand reading bytes := by
  have hstill : ∀ options, (reading.withOptions options).awaiting = none := fun _ => hawaiting
  cases hform : Argument.ofBytes bytes with
  | separator => exact absurd hform hseparator
  | short letters =>
      apply Step.done (shortRequest letters) (shortRequest_ne_run letters)
      intro options rest
      simp only [readSubcommand, hform, hstill]
  | word word =>
      cases hoperand : reading.operand? subcommand word with
      | none =>
          apply Step.done .misuse (by simp)
          intro options rest
          simp only [readSubcommand, hform, hstill, operand?_withOptions, hoperand,
            Option.map_none, Progress.ofOption]
      | some next =>
          apply Step.more next ((awaiting_of_operand? hoperand).trans hawaiting)
          intro options rest
          simp only [readSubcommand, hform, hstill, operand?_withOptions, hoperand,
            Option.map_some, Progress.ofOption]
  | long name value =>
      have hname : Options.Key.ofName? name = none := Argument.ofName?_of_isOption hform hoption
      cases value with
      | some value =>
          apply Step.done .misuse (by simp)
          intro options rest
          simp only [readSubcommand, hform, hstill, long, hname]
      | none =>
          by_cases hflag : (subcommand.flagName?.any fun flag => decide (name = utf8 flag)) = true
          · cases hown : reading.flag? with
            | none =>
                apply Step.done .misuse (by simp)
                intro options rest
                simp only [readSubcommand, hform, hstill, long, hname, if_pos hflag,
                  flag?_withOptions, hown, Option.map_none, Progress.ofOption]
            | some next =>
                apply Step.more next ((awaiting_of_flag? hown).trans hawaiting)
                intro options rest
                simp only [readSubcommand, hform, hstill, long, hname, if_pos hflag,
                  flag?_withOptions, hown, Option.map_some, Progress.ofOption]
          · apply Step.done (longRequest name) (longRequest_ne_run name)
            intro options rest
            simp only [readSubcommand, hform, hstill, long, hname, if_neg hflag]

/-- Arguments without options are read alike whatever options were given before them. -/
theorem readSubcommand_withOptions {arguments : List Bytes} (hfree : OptionFree arguments)
    (hawaiting : reading.awaiting = none) (others : Options) :
    readSubcommand subcommand arguments (reading.withOptions options) =
      (readSubcommand subcommand arguments (reading.withOptions others)).withOptions options := by
  induction arguments generalizing reading with
  | nil => exact (reading.withOptions others).finish_withOptions options subcommand
  | cons bytes rest ih =>
      by_cases hseparator : Argument.ofBytes bytes = .separator
      -- Behind the double hyphen there are only operands, so the rest may look like an option.
      · have hstill : ∀ options, (reading.withOptions options).awaiting = none := fun _ => hawaiting
        simp only [readSubcommand, hseparator, hstill]
        exact (reading.withOptions others).operands_withOptions options subcommand rest
      · obtain ⟨hoption, hrest⟩ := (optionFree_cons hseparator).mp hfree
        cases step_of_plain subcommand hawaiting hseparator hoption with
        | more next hnext hstep => rw [hstep, hstep, ih next hrest hnext]
        | done request hrequest hstep => rw [hstep, hstep, Request.withOptions_of_ne_run hrequest]

theorem option?_none {reading : Reading} (hoptions : reading.options = Options.none)
    {key : Options.Key} {value : Bytes} (hadmits : key.Admits value) :
    reading.option? key value =
      some { reading with options := Options.only key value, awaiting := none } := by
  rw [option?, hoptions, Options.set?_none hadmits]
  rfl

/-- An option is read in one step, or in two, and sets nothing but the options. -/
theorem readSubcommand_spelled {key : Options.Key} {value : Bytes} {tokens : List Bytes}
    (hspelled : key.Spelled value tokens) (hadmits : key.Admits value)
    (hawaiting : reading.awaiting = none) (rest : List Bytes) :
    readSubcommand subcommand (tokens ++ rest) (reading.withOptions Options.none) =
      readSubcommand subcommand rest (reading.withOptions (Options.only key value)) := by
  have hstill : (reading.withOptions Options.none).awaiting = none := hawaiting
  have hoptions : (reading.withOptions Options.none).options = Options.none := rfl
  have hafter : { reading.withOptions Options.none with
      options := Options.only key value, awaiting := none } =
      reading.withOptions (Options.only key value) := by
    rw [withOptions, withOptions, ← hawaiting]
  cases hspelled with
  | joined =>
      simp only [List.cons_append, List.nil_append, readSubcommand, Argument.ofBytes_joined, hstill,
        long, key.ofName?_name, option?_none hoptions hadmits, Progress.ofOption, hafter]
  | apart hword =>
      have hawait : ({ reading.withOptions Options.none with awaiting := some key } : Reading).options
          = Options.none := rfl
      simp only [List.cons_append, List.nil_append, readSubcommand, Argument.ofBytes_flag, hstill,
        long, key.ofName?_name, Argument.ofBytes_of_word hword, option?_none hawait hadmits,
        Progress.ofOption, hafter]

/-- An option may stand anywhere ahead of a double hyphen: it sets the options of the request, and
nothing else about it. -/
theorem readSubcommand_insert {key : Options.Key} {value : Bytes} {tokens : List Bytes}
    (hspelled : key.Spelled value tokens) (hadmits : key.Admits value)
    {front back : List Bytes} (hahead : ∀ bytes ∈ front, Argument.ofBytes bytes ≠ .separator)
    (hfree : OptionFree (front ++ back)) (hawaiting : reading.awaiting = none) :
    readSubcommand subcommand (front ++ tokens ++ back) (reading.withOptions Options.none) =
      (readSubcommand subcommand (front ++ back) (reading.withOptions Options.none)).withOptions
        (Options.only key value) := by
  -- By induction on what stands in front: each step is the same with and without the option.
  induction front generalizing reading with
  | nil =>
      rw [List.nil_append, readSubcommand_spelled _ _ hspelled hadmits hawaiting]
      exact readSubcommand_withOptions _ _ _ hfree hawaiting _
  | cons bytes front ih =>
      obtain ⟨hseparator, hfront⟩ := List.forall_mem_cons.mp hahead
      obtain ⟨hoption, hrest⟩ := (optionFree_cons hseparator).mp hfree
      simp only [List.cons_append]
      cases step_of_plain subcommand hawaiting hseparator hoption with
      | more next hnext hstep => rw [hstep, hstep, ih next hfront hrest hnext]
      | done request hrequest hstep => rw [hstep, hstep, Request.withOptions_of_ne_run hrequest]

end Reading

theorem ofBytes_name (subcommand : Subcommand) :
    Argument.ofBytes (utf8 subcommand.name) = .word (utf8 subcommand.name) := by
  simp only [utf8_eq_flatMap]
  cases subcommand <;> decide

theorem name_ne_help (subcommand : Subcommand) : utf8 subcommand.name ≠ utf8 "help" := by
  simp only [utf8_eq_flatMap]
  cases subcommand <;> decide

theorem ofName?_name (subcommand : Subcommand) :
    ofName? (utf8 subcommand.name) = some subcommand := by
  simp only [ofName?, utf8_eq_flatMap]
  cases subcommand <;> decide

theorem name_of_ofName? {bytes : Bytes} {subcommand : Subcommand}
    (hname : ofName? bytes = some subcommand) : utf8 subcommand.name = bytes := by
  simpa using List.find?_some hname

end Subcommand

/-! ## Reading from the first argument -/

namespace Leading

theorem finish_start (request : Request) : Leading.start.finish request = request := by
  cases request with
  | run invocation => simp [finish, start, settle?, Options.prevailOver_none]
  | help => rfl
  | misuse => rfl

theorem readArguments_subcommand {leading : Leading} (hawaiting : leading.awaiting = none)
    (subcommand : Subcommand) (rest : List Bytes) :
    readArguments (utf8 subcommand.name :: rest) leading =
      leading.finish (readSubcommand subcommand rest Subcommand.Reading.start) := by
  simp only [readArguments, subcommand.ofBytes_name, hawaiting, word, subcommand.ofName?_name,
    if_neg subcommand.name_ne_help]

/-- An option before the subcommand leaves its value, checked or still to be checked. -/
theorem readArguments_spelled {key : Options.Key} {value : Bytes} {tokens : List Bytes}
    (hspelled : key.Spelled value tokens) (hadmits : key.Admits value) :
    ∃ leading : Leading, leading.awaiting = none ∧
      leading.settle? = some (Options.only key value) ∧
      ∀ rest, readArguments (tokens ++ rest) Leading.start = readArguments rest leading := by
  have hset := Options.set?_none hadmits
  have hstart : Leading.start.settle? = some Options.none := rfl
  have hawaiting : Leading.start.awaiting = none := rfl
  cases hspelled with
  | joined =>
      refine ⟨⟨Options.only key value, none, none⟩, rfl, rfl, fun rest => ?_⟩
      simp only [List.cons_append, List.nil_append, readArguments, Argument.ofBytes_joined,
        hawaiting, long, hstart, key.ofName?_name, hset, Option.map_some, Progress.ofOption]
  | apart hword =>
      refine ⟨⟨Options.none, some (key, value), none⟩, rfl, hset, fun rest => ?_⟩
      simp only [List.cons_append, List.nil_append, readArguments, Argument.ofBytes_flag,
        hawaiting, long, hstart, key.ofName?_name, Argument.ofBytes_of_word hword]

end Leading

theorem readHelp_ne_run (arguments : List Bytes) (invocation : Invocation) :
    readHelp arguments ≠ .run invocation := by
  unfold readHelp
  split
  · simp
  · split <;> simp
  · simp

/-- Without options, what asks for a run begins with its subcommand. -/
theorem Request.exists_subcommand_of_ofArguments {arguments : List Bytes} {invocation : Invocation}
    (hfree : OptionFree arguments) (hparses : Request.ofArguments arguments = .run invocation) :
    ∃ subcommand rest, arguments = utf8 (Subcommand.name subcommand) :: rest ∧
      OptionFree rest ∧
      readSubcommand subcommand rest Subcommand.Reading.start = .run invocation := by
  have hsettle : Leading.start.settle? = some Options.none := rfl
  have hawaiting : Leading.start.awaiting = none := rfl
  cases arguments with
  | nil => cases hparses
  | cons bytes rest =>
      cases hform : Argument.ofBytes bytes with
      | separator =>
          simp [Request.ofArguments, readArguments, hform, hawaiting] at hparses
      | short letters =>
          simp [Request.ofArguments, readArguments, hform, hawaiting, hsettle,
            shortRequest_ne_run] at hparses
      | long name value =>
          have hseparator : Argument.ofBytes bytes ≠ .separator := by simp [hform]
          have hoption := ((optionFree_cons hseparator).mp hfree).1
          have hname := Argument.ofName?_of_isOption hform hoption
          cases value <;>
            simp [Request.ofArguments, readArguments, hform, hawaiting, hsettle, Leading.long,
              hname, longRequest_ne_run] at hparses
      | word text =>
          have htext := Argument.eq_of_ofBytes_word hform
          subst htext
          have hread : Leading.start.word text rest = .run invocation := by
            simpa [Request.ofArguments, readArguments, hform, hawaiting] using hparses
          unfold Leading.word at hread
          split at hread
          · exact absurd hread (readHelp_ne_run rest invocation)
          · cases hsubcommand : Subcommand.ofName? text with
            | none => simp [hsubcommand] at hread
            | some subcommand =>
                rw [hsubcommand] at hread
                have hseparator : Argument.ofBytes text ≠ .separator := by simp [hform]
                refine ⟨subcommand, rest, ?_, ((optionFree_cons hseparator).mp hfree).2, ?_⟩
                · rw [Subcommand.name_of_ofName? hsubcommand]
                · rwa [← Leading.finish_start (readSubcommand _ _ _)]

theorem Subcommand.Reading.options_of_readSubcommand {subcommand : Subcommand}
    {arguments : List Bytes} {invocation : Invocation} (hfree : OptionFree arguments)
    (hread : readSubcommand subcommand arguments start = .run invocation) :
    invocation.options = Options.none := by
  have hsame := readSubcommand_withOptions start Options.none subcommand hfree rfl Options.none
  change readSubcommand subcommand arguments start =
    (readSubcommand subcommand arguments start).withOptions Options.none at hsame
  rw [hread] at hsame
  exact congrArg Invocation.options (Request.run.inj hsame)

/-! ## The same run from every place -/

/-- A place for an option among the arguments, ahead of every double hyphen, and its spelling. -/
structure OptionPlace (key : Options.Key) (value : Bytes) (arguments : List Bytes) where
  front : List Bytes
  back : List Bytes
  tokens : List Bytes
  split : arguments = front ++ back
  ahead : ∀ bytes ∈ front, Argument.ofBytes bytes ≠ .separator
  spelled : key.Spelled value tokens

namespace OptionPlace

variable {key : Options.Key} {value : Bytes} {arguments : List Bytes}

def withOption (place : OptionPlace key value arguments) : List Bytes :=
  place.front ++ place.tokens ++ place.back

theorem exists_subcommand_of_front {invocation : Invocation} (hfree : OptionFree arguments)
    (hparses : Request.ofArguments arguments = .run invocation) (hadmits : key.Admits value)
    (place : OptionPlace key value arguments) (hfront : place.front ≠ []) :
    ∃ subcommand rest, place.withOption = utf8 (Subcommand.name subcommand) :: rest ∧
      readSubcommand subcommand rest Subcommand.Reading.start =
        .run { invocation with options := Options.only key value } := by
  obtain ⟨subcommand, rest, harguments, hrest, hread⟩ :=
    Request.exists_subcommand_of_ofArguments hfree hparses
  obtain ⟨front, back, tokens, hsplit, hahead, hspelled⟩ := place
  cases front with
  | nil => exact absurd rfl hfront
  | cons first front =>
      rw [hsplit, List.cons_append, List.cons.injEq] at harguments
      obtain ⟨rfl, rfl⟩ := harguments
      refine ⟨subcommand, front ++ tokens ++ back, rfl, ?_⟩
      have hinsert := Subcommand.Reading.readSubcommand_insert Subcommand.Reading.start subcommand
        hspelled hadmits (List.forall_mem_cons.mp hahead).2 hrest rfl
      change readSubcommand _ _ Subcommand.Reading.start =
        (readSubcommand _ _ Subcommand.Reading.start).withOptions _ at hinsert
      rw [hinsert, hread]
      rfl

/-- Wherever the option stands, the arguments ask for the same task with just this option. -/
theorem ofArguments_withOption {invocation : Invocation} (hfree : OptionFree arguments)
    (hparses : Request.ofArguments arguments = .run invocation) (hadmits : key.Admits value)
    (place : OptionPlace key value arguments) :
    Request.ofArguments place.withOption =
      .run { invocation with options := Options.only key value } := by
  by_cases hfront : place.front = []
  · obtain ⟨subcommand, rest, harguments, hrest, hread⟩ :=
      Request.exists_subcommand_of_ofArguments hfree hparses
    obtain ⟨leading, hawaiting, hsettle, hleading⟩ :=
      Leading.readArguments_spelled place.spelled hadmits
    have hback : place.back = utf8 subcommand.name :: rest := by
      simpa [hfront] using place.split.symm.trans harguments
    have hoptions := Subcommand.Reading.options_of_readSubcommand hrest hread
    rw [withOption, hfront, List.nil_append, hback, Request.ofArguments, hleading,
      Leading.readArguments_subcommand hawaiting, hread]
    simp only [Leading.finish, hsettle, hoptions, Options.none_prevailOver]
  · obtain ⟨subcommand, rest, hwith, hread⟩ :=
      exists_subcommand_of_front hfree hparses hadmits place hfront
    rw [hwith, Request.ofArguments, Leading.readArguments_subcommand rfl, Leading.finish_start,
      hread]

/-- The option before the subcommand adds nothing to the same option behind it. -/
theorem ofArguments_earlier {invocation : Invocation} (hfree : OptionFree arguments)
    (hparses : Request.ofArguments arguments = .run invocation) (hadmits : key.Admits value)
    (place : OptionPlace key value arguments) (hfront : place.front ≠ []) {earlier : Bytes}
    {tokens : List Bytes} (hearlier : key.Admits earlier) (hspelled : key.Spelled earlier tokens) :
    Request.ofArguments (tokens ++ place.withOption) =
      .run { invocation with options := Options.only key value } := by
  obtain ⟨subcommand, rest, hwith, hread⟩ :=
    exists_subcommand_of_front hfree hparses hadmits place hfront
  obtain ⟨leading, hawaiting, hsettle, hleading⟩ := Leading.readArguments_spelled hspelled hearlier
  rw [hwith, Request.ofArguments, hleading, Leading.readArguments_subcommand hawaiting, hread]
  simp only [Leading.finish, hsettle, Options.only_prevailOver]

end OptionPlace

theorem run_eq_of_request {arguments others : List Bytes}
    (hsame : Request.ofArguments arguments = Request.ofArguments others) (env : Environment)
    (tree : FileTree) : run env arguments tree = run env others tree := by
  rw [run, run, hsame]

/-- The options hold for the whole run wherever they stand. Take arguments that ask for a run and
have neither option. With an option put in anywhere ahead of a double hyphen, as one argument or as
two, they ask for the same task with just this option, and the run ends alike from every place:
exit code, output, errors and files. Given before the subcommand and behind it, only the later
value counts. -/
theorem run_option_at_every_place {arguments : List Bytes} {invocation : Invocation}
    (hparses : Request.ofArguments arguments = .run invocation) (hfree : OptionFree arguments)
    {key : Options.Key} {value : Bytes} (hadmits : key.Admits value) (env : Environment)
    (tree : FileTree) :
    (∀ place : OptionPlace key value arguments, Request.ofArguments place.withOption =
      .run { invocation with options := Options.only key value }) ∧
    (∀ place other : OptionPlace key value arguments,
      run env place.withOption tree = run env other.withOption tree) ∧
    (∀ place : OptionPlace key value arguments, place.front ≠ [] →
      ∀ (earlier : Bytes) (tokens : List Bytes), key.Admits earlier → key.Spelled earlier tokens →
        run env (tokens ++ place.withOption) tree = run env place.withOption tree) := by
  -- A run looks at its arguments only through the request they amount to.
  have hrequest := OptionPlace.ofArguments_withOption hfree hparses hadmits
  refine ⟨hrequest, ?_, ?_⟩
  · intro place other
    apply run_eq_of_request
    rw [hrequest place, hrequest other]
  · intro place hfront earlier tokens hearlier hspelled
    apply run_eq_of_request
    rw [hrequest place]
    exact OptionPlace.ofArguments_earlier hfree hparses hadmits place hfront hearlier hspelled

/-- An address that looks like an option, behind a double hyphen: the switch counts the same in two
arguments before the subcommand and in one argument behind its flag, where it overrules an earlier
one. -/
theorem run_option_at_every_place_resolve :
    let env : Environment := ⟨some "/h", none, some "/c", none⟩
    let tree : FileTree := ⟨[], []⟩
    let flag := utf8 "--services-sync"
    let resolve := utf8 "resolve"
    let json := utf8 "--json"
    let address := [utf8 "--", utf8 "--config"]
    let behind := [resolve, json, utf8 "--services-sync=true"] ++ address
    Request.ofArguments behind =
        .run ⟨⟨none, some true⟩, .query (.resolve "--config" true)⟩ ∧
      run env ([flag, utf8 "true", resolve, json] ++ address) tree =
        run env behind tree ∧
      run env (utf8 "--services-sync=false" :: behind) tree =
        run env behind tree := by
  intro env tree flag resolve json address behind
  have hparses : Request.ofArguments ([resolve, json] ++ address) =
      .run ⟨Options.none, .query (.resolve "--config" true)⟩ := by decide +kernel
  have hfree : OptionFree ([resolve, json] ++ address) := by decide +kernel
  have hahead : ∀ bytes ∈ [resolve, json], Argument.ofBytes bytes ≠ .separator := by
    decide +kernel
  have hword : (utf8 "true").head? ≠ some Argument.hyphen := by decide +kernel
  have htrue : Options.Key.servicesSync.Admits (utf8 "true") := .inl rfl
  have hfalse : Options.Key.servicesSync.Admits (utf8 "false") := .inr rfl
  obtain ⟨hrequest, hsame, hlater⟩ :=
    run_option_at_every_place hparses hfree htrue env tree
  let inside : OptionPlace .servicesSync (utf8 "true") ([resolve, json] ++ address) :=
    ⟨[resolve, json], address, _, rfl, hahead, .joined⟩
  let before : OptionPlace .servicesSync (utf8 "true") ([resolve, json] ++ address) :=
    ⟨[], [resolve, json] ++ address, _, rfl, by simp, .apart (.inl hword)⟩
  have htrueJoined : Options.Key.servicesSync.flag ++ Argument.equalsSign :: utf8 "true" =
      utf8 "--services-sync=true" := by decide +kernel
  have hfalseJoined : Options.Key.servicesSync.flag ++ Argument.equalsSign :: utf8 "false" =
      utf8 "--services-sync=false" := by decide +kernel
  have hinside : inside.withOption = behind := by
    simp only [OptionPlace.withOption, inside, htrueJoined]
    rfl
  have hbefore : before.withOption = [flag, utf8 "true", resolve, json] ++ address := rfl
  have hearlier := hlater inside (by simp [inside]) (utf8 "false") _ hfalse .joined
  refine ⟨?_, ?_, ?_⟩
  · rw [← hinside, hrequest inside]
    decide +kernel
  · rw [← hinside, ← hbefore, hsame before inside]
  · rwa [hinside, hfalseJoined] at hearlier

end AboutPages
