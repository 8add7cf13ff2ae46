import AboutPages.Proofs.Page.Admission
import AboutPages.Proofs.Text.Quoted

/-!
# Messages tell errors apart

A message opens with fixed words that hold no quote. They tell its kind, but for two kinds that go
on differently behind the name. All that comes from outside is quoted, and so says where it ends;
only the reason against a target is written as it is, and it stands last. From the message one can
therefore read off the error. Quoting also keeps every message on one line.
-/

namespace AboutPages

open Text

namespace TargetFault

theorem reason_inj {fault other : TargetFault} (hsame : fault.reason = other.reason) :
    fault = other := by
  revert hsame
  cases fault <;> cases other <;> decide

theorem isControl_of_mem_reason (fault : TargetFault) :
    ∀ c ∈ fault.reason.toList, isControl c = false := by
  have hplain : isPlainText fault.reason.toList = true := by cases fault <;> decide
  intro c hc
  exact isControl_of_isGraphic (isGraphic_of_isPlainText hplain c hc)

end TargetFault

namespace EntryError

/-- The only text from outside that is not quoted. -/
def reason : EntryError → String
  | invalidTarget _ _ reason => reason
  | _ => ""

/-! ## Reading a message -/

theorem isPlainText_opening (error : EntryError) : isPlainText error.opening.toList = true := by
  cases error <;> simp only [opening] <;> decide

theorem opening_unquoted (error : EntryError) :
    ∀ c ∈ error.opening.toList, decide (c ≠ '"') = true := by
  have hall : error.opening.toList.all (fun c => decide (c ≠ '"')) = true := by
    cases error <;> simp only [opening] <;> decide
  exact List.all_eq_true.mp hall

theorem head?_body (error : EntryError) :
    ∀ c ∈ error.body.toList.head?, decide (c ≠ '"') = false := by
  cases error <;> simp [body, toList_quoted]

theorem parts_of_message {error other : EntryError} (hsame : error.message = other.message) :
    error.opening = other.opening ∧ error.body = other.body := by
  have hlists : error.opening.toList ++ error.body.toList =
      other.opening.toList ++ other.body.toList := by
    rw [← String.toList_append, ← String.toList_append]
    exact congrArg String.toList hsame
  obtain ⟨hopening, hbody⟩ := takeWhile_dropWhile_seam error.opening_unquoted error.head?_body
  obtain ⟨hother, hrest⟩ := takeWhile_dropWhile_seam other.opening_unquoted other.head?_body
  rw [hlists] at hopening hbody
  exact ⟨String.toList_inj.mp (hopening.symm.trans hother),
    String.toList_inj.mp (hbody.symm.trans hrest)⟩

theorem message_inj {error other : EntryError} (hsame : error.message = other.message) :
    error = other := by
  obtain ⟨hopening, hbody⟩ := parts_of_message hsame
  -- The opening leaves two kinds to confuse, and those end in different words.
  cases error <;> cases other <;> simp only [opening, String.reduceEq] at hopening
  case emptyName.emptyName => rfl
  case notLowercase.notLowercase => rw [(quoted_append_inj hbody).1]
  case notLowercase.reservedCharacter => exact absurd (quoted_append_inj hbody).2 (by decide)
  case reservedCharacter.notLowercase => exact absurd (quoted_append_inj hbody).2 (by decide)
  case reservedCharacter.reservedCharacter => rw [(quoted_append_inj hbody).1]
  case duplicateName.duplicateName => rw [quoted_inj hbody]
  case invalidTarget.invalidTarget =>
    obtain ⟨hname, hbehind⟩ := quoted_append_inj hbody
    obtain ⟨htarget, hreason⟩ := quoted_append_inj ((String.append_right_inj ": ").mp hbehind)
    rw [hname, htarget, (String.append_left_inj ")").mp ((String.append_right_inj " (").mp hreason)]
  case unknownCapability.unknownCapability => rw [quoted_inj hbody]

/-! ## One line -/

/-- A character without a picture of its own can only be in the reason. -/
theorem count_message {c : Char} (hpicture : isGraphic c = false) (error : EntryError) :
    error.message.toList.count c = error.reason.toList.count c := by
  have hopening : error.opening.toList.count c = 0 :=
    count_of_isPlainText hpicture error.isPlainText_opening
  have hlower : " must be lower-case".toList.count c = 0 :=
    count_of_isPlainText hpicture (by decide)
  have hreserved : " contains a reserved character".toList.count c = 0 :=
    count_of_isPlainText hpicture (by decide)
  have hcolon : ": ".toList.count c = 0 := count_of_isPlainText hpicture (by decide)
  have hopen : " (".toList.count c = 0 := count_of_isPlainText hpicture (by decide)
  have hclose : ")".toList.count c = 0 := count_of_isPlainText hpicture (by decide)
  have hbody : error.body.toList.count c = error.reason.toList.count c := by
    cases error <;>
      simp only [body, reason, String.toList_append, List.count_append, count_quoted hpicture,
        hlower, hreserved, hcolon, hopen, hclose, Nat.zero_add, Nat.add_zero, String.toList_empty,
        List.count_nil]
  rw [message, String.toList_append, List.count_append, hopening, hbody, Nat.zero_add]

theorem isControl_of_mem_message {error : EntryError}
    (hreason : ∀ c ∈ error.reason.toList, isControl c = false) :
    ∀ c ∈ error.message.toList, isControl c = false := by
  intro c hmem
  rw [Bool.eq_false_iff]
  intro hcontrol
  have hcount := error.count_message (isGraphic_eq_false_of_isControl hcontrol)
  have hraw : c ∈ error.reason.toList := by
    rw [← List.count_pos_iff, ← hcount, List.count_pos_iff]
    exact hmem
  rw [hreason c hraw] at hcontrol
  cases hcontrol

/-- Of the errors of a table only one gives a reason, and it gives the words for a fault. -/
theorem isControl_of_mem_reason {table : PageTable} {page : Page} {error : EntryError}
    (hrefused : table.insert page = .error error) :
    ∀ c ∈ error.reason.toList, isControl c = false := by
  have hdue := PageTable.insert_eq_error_iff_due.mp hrefused
  cases error with
  | invalidTarget name target reason =>
      obtain ⟨_, _, _, fault, _, rfl⟩ := hdue
      exact fault.isControl_of_mem_reason
  | _ => simp [reason]

end EntryError

namespace UnknownPage

theorem message_inj {unknown other : UnknownPage} (hsame : unknown.message = other.message) :
    unknown = other := by
  have hname := quoted_inj ((String.append_right_inj "unknown about: name ").mp hsame)
  exact congrArg UnknownPage.mk hname

theorem isControl_of_mem_message (unknown : UnknownPage) :
    ∀ c ∈ unknown.message.toList, isControl c = false := by
  have hwords : isPlainText "unknown about: name ".toList = true := by decide
  intro c hmem
  change c ∈ ("unknown about: name " ++ quoted unknown.name).toList at hmem
  rw [String.toList_append, List.mem_append] at hmem
  rcases hmem with hopening | hname
  · exact isControl_of_isGraphic (isGraphic_of_isPlainText hwords c hopening)
  · exact isControl_of_isGraphic (isGraphic_of_mem_quoted hname)

end UnknownPage

/-- No two errors are told in the same words, and all are told on one line. The message of an error
gives away its kind and its parts, whatever text the reason against a target is; it holds a control
character only if the reason does. The faults of targets are told apart by reasons that hold none,
and so no table gives an error whose message holds one. The same goes for the message on a page that
nobody knows. -/
theorem messages_tell_errors_apart :
    (∀ error other : EntryError, error.message = other.message → error = other) ∧
    (∀ error : EntryError, (∀ c ∈ error.reason.toList, isControl c = false) →
      ∀ c ∈ error.message.toList, isControl c = false) ∧
    (∀ fault other : TargetFault, fault.reason = other.reason → fault = other) ∧
    (∀ fault : TargetFault, ∀ c ∈ fault.reason.toList, isControl c = false) ∧
    (∀ (table : PageTable) (page : Page) (error : EntryError), table.insert page = .error error →
      ∀ c ∈ error.message.toList, isControl c = false) ∧
    (∀ unknown other : UnknownPage, unknown.message = other.message → unknown = other) ∧
    ∀ unknown : UnknownPage, ∀ c ∈ unknown.message.toList, isControl c = false := by
  refine ⟨fun _ _ => EntryError.message_inj, fun _ => EntryError.isControl_of_mem_message,
    fun _ _ => TargetFault.reason_inj, TargetFault.isControl_of_mem_reason, ?_,
    fun _ _ => UnknownPage.message_inj, UnknownPage.isControl_of_mem_message⟩
  intro table page error hrefused
  exact EntryError.isControl_of_mem_message (EntryError.isControl_of_mem_reason hrefused)

/-- A target that closes its own quotes and goes on with a reason and a line break is not mistaken
for a shorter target with that reason. -/
theorem messages_tell_errors_apart_closedQuote :
    (∀ c ∈ "empty host".toList, isControl c = false) ∧
    (EntryError.invalidTarget "é" "x\" (empty host)\n" "empty host").message ≠
      (EntryError.invalidTarget "é" "x" "empty host").message ∧
    '\n' ∉ (EntryError.invalidTarget "é" "x\" (empty host)\n" "empty host").message.toList := by
  obtain ⟨hinj, hcontrol, _, hfault, _⟩ := messages_tell_errors_apart
  have hreason : ∀ c ∈ "empty host".toList, isControl c = false := hfault .emptyHost
  refine ⟨hreason, ?_, ?_⟩
  · intro hsame
    exact absurd (hinj _ _ hsame) (by decide)
  · intro hbreak
    have hline := hcontrol (.invalidTarget _ _ "empty host") hreason '\n' hbreak
    cases hline

end AboutPages
