import AboutPages.Command.Report
import AboutPages.Proofs.Capability.Encoding
import AboutPages.Proofs.Json.Reader

/-!
# Reports read back

A plan that is written as an object can be read again field by field. In a plan that is written as
lines, the last two are about the capabilities and the principal, whatever the address may hold.
-/

namespace AboutPages

open Text

namespace Capabilities

theorem length_names_le (a : Capabilities) : a.names.length ≤ 4 := by
  rw [names, List.length_map, toList]
  exact List.length_filter_le _ _

theorem isEmpty_iff (a : Capabilities) : a.isEmpty = true ↔ a = empty := by
  obtain ⟨bits⟩ := a
  simp [isEmpty, empty]

theorem render_of_ne_empty {a : Capabilities} (hne : a ≠ empty) :
    a.render = String.intercalate ", " a.names := by
  rw [render, if_neg (a.isEmpty_iff.not.mpr hne)]

/-- The word for the empty set is no list of names: every name begins with another letter. -/
theorem render_eq_none_iff (a : Capabilities) : a.render = "none" ↔ a = empty := by
  constructor
  · intro hnone
    by_contra hne
    rw [render_of_ne_empty hne, names, ← String.toList_inj] at hnone
    cases hlist : a.toList with
    | nil =>
        rw [hlist] at hnone
        exact absurd hnone (by decide)
    | cons first more =>
        rw [hlist, List.map_cons, toList_intercalate] at hnone
        have hhead := congrArg List.head? hnone
        rw [List.head?_append] at hhead
        revert hhead
        cases first <;> simp [Capability.stableName]
  · rintro rfl
    rfl

theorem stableName_unbroken (capability : Capability) : '\n' ∉ capability.stableName.toList := by
  cases capability <;> decide

theorem render_unbroken (a : Capabilities) : '\n' ∉ a.render.toList := by
  have hname : ∀ name ∈ a.names, '\n' ∉ name.toList := by
    intro name hname
    obtain ⟨capability, _, rfl⟩ := List.mem_map.mp hname
    exact stableName_unbroken capability
  unfold render
  split
  · decide
  · cases hnames : a.names with
    | nil => simp
    | cons first more =>
        rw [hnames] at hname
        have hsep : '\n' ∉ ", ".toList := by decide
        rw [toList_intercalate, List.mem_append, List.mem_flatMap]
        rintro (hfirst | ⟨other, hother, hmem⟩)
        · exact hname first List.mem_cons_self hfirst
        · rcases List.mem_append.mp hmem with hmem | hmem
          · exact hsep hmem
          · exact hname other (List.mem_cons_of_mem first hother) hmem

end Capabilities

theorem Principal.render_unbroken (principal : Principal) : '\n' ∉ principal.render.toList := by
  cases principal <;> decide

theorem Principal.render_eq_restricted_iff (principal : Principal) :
    principal.render = "restricted" ↔ principal = .restricted := by
  cases principal <;> decide

namespace LoadPlan

def fields (plan : LoadPlan) : List (String × Json.Value) :=
  [("original_address", .string plan.address),
    ("name", .string plan.name),
    ("target", .string plan.target),
    ("flags", .array (plan.capabilities.names.map .string)),
    ("principal", .string plan.principal.render)]

/-- The fields behind the first, each with its writing. -/
def furtherFields (plan : LoadPlan) : List (String × List Char × Json.Value) :=
  [("name", (Json.string plan.name).toList, .string plan.name),
    ("target", (Json.string plan.target).toList, .string plan.target),
    ("flags", (Json.strings plan.capabilities.names).toList,
      .array (plan.capabilities.names.map .string)),
    ("principal", (Json.string plan.principal.render).toList, .string plan.principal.render)]

theorem toList_json (plan : LoadPlan) :
    plan.json.toList =
      Json.object "\n  ".toList "\n".toList "original_address" (Json.string plan.address).toList
        plan.furtherFields ++ ['\n'] := by
  have haddress : "\x7b\n  \"original_address\": ".toList =
      '\x7b' :: Json.member "\n  ".toList "original_address" [] := by decide
  have hname : ",\n  \"name\": ".toList = ',' :: Json.member "\n  ".toList "name" [] := by decide
  have htarget : ",\n  \"target\": ".toList = ',' :: Json.member "\n  ".toList "target" [] := by
    decide
  have hflags : ",\n  \"flags\": ".toList = ',' :: Json.member "\n  ".toList "flags" [] := by decide
  have hprincipal : ",\n  \"principal\": ".toList =
      ',' :: Json.member "\n  ".toList "principal" [] := by decide
  have hend : "\n\x7d\n".toList = "\n".toList ++ ['\x7d', '\n'] := by decide
  -- Unfolding by an equation would have Lean evaluate the literals.
  delta json
  simp only [String.toList_append, haddress, hname, htarget, hflags, hprincipal, hend, Json.object,
    furtherFields, Json.furtherMembers, List.flatMap_cons, List.flatMap_nil, Json.member,
    List.append_assoc, List.cons_append, List.nil_append]

theorem reads_json (plan : LoadPlan) :
    Json.Reads 12
      (Json.object "\n  ".toList "\n".toList "original_address" (Json.string plan.address).toList
        plan.furtherFields) (.object plan.fields) := by
  have hgap : ∀ c ∈ "\n  ".toList, Json.isSpace c = true := List.all_eq_true.mp (by decide)
  have hclose : ∀ c ∈ "\n".toList, Json.isSpace c = true := List.all_eq_true.mp (by decide)
  have hstring : ∀ text : String, Json.Reads 6 (Json.string text).toList (.string text) :=
    fun text fuel rest hfuel => Json.reads_string text fuel rest (by omega)
  have hnames : Json.Reads 6 (Json.strings plan.capabilities.names).toList
      (.array (plan.capabilities.names.map .string)) := by
    intro fuel rest hfuel
    have hlength := plan.capabilities.length_names_le
    exact Json.reads_strings plan.capabilities.names fuel rest (by omega)
  have hfurther : ∀ field ∈ plan.furtherFields, Json.Reads 6 field.2.1 field.2.2 := by
    simp only [furtherFields, List.forall_mem_cons]
    exact ⟨hstring plan.name, hstring plan.target, hnames, hstring plan.principal.render,
      List.forall_mem_nil _⟩
  exact Json.reads_object hgap hclose "original_address" (hstring plan.address) hfurther

theorem parse_json (plan : LoadPlan) : Json.parse plan.json = some (.object plan.fields) := by
  have hbreak : ∀ c ∈ ['\n'], Json.isSpace c = true := List.all_eq_true.mp (by decide)
  -- The first key alone is longer than what the reader needs.
  have hlength : 12 ≤ plan.json.toList.length := by
    have hkey : (Json.string "original_address").toList.length = 18 := by decide
    rw [toList_json, List.length_append, Json.object, List.length_cons, List.length_append,
      Json.member, List.length_append, List.length_append, hkey]
    omega
  exact Json.parse_eq_some plan.toList_json hbreak plan.reads_json (Nat.le_succ_of_le hlength)

/-- The last two lines of a plan, whatever stands before them. -/
theorem lines_text (plan : LoadPlan) :
    [("flags      " ++ plan.capabilities.render).toList,
      ("principal  " ++ plan.principal.render).toList, []] <:+ pieces '\n' plan.text.toList := by
  let front := ("address    " ++ plan.address ++ "\n" ++ "name       " ++ plan.name ++ "\n" ++
    "target     " ++ plan.target).toList
  let flagsLine := ("flags      " ++ plan.capabilities.render).toList
  let principalLine := ("principal  " ++ plan.principal.render).toList
  have hbreak : "\n".toList = ['\n'] := by decide
  have htext : plan.text.toList =
      front ++ '\n' :: (flagsLine ++ '\n' :: (principalLine ++ '\n' :: [])) := by
    delta text
    simp only [front, flagsLine, principalLine, String.toList_append, hbreak,
      List.append_assoc, List.cons_append, List.nil_append]
  have hflags : '\n' ∉ flagsLine := by
    show '\n' ∉ ("flags      " ++ plan.capabilities.render).toList
    rw [String.toList_append, List.mem_append, not_or]
    exact ⟨by decide, plan.capabilities.render_unbroken⟩
  have hprincipal : '\n' ∉ principalLine := by
    show '\n' ∉ ("principal  " ++ plan.principal.render).toList
    rw [String.toList_append, List.mem_append, not_or]
    exact ⟨by decide, plan.principal.render_unbroken⟩
  rw [htext, pieces_append_sep, pieces_append_sep, pieces_append_sep, pieces_of_not_mem hflags,
    pieces_of_not_mem hprincipal]
  exact List.suffix_append _ _

end LoadPlan

end AboutPages
