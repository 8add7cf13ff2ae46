import AboutPages.Proofs.Command.Lookup
import AboutPages.Proofs.Json.Recognition

/-!
# Plans as documents

A plan that is printed as an object is a JSON document on its own, by the grammar and not only by
the reader. It tells all of the plan: its texts character by character, and the capabilities by
names from which they can be read.
-/

namespace AboutPages

open Text

theorem Principal.render_injective {principal other : Principal}
    (hrender : principal.render = other.render) : principal = other := by
  revert hrender
  cases principal <;> cases other <;> decide

theorem capabilitiesOfNames_names {set : Capabilities} (hknown : set.Known) :
    capabilitiesOfNames set.names = .ok set := by
  rw [capabilitiesOfNames_eq_ok_iff, Capabilities.ofNames_names, hknown]

namespace LoadPlan

theorem toList_json_eq_spells (plan : LoadPlan) :
    ∃ document, plan.json.toList = document ++ ['\n'] ∧
      Json.Spells document (.object plan.fields) := by
  refine ⟨_, plan.toList_json, Json.spells_of_reads plan.reads_json ?_⟩
  intro c hc
  cases hc
  decide

theorem isDocument_json_iff (plan : LoadPlan) (value : Json.Value) :
    Json.IsDocument plan.json value ↔ value = .object plan.fields := by
  rw [← Json.parse_eq_some_iff, plan.parse_json, Option.some.injEq, eq_comm]

theorem eq_of_fields {plan other : LoadPlan} (hknown : plan.capabilities.Known)
    (hother : other.capabilities.Known) (hfields : plan.fields = other.fields) : plan = other := by
  simp only [fields, List.cons.injEq, Prod.mk.injEq, true_and, Json.Value.string.injEq,
    Json.Value.array.injEq, and_true] at hfields
  obtain ⟨haddress, hname, htarget, hnames, hprincipal⟩ := hfields
  have hset : plan.capabilities = other.capabilities := by
    have hsame := (List.map_inj_right fun _ _ heq => Json.Value.string.inj heq).mp hnames
    have hread := capabilitiesOfNames_names hknown
    rw [hsame, capabilitiesOfNames_names hother] at hread
    exact (Except.ok.inj hread).symm
  obtain ⟨⟩ := plan
  obtain ⟨⟩ := other
  rw [LoadPlan.mk.injEq]
  exact ⟨haddress, hname, htarget, hset, Principal.render_injective hprincipal⟩

theorem eq_of_json {plan other : LoadPlan} (hknown : plan.capabilities.Known)
    (hother : other.capabilities.Known) (hjson : plan.json = other.json) : plan = other := by
  refine eq_of_fields hknown hother ?_
  have hparse := plan.parse_json
  rw [hjson, other.parse_json] at hparse
  exact (Json.Value.object.inj (Option.some.inj hparse)).symm

end LoadPlan

namespace Session

theorem Prints.unique {session : Session} {result : Except Failure Unit × Session}
    {text other : String} (htext : session.Prints result text)
    (hother : session.Prints result other) : text = other := by
  have houtput := htext.output.symm.trans hother.output
  rwa [String.append_right_inj] at houtput

/-- The printed text is one document and the end of its line. The document is an object with five
fields, which hold what the plan holds, and it has no other value. The same text is printed for no
other plan. -/
structure Documents (session : Session) (table : PageTable) (address : String) (plan : LoadPlan)
    (document : String) (names : List String) (fields : List (String × Json.Value)) : Prop where
  prints : session.Prints (session.resolve table address true) (document ++ "\n")
  spells : Json.Spells document.toList (.object fields)
  decodes : ∀ value, Json.IsDocument (document ++ "\n") value ↔ value = .object fields
  fields_eq : fields =
    [("original_address", .string plan.address),
      ("name", .string plan.name),
      ("target", .string plan.target),
      ("flags", .array (names.map .string)),
      ("principal", .string plan.principal.render)]
  capabilities : capabilitiesOfNames names = .ok plan.capabilities
  principal : ∀ principal : Principal,
    principal.render = plan.principal.render → principal = plan.principal
  only : ∀ (other : Session) (otherTable : PageTable) (otherAddress : String)
    (otherPlan : LoadPlan), otherTable.plan otherAddress = .ok otherPlan →
    otherPlan.capabilities.Known →
    other.Prints (other.resolve otherTable otherAddress true) (document ++ "\n") →
    otherPlan = plan

/-- A plan whose capabilities all have a meaning is printed as a document that tells all of it. -/
theorem resolve_documents_plan (session : Session) {table : PageTable} {address : String}
    {plan : LoadPlan} (hplan : table.plan address = .ok plan)
    (hknown : plan.capabilities.Known) :
    ∃ document names fields, session.Documents table address plan document names fields := by
  obtain ⟨written, hjson, hspells⟩ := plan.toList_json_eq_spells
  have hdocument : plan.json = String.ofList written ++ "\n" := by
    rw [← String.toList_inj, hjson, String.toList_append, String.toList_ofList]
    rfl
  refine ⟨String.ofList written, plan.capabilities.names, plan.fields, ?_⟩
  exact
    { prints := hdocument ▸ session.resolve_prints hplan true
      spells := by rwa [String.toList_ofList]
      decodes := hdocument ▸ plan.isDocument_json_iff
      fields_eq := rfl
      capabilities := capabilitiesOfNames_names hknown
      principal := fun _ => Principal.render_injective
      only := by
        intro other otherTable otherAddress otherPlan hotherPlan hother hprints
        have hsame := hprints.unique (other.resolve_prints hotherPlan true)
        rw [← hdocument] at hsame
        exact (LoadPlan.eq_of_json hknown hother hsame).symm }

/-- Quotes, backslashes and an end of line are escaped by a letter, another control character by its
number; the delete character and what is beyond ASCII stand for themselves. -/
theorem resolve_documents_plan_escapes :
    ∃ table plan document names fields,
      PageTable.empty.insert ⟨"é", "x:\"\\\n\u007F", ⟨6⟩⟩ = .ok table ∧
      table.plan "about:É?\"\\\u0001\u007F😀" = .ok plan ∧
      plan.capabilities.Known ∧
      fresh.Documents table "about:É?\"\\\u0001\u007F😀" plan document names fields := by
  have hinsert : PageTable.empty.insert ⟨"é", "x:\"\\\n\u007F", ⟨6⟩⟩ =
      .ok (PageTable.empty.put ⟨"é", "x:\"\\\n\u007F", ⟨6⟩⟩) := by
    have horder : Page.InOrder ⟨"é", "x:\"\\\n\u007F", ⟨6⟩⟩ :=
      .of_checks (by decide) (by decide +kernel) (by decide +kernel) (by decide +kernel)
    exact PageTable.insert_eq_ok_iff.mpr ⟨horder, PageTable.find?_empty _, rfl⟩
  have hname : pageName "about:É?\"\\\u0001\u007F😀" = "é" := by decide +kernel
  have hfind := PageTable.empty.find?_put_self ⟨"é", "x:\"\\\n\u007F", ⟨6⟩⟩
  rw [← hname] at hfind
  obtain ⟨_, _, hplan⟩ := PageTable.resolutions_of_find hfind
  have hknown : Capabilities.Known ⟨6⟩ := by
    unfold Capabilities.Known
    decide
  obtain ⟨document, names, fields, hdocuments⟩ := fresh.resolve_documents_plan hplan hknown
  exact ⟨_, _, document, names, fields, hinsert, hplan, hknown, hdocuments⟩

end Session

end AboutPages
