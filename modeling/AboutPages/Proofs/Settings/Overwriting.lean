import AboutPages.Proofs.FileTree.Grounded
import AboutPages.Proofs.Settings.File

/-!
# What asking for a settings file can overwrite

Whether anything is at a path is found out before directories are made for it. If the path leads
through a missing directory and back, nothing is found, the directory is made, and the path then
leads to a file that was there all the time. That file is overwritten with the standard settings. It
is the only way in which asking for settings can cost a file.
-/

namespace AboutPages

open Text FileTree

namespace Settings

variable {tree made after : FileTree} {path : Path} {result : Except SettingsError Loaded}

/-- Nothing was created and at most directories are new, or the standard settings were written after
directories had been made. -/
theorem loadOrCreate_outcome (hresult : loadOrCreate tree path = (result, after)) :
    ((∀ loaded, result = .ok loaded → loaded.created = false) ∧ tree.Furnished after) ∨
    (result = .ok ⟨standard, true⟩ ∧ tree.pathExists path = false ∧
      ∃ made, tree.Furnished made ∧ made.write path (utf8 standardText) = .ok after) := by
  rcases loadOrCreate_cases tree path with
    ⟨_, hthere⟩ | ⟨hmissing, made, hmade, ⟨written, hwrite, hcreated⟩ | ⟨cause, hfailed⟩⟩
  · rw [hthere] at hresult
    cases hresult
    refine Or.inl ⟨?_, Or.inl rfl⟩
    intro loaded hloaded
    cases hload : load tree path with
    | error cause =>
        rw [hload] at hloaded
        cases hloaded
    | ok settings =>
        rw [hload] at hloaded
        cases hloaded
        rfl
  · rw [hcreated] at hresult
    cases hresult
    exact Or.inr ⟨rfl, hmissing, made, hmade, hwrite⟩
  · rw [hfailed] at hresult
    cases hresult
    refine Or.inl ⟨?_, hmade⟩
    intro loaded hloaded
    cases hloaded

/-- What asking for the settings file at a path can do to the files of a tree. Only the file where
the path leads can be new or other than before, and it then has the standard text. A file that was
there is lost only if the way of the path was not open, and only if it leads upwards. -/
structure TouchesOnly (tree : FileTree) (path : Path) (result : Except SettingsError Loaded)
    (after : FileTree) : Prop where
  elsewhere : ∀ place content, place ≠ tree.placeOf path →
    (after.node? place = some (.file content) ↔ tree.node? place = some (.file content))
  there :
    (result = .ok ⟨standard, true⟩ ∧ tree.pathExists path = false ∧
      after.node? (tree.placeOf path) = some (.file (utf8 standardText))) ∨
    ((∀ loaded, result = .ok loaded → loaded.created = false) ∧
      ∀ content, after.node? (tree.placeOf path) = some (.file content) ↔
        tree.node? (tree.placeOf path) = some (.file content))
  kept : tree.Open path ∨ tree.Grounded ∧ Path.above ∉ Path.steps path →
    ∀ place content, tree.node? place = some (.file content) →
      after.node? place = some (.file content)
  grounded : tree.Grounded → after.Grounded

theorem touchesOnly_of_furnished (hmade : tree.Furnished after)
    (hold : ∀ loaded, result = .ok loaded → loaded.created = false) :
    TouchesOnly tree path result after where
  elsewhere _ _ _ := hmade.changed.file_iff
  there := Or.inr ⟨hold, fun _ => hmade.changed.file_iff⟩
  kept _ _ _ := hmade.changed.file_iff.mpr
  grounded hgrounded := hgrounded.furnished hmade

/-- The file that is written was not there before, unless directories opened the way to it. -/
theorem node?_placeOf_eq_none (hmissing : tree.pathExists path = false)
    (hmade : tree.Furnished made) {content : Bytes}
    (hwrite : made.write path content = .ok after)
    (hsafe : tree.Open path ∨ tree.Grounded ∧ Path.above ∉ Path.steps path) :
    tree.node? (tree.placeOf path) = none := by
  obtain ⟨hopen, hslash, _, _⟩ := write_eq_ok hwrite
  by_cases hway : tree.Open path
  · exact node?_eq_none_of_not_exists hway hslash hmissing
  · obtain ⟨hgrounded, habove⟩ := hsafe.resolve_left hway
    by_contra hthere
    exact habove (hgrounded.above_mem_steps hmade.changed hthere hopen hway)

theorem touchesOnly_of_write (hmissing : tree.pathExists path = false)
    (hmade : tree.Furnished made) (hwrite : made.write path (utf8 standardText) = .ok after) :
    TouchesOnly tree path (.ok ⟨standard, true⟩) after := by
  obtain ⟨hfile, hkept⟩ := node?_of_write hwrite
  rw [hmade.changed.placeOf_eq] at hfile hkept
  have helsewhere : ∀ place content, place ≠ tree.placeOf path →
      (after.node? place = some (.file content) ↔ tree.node? place = some (.file content)) := by
    intro place content hplace
    rw [hkept place hplace]
    exact hmade.changed.file_iff
  refine ⟨helsewhere, Or.inl ⟨rfl, hmissing, hfile⟩, ?_, ?_⟩
  · intro hsafe place content hcontent
    have hnone := node?_placeOf_eq_none hmissing hmade hwrite hsafe
    have hplace : place ≠ tree.placeOf path := by
      rintro rfl
      rw [hnone] at hcontent
      cases hcontent
    exact (helsewhere place content hplace).mpr hcontent
  · intro hgrounded
    exact (hgrounded.furnished hmade).write hwrite

/-- Asking for settings overwrites no file, unless the path leads through a missing directory and
back up. -/
theorem asking_overwrites_only_detour (tree : FileTree) (path : Path) :
    TouchesOnly tree path (loadOrCreate tree path).1 (loadOrCreate tree path).2 := by
  cases hresult : loadOrCreate tree path with
  | mk result after =>
      rcases loadOrCreate_outcome hresult with
        ⟨hold, hmade⟩ | ⟨rfl, hmissing, made, hmade, hwrite⟩
      · exact touchesOnly_of_furnished hmade hold
      · exact touchesOnly_of_write hmissing hmade hwrite

-- The file holds settings of one's own. It is asked for by a path through a directory that is
-- missing, and afterwards the settings in it are the standard ones.
example :
    let tree : FileTree := ⟨[([utf8 "config.toml"], .file (utf8 "services_sync = true\n"))], []⟩
    let path := utf8 "missing/../config.toml"
    load tree (utf8 "config.toml") = .ok ⟨true, "about", []⟩ ∧
      load (loadOrCreate tree path).2 (utf8 "config.toml") = .ok standard := by
  decide +kernel

end Settings

end AboutPages
