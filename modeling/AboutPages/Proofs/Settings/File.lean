import AboutPages.Proofs.FileTree.Changes
import AboutPages.Settings.File

/-!
# Asking for a settings file

Settings that come from asking for a file are those that the file then holds, whether it was there
or had to be created. Asking again gives the same and changes nothing, and asking in vain leaves
every file as it was.
-/

namespace AboutPages

open Text FileTree

namespace Settings

variable {tree after : FileTree} {path : Path}

/-! ## The text of a new file -/

theorem ofUtf8?_standardText : ofUtf8? (utf8 standardText) = some standardText := by
  decide +kernel

theorem ofText?_standardText : ofText? standardText = some standard := by decide +kernel

theorem validate_standard : standard.validate = .ok () := by
  rw [validate, if_neg (by decide), if_neg (by decide)]

/-! ## Creating the file -/

/-- Directories are made, and then the file is written. Either may fail; of a failure only
directories remain. -/
theorem create_cases (tree : FileTree) (path : Path) :
    ∃ made, tree.Furnished made ∧
      ((∃ after, made.write path (utf8 standardText) = .ok after ∧
          create tree path = (.ok (), after)) ∨
        ∃ cause, create tree path = (.error cause, made)) := by
  unfold create
  cases hparent : Path.parent? path with
  | none =>
      refine ⟨tree, Or.inl rfl, ?_⟩
      cases hwrite : tree.write path (utf8 standardText) with
      | ok after => exact Or.inl ⟨after, rfl, by simp only [hwrite]⟩
      | error cause => exact Or.inr ⟨cause, by simp only [hwrite]⟩
  | some parent =>
      cases hmake : tree.makeDirectories parent with
      | mk result made =>
          refine ⟨made, Or.inr ⟨parent, by rw [hmake]⟩, ?_⟩
          cases result with
          | error cause => exact Or.inr ⟨cause, by simp only [hmake]⟩
          | ok _ =>
              cases hwrite : made.write path (utf8 standardText) with
              | ok after => exact Or.inl ⟨after, rfl, by simp only [hmake, hwrite]⟩
              | error cause => exact Or.inr ⟨cause, by simp only [hmake, hwrite]⟩

/-! ## Reading the file -/

theorem readText_of_resolve {place : Location}
    (hresolve : tree.resolve path = .ok (place, .file (utf8 standardText))) :
    tree.readText path = .ok standardText := by
  have hread : tree.read path = .ok (utf8 standardText) := by
    rw [FileTree.read, hresolve]
    rfl
  rw [readText, hread]
  simp only [bind, Except.bind, ofUtf8?_standardText]
  rfl

theorem load_of_resolve {place : Location}
    (hresolve : tree.resolve path = .ok (place, .file (utf8 standardText))) :
    load tree path = .ok standard := by
  simp only [load, readText_of_resolve hresolve, ofText?_standardText, validate_standard]

theorem validate_of_load {settings : Settings} (hload : load tree path = .ok settings) :
    settings.validate = .ok () := by
  unfold load at hload
  split at hload
  · cases hload
  · split at hload
    · cases hload
    · rename_i found _
      cases hvalid : found.validate with
      | error fault =>
          simp only [hvalid] at hload
          cases hload
      | ok _ =>
          simp only [hvalid] at hload
          cases hload
          exact hvalid

/-! ## Asking for the file -/

/-- The file was there, or it was created with the standard settings, or there are no settings and
only directories are new. -/
theorem loadOrCreate_cases (tree : FileTree) (path : Path) :
    (tree.pathExists path = true ∧
      loadOrCreate tree path = ((load tree path).map fun settings => ⟨settings, false⟩, tree)) ∨
    (tree.pathExists path = false ∧ ∃ made, tree.Furnished made ∧
      ((∃ after, made.write path (utf8 standardText) = .ok after ∧
          loadOrCreate tree path = (.ok ⟨standard, true⟩, after)) ∨
        ∃ cause, loadOrCreate tree path = (.error (.uncreatable cause), made))) := by
  unfold loadOrCreate
  cases hexists : tree.pathExists path with
  | true => exact Or.inl ⟨rfl, rfl⟩
  | false =>
      obtain ⟨made, hmade, hcreate⟩ := create_cases tree path
      refine Or.inr ⟨rfl, made, hmade, ?_⟩
      rcases hcreate with ⟨after, hwrite, hcreate⟩ | ⟨cause, hcreate⟩
      · exact Or.inl ⟨after, hwrite, by simp [hcreate]⟩
      · exact Or.inr ⟨cause, by simp [hcreate]⟩

theorem loadOrCreate_of_load {settings : Settings} (hexists : tree.pathExists path = true)
    (hload : load tree path = .ok settings) :
    loadOrCreate tree path = (.ok ⟨settings, false⟩, tree) := by
  rw [loadOrCreate, if_pos hexists, hload]
  rfl

theorem loadOrCreate_eq_ok {loaded : Loaded}
    (hresult : loadOrCreate tree path = (.ok loaded, after)) :
    (tree.pathExists path = true ∧ after = tree ∧ loaded.created = false ∧
      load tree path = .ok loaded.settings) ∨
    (tree.pathExists path = false ∧ loaded = ⟨standard, true⟩ ∧
      ∃ place, after.resolve path = .ok (place, .file (utf8 standardText))) := by
  rcases loadOrCreate_cases tree path with
    ⟨hexists, hthere⟩ | ⟨hmissing, made, _, ⟨written, hwrite, hcreated⟩ | ⟨cause, hfailed⟩⟩
  · rw [hthere] at hresult
    cases hload : load tree path with
    | error cause =>
        rw [hload] at hresult
        cases hresult
    | ok settings =>
        rw [hload] at hresult
        cases hresult
        exact Or.inl ⟨hexists, rfl, rfl, rfl⟩
  · rw [hcreated] at hresult
    cases hresult
    exact Or.inr ⟨hmissing, rfl, _, resolve_of_write hwrite⟩
  · rw [hfailed] at hresult
    cases hresult

theorem loadOrCreate_eq_error {cause : SettingsError}
    (hresult : loadOrCreate tree path = (.error cause, after)) :
    Changed NewDirectory tree after := by
  rcases loadOrCreate_cases tree path with
    ⟨_, hthere⟩ | ⟨_, made, hmade, ⟨written, _, hcreated⟩ | ⟨cause, hfailed⟩⟩
  · rw [hthere] at hresult
    cases (Prod.mk.inj hresult).2
    exact Changed.refl newDirectory_refl tree
  · rw [hcreated] at hresult
    cases hresult
  · rw [hfailed] at hresult
    cases hresult
    exact hmade.changed

/-- Asking for a settings file settles what is in it. If settings are returned, the file holds them
and they are valid: asking again, or only reading, gives the same and changes nothing. A file that
was missing now has the standard text. If anything was at the path, nothing changes; if no settings
are returned, every file is as before. -/
theorem loadOrCreate_settles (tree : FileTree) (path : Path) :
    (∀ loaded after, loadOrCreate tree path = (.ok loaded, after) →
      loadOrCreate after path = (.ok ⟨loaded.settings, false⟩, after) ∧
      load after path = .ok loaded.settings ∧
      loaded.settings.validate = .ok () ∧
      (loaded.created = true ↔ tree.pathExists path = false) ∧
      (loaded.created = true →
        loaded.settings = standard ∧ after.readText path = .ok standardText)) ∧
    (tree.pathExists path = true → (loadOrCreate tree path).2 = tree) ∧
    ∀ cause after, loadOrCreate tree path = (.error cause, after) →
      ∀ place content, after.node? place = some (.file content) ↔
        tree.node? place = some (.file content) := by
  refine ⟨?_, ?_, ?_⟩
  · intro loaded after hresult
    rcases loadOrCreate_eq_ok hresult with
      ⟨hexists, rfl, hold, hload⟩ | ⟨hmissing, rfl, place, hresolve⟩
    · refine ⟨loadOrCreate_of_load hexists hload, hload, validate_of_load hload, ?_, ?_⟩
      · simp [hold, hexists]
      · intro hcreated
        rw [hold] at hcreated
        cases hcreated
    · have hexists : after.pathExists path = true := by rw [pathExists, hresolve]
      have hload := load_of_resolve hresolve
      exact ⟨loadOrCreate_of_load hexists hload, hload, validate_standard, by simp [hmissing],
        fun _ => ⟨rfl, readText_of_resolve hresolve⟩⟩
  · intro hexists
    rw [loadOrCreate, if_pos hexists]
  · intro cause after hresult place content
    exact (loadOrCreate_eq_error hresult).file_iff

/-- Both paths go through a directory that is missing, and back. It is made on the way to a file in
the root, which is then created and can be read; below a file there is nothing to be had, and the
directory that was made on the way does not touch that file. -/
theorem loadOrCreate_settles_detour :
    (∃ loaded after,
      loadOrCreate ⟨[([utf8 "a"], .file (utf8 "x"))], []⟩ (utf8 "/b/../c") = (.ok loaded, after) ∧
      loaded.created = true ∧ load after (utf8 "/b/../c") = .ok standard ∧
      loadOrCreate after (utf8 "/b/../c") = (.ok ⟨standard, false⟩, after)) ∧
    ∃ cause after,
      loadOrCreate ⟨[([utf8 "a"], .file (utf8 "x"))], []⟩ (utf8 "/b/../a/c") =
        (.error cause, after) ∧
      after.node? [utf8 "b"] = some .directory ∧
      after.node? [utf8 "a"] = some (.file (utf8 "x")) := by
  have hok : (loadOrCreate ⟨[([utf8 "a"], .file (utf8 "x"))], []⟩ (utf8 "/b/../c")).1.isOk =
      true := by decide +kernel
  have hfails : (loadOrCreate ⟨[([utf8 "a"], .file (utf8 "x"))], []⟩
      (utf8 "/b/../a/c")).1.isOk = false := by decide +kernel
  have hmissing : pathExists ⟨[([utf8 "a"], .file (utf8 "x"))], []⟩ (utf8 "/b/../c") = false := by
    decide +kernel
  have hmade : (loadOrCreate ⟨[([utf8 "a"], .file (utf8 "x"))], []⟩
      (utf8 "/b/../a/c")).2.node? [utf8 "b"] = some .directory := by decide +kernel
  obtain ⟨hsettled, _, _⟩ :=
    loadOrCreate_settles ⟨[([utf8 "a"], .file (utf8 "x"))], []⟩ (utf8 "/b/../c")
  obtain ⟨_, _, hkept⟩ :=
    loadOrCreate_settles ⟨[([utf8 "a"], .file (utf8 "x"))], []⟩ (utf8 "/b/../a/c")
  constructor
  · cases hresult : loadOrCreate ⟨[([utf8 "a"], .file (utf8 "x"))], []⟩ (utf8 "/b/../c") with
    | mk result after =>
        rw [hresult] at hok
        cases result with
        | error cause => cases hok
        | ok loaded =>
            obtain ⟨hagain, hload, _, hcreated, hstandard⟩ := hsettled loaded after hresult
            have hnew := hcreated.mpr hmissing
            rw [(hstandard hnew).1] at hagain hload
            exact ⟨loaded, after, rfl, hnew, hload, hagain⟩
  · cases hresult : loadOrCreate ⟨[([utf8 "a"], .file (utf8 "x"))], []⟩ (utf8 "/b/../a/c") with
    | mk result after =>
        rw [hresult] at hfails hmade
        cases result with
        | ok loaded => cases hfails
        | error cause =>
            exact ⟨cause, after, rfl, hmade,
              (hkept cause after hresult [utf8 "a"] (utf8 "x")).mpr (by decide +kernel)⟩

end Settings

end AboutPages
