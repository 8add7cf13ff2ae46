import AboutPages.Proofs.FileTree.Walk

/-!
# What operations change

A change of a tree is described place by place: by what may stand there afterwards in place of what
stood there before. Making directories, whether it succeeds or not, only adds directories, so all
files stay as they are and every open way stays open.
-/

namespace AboutPages

open Text

namespace FileTree

variable {tree before middle after : FileTree} {place : Location} {path : Path}

/-- At each place the node has changed only as it is allowed to, and relative paths start where they
did. -/
structure Changed (allowed : Location → Option Node → Option Node → Prop)
    (before after : FileTree) : Prop where
  working : after.working = before.working
  nodes : ∀ place, allowed place (before.node? place) (after.node? place)

section Changed

variable {allowed : Location → Option Node → Option Node → Prop}

theorem Changed.refl (hsame : ∀ place node, allowed place node node) (tree : FileTree) :
    Changed allowed tree tree :=
  ⟨rfl, fun place => hsame place (tree.node? place)⟩

theorem Changed.trans
    (htrans : ∀ {place old mid new}, allowed place old mid → allowed place mid new →
      allowed place old new)
    (hfirst : Changed allowed before middle) (hsecond : Changed allowed middle after) :
    Changed allowed before after :=
  ⟨hsecond.working.trans hfirst.working,
    fun place => htrans (hfirst.nodes place) (hsecond.nodes place)⟩

theorem changed_put (hsame : ∀ place node, allowed place node node) (hplace : place ≠ [])
    {node : Node} (hallowed : allowed place (tree.node? place) (some node)) :
    Changed allowed tree (tree.put place node) := by
  refine ⟨working_put tree place node, ?_⟩
  intro other
  by_cases hother : other = place
  · subst hother
    rw [node?_put_self hplace]
    exact hallowed
  · rw [node?_put_of_ne hother]
    exact hsame other (tree.node? other)

end Changed

/-! ## New directories -/

/-- Nothing has changed at the place, or a directory is new there. -/
def NewDirectory (_place : Location) (old new : Option Node) : Prop :=
  new = old ∨ old = none ∧ new = some .directory

theorem newDirectory_refl (place : Location) (node : Option Node) :
    NewDirectory place node node := Or.inl rfl

theorem NewDirectory.trans {old mid new : Option Node} (hfirst : NewDirectory place old mid)
    (hsecond : NewDirectory place mid new) : NewDirectory place old new := by
  rcases hfirst with rfl | ⟨rfl, rfl⟩
  · exact hsecond
  · rcases hsecond with rfl | ⟨hnone, _⟩
    · exact Or.inr ⟨rfl, rfl⟩
    · cases hnone

/-- Making directories has no part in any file. -/
theorem Changed.file_iff (hchanged : Changed NewDirectory before after) {content : Bytes} :
    after.node? place = some (.file content) ↔ before.node? place = some (.file content) := by
  rcases hchanged.nodes place with hsame | ⟨hold, hnew⟩
  · rw [hsame]
  · rw [hold, hnew]
    simp

theorem Changed.directory (hchanged : Changed NewDirectory before after)
    (hdirectory : before.node? place = some .directory) : after.node? place = some .directory := by
  rcases hchanged.nodes place with hsame | ⟨_, hnew⟩
  · rw [hsame, hdirectory]
  · exact hnew

theorem Changed.placeOf_eq (hchanged : Changed NewDirectory before after) (path : Path) :
    after.placeOf path = before.placeOf path :=
  placeOf_congr hchanged.working path

theorem changed_makeDirectory {made : FileTree} (hmake : tree.makeDirectory path = .ok made) :
    Changed NewDirectory tree made := by
  obtain ⟨_, hnone, rfl⟩ := makeDirectory_eq_ok hmake
  have hfree : tree.node? (tree.placeOf path) ≠ some .directory := by simp [hnone]
  exact changed_put newDirectory_refl (ne_root_of_node? hfree) (Or.inr ⟨hnone, rfl⟩)

/-- What making one directory preserves, making each of several does, whether or not it fails. -/
theorem makeEach_induction {holds : FileTree → Prop}
    (hstep : ∀ tree path made, holds tree → tree.makeDirectory path = .ok made → holds made)
    (hholds : holds tree) (paths : List Path) : holds (makeEach paths tree).2 := by
  induction paths with
  | nil => exact hholds
  | cons path outer ih =>
      rw [makeEach]
      cases houter : makeEach outer tree with
      | mk result made =>
          rw [houter] at ih
          cases result with
          | error cause => exact ih
          | ok _ =>
              cases hmake : made.makeDirectory path with
              | ok next =>
                  simp only [hmake]
                  exact hstep made path next ih hmake
              | error cause =>
                  by_cases hthere : made.isDirectory path = true
                  · simp only [hmake, hthere]
                    exact ih
                  · simp only [hmake, hthere]
                    exact ih

theorem makeDirectories_induction {holds : FileTree → Prop}
    (hstep : ∀ tree path made, holds tree → tree.makeDirectory path = .ok made → holds made)
    (hholds : holds tree) (path : Path) : holds (tree.makeDirectories path).2 := by
  unfold makeDirectories
  split
  · exact makeEach_induction hstep hholds _
  · exact hholds

theorem changed_makeDirectories (tree : FileTree) (path : Path) :
    Changed NewDirectory tree (tree.makeDirectories path).2 := by
  refine makeDirectories_induction ?_ (Changed.refl newDirectory_refl tree) path
  intro middle path made hchanged hmake
  exact hchanged.trans NewDirectory.trans (changed_makeDirectory hmake)

/-- Directories were made, with success or without, or nothing was done. -/
def Furnished (tree made : FileTree) : Prop :=
  made = tree ∨ ∃ path, made = (tree.makeDirectories path).2

theorem Furnished.changed (hmade : tree.Furnished after) : Changed NewDirectory tree after := by
  rcases hmade with rfl | ⟨path, rfl⟩
  · exact Changed.refl newDirectory_refl _
  · exact changed_makeDirectories tree path

/-! ## Directories that are there -/

theorem isDirectory_iff :
    tree.isDirectory path = true ↔
      tree.Open path ∧ tree.node? (tree.placeOf path) = some .directory := by
  unfold isDirectory
  constructor
  · intro hdirectory
    split at hdirectory
    · rename_i there hresolve
      obtain ⟨hopen, rfl, hnode, _⟩ := resolve_eq_ok_iff.mp hresolve
      exact ⟨hopen, hnode⟩
    · cases hdirectory
  · rintro ⟨hopen, hnode⟩
    rw [resolve_eq_ok_iff.mpr ⟨hopen, rfl, hnode, fun _ => rfl⟩]

theorem pathExists_iff :
    tree.pathExists path = true ↔
      tree.Open path ∧ ∃ node, tree.node? (tree.placeOf path) = some node ∧
        (Path.endsInSlash path = true → node = .directory) := by
  unfold pathExists
  constructor
  · intro hexists
    split at hexists
    · rename_i found hresolve
      obtain ⟨place, node⟩ := found
      obtain ⟨hopen, rfl, hnode, hkind⟩ := resolve_eq_ok_iff.mp hresolve
      exact ⟨hopen, node, hnode, hkind⟩
    · cases hexists
  · rintro ⟨hopen, node, hnode, hkind⟩
    rw [resolve_eq_ok_iff.mpr ⟨hopen, rfl, hnode, hkind⟩]

/-- If the way is open and the path does not ask for a directory, it exists unless nothing stands
where it leads. -/
theorem node?_eq_none_of_not_exists (hopen : tree.Open path)
    (hslash : Path.endsInSlash path = false) (hmissing : tree.pathExists path = false) :
    tree.node? (tree.placeOf path) = none := by
  cases hnode : tree.node? (tree.placeOf path) with
  | none => rfl
  | some node =>
      have hexists := pathExists_iff.mpr ⟨hopen, node, hnode, by simp [hslash]⟩
      rw [hmissing] at hexists
      cases hexists

theorem isDirectory_of_makeDirectory {made : FileTree}
    (hmake : tree.makeDirectory path = .ok made) : made.isDirectory path = true := by
  have hchanged := changed_makeDirectory hmake
  obtain ⟨hopen, hnone, rfl⟩ := makeDirectory_eq_ok hmake
  have hfree : tree.node? (tree.placeOf path) ≠ some .directory := by simp [hnone]
  rw [isDirectory_iff, hchanged.placeOf_eq]
  exact ⟨hopen.mono hchanged.working fun _ => hchanged.directory,
    node?_put_self (ne_root_of_node? hfree) _⟩

theorem isDirectory_of_makeEach {outer : List Path} {made : FileTree}
    (hmake : makeEach (path :: outer) tree = (.ok (), made)) : made.isDirectory path = true := by
  rw [makeEach] at hmake
  cases houter : makeEach outer tree with
  | mk result next =>
      simp only [houter] at hmake
      cases result with
      | error cause => cases hmake
      | ok _ =>
          cases hmade : next.makeDirectory path with
          | ok last =>
              simp only [hmade] at hmake
              cases hmake
              exact isDirectory_of_makeDirectory hmade
          | error cause =>
              by_cases hthere : next.isDirectory path = true
              · simp only [hmade, hthere] at hmake
                cases hmake
                exact hthere
              · simp only [hmade, hthere] at hmake
                cases hmake

/-- A path is missing, or it is a directory already and nothing is. -/
theorem missing_cons_eq_ok (hpath : path ≠ []) {outer paths : List Path}
    (hmissing : tree.missing (path :: outer) = .ok paths) :
    (paths = [] ∧ tree.isDirectory path = true) ∨ ∃ more, paths = path :: more := by
  rw [missing] at hmissing
  by_cases hthere : path = [] ∨ tree.isDirectory path = true
  · rw [if_pos hthere] at hmissing
    cases hmissing
    exact Or.inl ⟨rfl, hthere.resolve_left hpath⟩
  · rw [if_neg hthere] at hmissing
    split at hmissing
    · cases hmissing
      exact Or.inr ⟨[], rfl⟩
    · cases houter : tree.missing outer with
      | error cause =>
          rw [houter] at hmissing
          cases hmissing
      | ok more =>
          rw [houter] at hmissing
          cases hmissing
          exact Or.inr ⟨more, rfl⟩
    · cases hmissing

/-- After directories were made with success, the innermost is there. -/
theorem isDirectory_of_makeDirectories {made : FileTree} (hpath : path ≠ [])
    (hmake : tree.makeDirectories path = (.ok (), made)) : made.isDirectory path = true := by
  unfold makeDirectories at hmake
  split at hmake
  · rename_i paths hmissing
    rcases missing_cons_eq_ok hpath hmissing with ⟨rfl, hthere⟩ | ⟨more, rfl⟩
    · cases hmake
      exact hthere
    · exact isDirectory_of_makeEach hmake
  · cases hmake

/-! ## Writing a file -/

theorem node?_of_write {written : FileTree} {content : Bytes}
    (hwrite : tree.write path content = .ok written) :
    written.node? (tree.placeOf path) = some (.file content) ∧
      ∀ place, place ≠ tree.placeOf path → written.node? place = tree.node? place := by
  obtain ⟨_, _, hfree, rfl⟩ := write_eq_ok hwrite
  exact ⟨node?_put_self (ne_root_of_node? hfree) _, fun place hne => node?_put_of_ne hne _⟩

theorem resolve_of_write {written : FileTree} {content : Bytes}
    (hwrite : tree.write path content = .ok written) :
    written.resolve path = .ok (tree.placeOf path, .file content) := by
  obtain ⟨hfile, hkept⟩ := node?_of_write hwrite
  obtain ⟨hopen, hslash, hfree, rfl⟩ := write_eq_ok hwrite
  have hdirectories : ∀ place, tree.node? place = some .directory →
      (tree.put (tree.placeOf path) (.file content)).node? place = some .directory := by
    intro place hdirectory
    have hne : place ≠ tree.placeOf path := fun heq => hfree (heq ▸ hdirectory)
    rw [hkept place hne, hdirectory]
  have hworking := working_put tree (tree.placeOf path) (.file content)
  refine resolve_eq_ok_iff.mpr
    ⟨hopen.mono hworking hdirectories, placeOf_congr hworking path, hfile, ?_⟩
  intro htrue
  rw [hslash] at htrue
  cases htrue

end FileTree

end AboutPages
