import AboutPages.FileTree.Basic
import AboutPages.Proofs.Fold

/-!
# Following paths

Where a path leads can be told from its steps alone; what the tree decides is only whether the way
is open. So a path leads to the same place for as long as relative paths start at the same place,
and its way stays open for as long as directories stay.
-/

namespace AboutPages

open Text

namespace FileTree

variable {tree : FileTree} {place other : Location} {path : Path}

/-! ## Nodes -/

theorem node?_root (tree : FileTree) : tree.node? [] = some .directory := by
  rw [node?, if_pos rfl]

theorem ne_root_of_node? (hnode : tree.node? place ≠ some .directory) : place ≠ [] := by
  rintro rfl
  exact hnode tree.node?_root

theorem node?_put_self (hplace : place ≠ []) (node : Node) :
    (tree.put place node).node? place = some node := by
  rw [node?, if_neg hplace, put, List.find?_cons_of_pos (by simp)]
  rfl

theorem node?_put_of_ne (hne : other ≠ place) (node : Node) :
    (tree.put place node).node? other = tree.node? other := by
  have hrest : (tree.nodes.filter fun entry => decide (entry.1 ≠ place)).find?
      (fun entry => decide (entry.1 = other)) =
        tree.nodes.find? fun entry => decide (entry.1 = other) := by
    rw [List.find?_filter]
    congr 1
    funext entry
    by_cases hentry : entry.1 = other
    · simp [hentry, hne]
    · simp [hentry]
  rw [node?, node?, put, List.find?_cons_of_neg (by simpa using hne.symm), hrest]

@[simp] theorem working_put (tree : FileTree) (place : Location) (node : Node) :
    (tree.put place node).working = tree.working := rfl

/-! ## Where steps lead -/

def destination (place : Location) (steps : List Step) : Location := steps.foldl advance place

def Passable (tree : FileTree) : Location → List Step → Prop
  | _, [] => True
  | place, step :: more =>
      tree.node? place = some .directory ∧ Passable tree (advance place step) more

theorem destination_append (place : Location) (first second : List Step) :
    destination place (first ++ second) = destination (destination place first) second :=
  List.foldl_append

theorem passable_append {first second : List Step} :
    tree.Passable place (first ++ second) ↔
      tree.Passable place first ∧ tree.Passable (destination place first) second := by
  induction first generalizing place with
  | nil => simp [Passable, destination]
  | cons step more ih =>
      rw [List.cons_append, Passable, Passable, ih, and_assoc]
      rfl

theorem Passable.mono {after : FileTree}
    (hdirectories : ∀ place, tree.node? place = some .directory →
      after.node? place = some .directory) {steps : List Step}
    (hpassable : tree.Passable place steps) : after.Passable place steps := by
  induction steps generalizing place with
  | nil => exact trivial
  | cons step more ih => exact ⟨hdirectories place hpassable.1, ih hpassable.2⟩

theorem needDirectory_eq_ok_iff :
    tree.needDirectory place = .ok () ↔ tree.node? place = some .directory := by
  unfold needDirectory
  split <;> simp_all

theorem walk_eq_ok_iff {steps : List Step} :
    tree.walk place steps = .ok other ↔
      tree.Passable place steps ∧ destination place steps = other := by
  induction steps generalizing place with
  | nil => simp [walk, Passable, destination]
  | cons step more ih =>
      rw [walk, bind_eq_ok_iff, Passable, and_assoc]
      constructor
      · rintro ⟨_, hdirectory, hwalk⟩
        exact ⟨needDirectory_eq_ok_iff.mp hdirectory, ih.mp hwalk⟩
      · rintro ⟨hdirectory, hwalk⟩
        exact ⟨(), needDirectory_eq_ok_iff.mpr hdirectory, ih.mpr hwalk⟩

/-! ## Where paths lead -/

/-- Where a path leads, if its way is open. -/
def placeOf (tree : FileTree) (path : Path) : Location :=
  destination (tree.start path) (Path.steps path)

/-- The way of a path is open, up to what it leads to. -/
def Open (tree : FileTree) (path : Path) : Prop :=
  path ≠ [] ∧ tree.Passable (tree.start path) (Path.steps path)

theorem start_congr {after : FileTree} (hworking : after.working = tree.working) (path : Path) :
    after.start path = tree.start path := by
  rw [start, start, hworking]

theorem placeOf_congr {after : FileTree} (hworking : after.working = tree.working) (path : Path) :
    after.placeOf path = tree.placeOf path := by
  rw [placeOf, placeOf, start_congr hworking]

theorem Open.mono {after : FileTree} (hworking : after.working = tree.working)
    (hdirectories : ∀ place, tree.node? place = some .directory →
      after.node? place = some .directory) (hopen : tree.Open path) : after.Open path := by
  refine ⟨hopen.1, ?_⟩
  rw [start_congr hworking]
  exact hopen.2.mono hdirectories

theorem resolve_eq_ok_iff {node : Node} :
    tree.resolve path = .ok (place, node) ↔
      tree.Open path ∧ tree.placeOf path = place ∧ tree.node? place = some node ∧
        (Path.endsInSlash path = true → node = .directory) := by
  unfold resolve
  by_cases hempty : path = []
  · rw [if_pos hempty]
    constructor
    · intro hfails
      cases hfails
    · intro hresolves
      exact absurd hempty hresolves.1.1
  · rw [if_neg hempty]
    simp only [bind_eq_ok_iff, walk_eq_ok_iff]
    constructor
    · rintro ⟨middle, ⟨hpassable, rfl⟩, hfound⟩
      cases hnode : tree.node? (destination (tree.start path) (Path.steps path)) with
      | none =>
          by_cases hslash : Path.endsInSlash path = true
          · simp [hslash, needDirectory, hnode, bind, Except.bind] at hfound
          · simp only [hslash, hnode] at hfound
            cases hfound
      | some there =>
          by_cases hslash : Path.endsInSlash path = true
          · cases there with
            | file content => simp [hslash, needDirectory, hnode, bind, Except.bind] at hfound
            | directory =>
                simp only [hslash, needDirectory, hnode] at hfound
                cases hfound
                exact ⟨⟨hempty, hpassable⟩, rfl, hnode, fun _ => rfl⟩
          · simp only [hslash, hnode] at hfound
            cases hfound
            exact ⟨⟨hempty, hpassable⟩, rfl, hnode, fun h => absurd h hslash⟩
    · rintro ⟨⟨_, hpassable⟩, rfl, hnode, hkind⟩
      refine ⟨tree.placeOf path, ⟨hpassable, rfl⟩, ?_⟩
      by_cases hslash : Path.endsInSlash path = true
      · cases hkind hslash
        simp only [hslash, needDirectory, hnode]
        rfl
      · simp only [hslash, hnode]
        rfl

/-- The way to the last step of a path is open, and that step has a name. -/
theorem walkToLast_eq_ok {last : Step} (hwalk : tree.walkToLast path = .ok (some (place, last))) :
    tree.Open path ∧ tree.placeOf path = place ++ [last] := by
  unfold walkToLast at hwalk
  cases hlast : (Path.steps path).getLast? with
  | none =>
      simp only [hlast] at hwalk
      split at hwalk <;> cases hwalk
  | some final =>
      simp only [hlast, bind_eq_ok_iff, walk_eq_ok_iff] at hwalk
      obtain ⟨middle, ⟨hpassable, hmiddle⟩, _, hdirectory, hfinal⟩ := hwalk
      split at hfinal
      · cases hfinal
      · rename_i hname
        cases hfinal
        rw [not_or] at hname
        obtain ⟨front, hsteps⟩ := List.getLast?_eq_some_iff.mp hlast
        rw [hsteps, List.dropLast_concat] at hpassable hmiddle
        have hnonempty : path ≠ [] := by
          rintro rfl
          cases hlast
        refine ⟨⟨hnonempty, ?_⟩, ?_⟩
        · rw [hsteps, passable_append, hmiddle]
          exact ⟨hpassable, needDirectory_eq_ok_iff.mp hdirectory, trivial⟩
        · rw [placeOf, hsteps, destination_append, hmiddle]
          simp only [destination, List.foldl_cons, List.foldl_nil, advance, if_neg hname.1,
            if_neg hname.2]

theorem filePlace_eq_ok (hplace : tree.filePlace path = .ok place) :
    tree.Open path ∧ tree.placeOf path = place ∧ Path.endsInSlash path = false ∧
      tree.node? place ≠ some .directory := by
  unfold filePlace at hplace
  obtain ⟨found, hwalk, hfound⟩ := bind_eq_ok_iff.mp hplace
  cases found with
  | none => cases hfound
  | some found =>
      obtain ⟨base, last⟩ := found
      obtain ⟨hopen, hat⟩ := walkToLast_eq_ok hwalk
      cases hslash : Path.endsInSlash path with
      | true =>
          simp only [hslash] at hfound
          cases hfound
      | false =>
          simp only [hslash] at hfound
          cases hnode : tree.node? (base ++ [last]) with
          | none =>
              simp only [hnode] at hfound
              cases hfound
              exact ⟨hopen, hat, rfl, by simp [hnode]⟩
          | some there =>
              cases there with
              | directory =>
                  simp only [hnode] at hfound
                  cases hfound
              | file content =>
                  simp only [hnode] at hfound
                  cases hfound
                  exact ⟨hopen, hat, rfl, by simp [hnode]⟩

theorem makeDirectory_eq_ok {made : FileTree} (hmake : tree.makeDirectory path = .ok made) :
    tree.Open path ∧ tree.node? (tree.placeOf path) = none ∧
      made = tree.put (tree.placeOf path) .directory := by
  unfold makeDirectory at hmake
  obtain ⟨found, hwalk, hfound⟩ := bind_eq_ok_iff.mp hmake
  cases found with
  | none => cases hfound
  | some found =>
      obtain ⟨base, last⟩ := found
      obtain ⟨hopen, hat⟩ := walkToLast_eq_ok hwalk
      rw [hat]
      cases hnode : tree.node? (base ++ [last]) with
      | none =>
          simp only [hnode] at hfound
          cases hfound
          exact ⟨hopen, rfl, rfl⟩
      | some there =>
          simp only [hnode] at hfound
          cases hfound

theorem write_eq_ok {written : FileTree} {content : Bytes}
    (hwrite : tree.write path content = .ok written) :
    tree.Open path ∧ Path.endsInSlash path = false ∧
      tree.node? (tree.placeOf path) ≠ some .directory ∧
      written = tree.put (tree.placeOf path) (.file content) := by
  obtain ⟨place, hplace, hput⟩ := bind_eq_ok_iff.mp hwrite
  obtain ⟨hopen, rfl, hslash, hfree⟩ := filePlace_eq_ok hplace
  cases hput
  exact ⟨hopen, hslash, hfree, rfl⟩

/-- A file that is opened is there already, or it is new and empty. -/
theorem openAppend_eq_ok {after : FileTree} (hopen : tree.openAppend path = .ok (place, after)) :
    place = tree.placeOf path ∧
      ((∃ content, tree.node? place = some (.file content)) ∧ after = tree ∨
        tree.node? place = none ∧ after = tree.put place (.file [])) := by
  obtain ⟨found, hplace, hafter⟩ := bind_eq_ok_iff.mp hopen
  obtain ⟨_, rfl, _, hfree⟩ := filePlace_eq_ok hplace
  cases hnode : tree.node? (tree.placeOf path) with
  | some node =>
      simp only [hnode] at hafter
      cases hafter
      cases node with
      | directory => exact absurd hnode hfree
      | file content => exact ⟨rfl, Or.inl ⟨⟨content, hnode⟩, rfl⟩⟩
  | none =>
      simp only [hnode] at hafter
      cases hafter
      exact ⟨rfl, Or.inr ⟨hnode, rfl⟩⟩

end FileTree

end AboutPages
