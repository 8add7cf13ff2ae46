import AboutPages.Proofs.FileTree.Walk
import AboutPages.Proofs.Text.Split
import Mathlib.Data.List.Basic

/-!
# Paths below other paths

A name that is joined to a path is one more step of it, however the path ends. So it leads below the
place where the path leads. If the path leads to a directory, the way of the name is open, and the
name can be opened as a file unless a directory has it.
-/

namespace AboutPages

open Text

namespace Path

structure IsName (name : Path) : Prop where
  nonempty : name ≠ []
  unbroken : slash ∉ name
  ne_here : name ≠ here
  ne_above : name ≠ above

theorem steps_append_slash (front back : Path) :
    steps (front ++ slash :: back) = steps front ++ steps back := by
  rw [steps, pieces_append_sep, List.filter_append]
  rfl

section Join

variable {name : Path} (hname : IsName name)

include hname

theorem isAbsolute_name : isAbsolute name = false := by
  obtain ⟨first, more, rfl⟩ := List.exists_cons_of_ne_nil hname.nonempty
  have hne : first ≠ slash := fun heq => hname.unbroken (heq ▸ List.mem_cons_self)
  simpa [isAbsolute] using hne

theorem steps_name : steps name = [name] := by
  simp [steps, pieces_of_not_mem hname.unbroken, hname.nonempty]

/-- One slash stands between a path and a name that is joined to it, if there is any path. -/
theorem join_cases (base : Path) :
    (base = [] ∧ join base name = name) ∨
      ∃ front, join base name = front ++ slash :: name ∧
        ((base = front ∧ front ≠ []) ∨ base = front ++ [slash]) := by
  have hrelative : ¬isAbsolute name = true := by simp [isAbsolute_name hname]
  rw [join, if_neg hrelative]
  by_cases hempty : base = []
  · subst hempty
    exact Or.inl ⟨rfl, rfl⟩
  · refine Or.inr ?_
    cases hslash : endsInSlash base with
    | true =>
        obtain ⟨front, rfl⟩ := List.getLast?_eq_some_iff.mp (beq_iff_eq.mp hslash)
        exact ⟨front, by simp, Or.inr rfl⟩
    | false => exact ⟨base, by simp [hempty], Or.inl ⟨rfl, hempty⟩⟩

theorem steps_join (base : Path) : steps (join base name) = steps base ++ [name] := by
  rcases join_cases hname base with ⟨rfl, hjoin⟩ | ⟨front, hjoin, hbase⟩
  · rw [hjoin, steps_name hname]
    rfl
  · have hsteps : steps front = steps base := by
      rcases hbase with ⟨rfl, _⟩ | rfl
      · rfl
      · rw [steps_append_slash]
        exact (List.append_nil _).symm
    rw [hjoin, steps_append_slash, steps_name hname, hsteps]

theorem isAbsolute_join (base : Path) : isAbsolute (join base name) = isAbsolute base := by
  rcases join_cases hname base with ⟨rfl, hjoin⟩ | ⟨front, hjoin, hbase⟩
  · rw [hjoin, isAbsolute_name hname]
    rfl
  · rw [hjoin]
    rcases hbase with ⟨rfl, hnonempty⟩ | rfl
    · obtain ⟨first, more, rfl⟩ := List.exists_cons_of_ne_nil hnonempty
      rfl
    · cases front <;> rfl

theorem endsInSlash_join (base : Path) : endsInSlash (join base name) = false := by
  have hlast : name.getLast? ≠ some slash :=
    fun heq => hname.unbroken (List.mem_of_getLast? heq)
  have hjoined : (join base name).getLast? = name.getLast? := by
    rcases join_cases hname base with ⟨_, hjoin⟩ | ⟨front, hjoin, _⟩
    · rw [hjoin]
    · rw [hjoin, List.append_cons, List.getLast?_append_of_ne_nil _ hname.nonempty]
  rw [endsInSlash, hjoined]
  simpa using hlast

theorem join_ne_nil (base : Path) : join base name ≠ [] := by
  rcases join_cases hname base with ⟨_, hjoin⟩ | ⟨front, hjoin, _⟩
  · rw [hjoin]
    exact hname.nonempty
  · simp [hjoin]

theorem isAbsolute_name_append (rest : Path) : isAbsolute (name ++ rest) = false := by
  rw [isAbsolute, List.head?_append_of_ne_nil _ hname.nonempty]
  exact isAbsolute_name hname

/-- How a path is joined to another depends on the name that it begins with. -/
theorem join_append (base rest : Path) : join base (name ++ rest) = join base name ++ rest := by
  rw [join, join, isAbsolute_name_append hname, isAbsolute_name hname]
  cases base.isEmpty || endsInSlash base <;> simp

/-- Joining a name and then a path is joining both at once, with a slash between them. -/
theorem join_join (base : Path) {path : Path} (hrelative : isAbsolute path = false) :
    join (join base name) path = join base (name ++ slash :: path) := by
  have hdirectory : ((join base name).isEmpty || endsInSlash (join base name)) = false := by
    simp [join_ne_nil hname base, endsInSlash_join hname base]
  rw [join_append hname, join, hrelative, hdirectory]
  rfl

end Join

end Path

namespace FileTree

variable {tree : FileTree} {name : Path} (hname : Path.IsName name)

include hname

theorem start_join (tree : FileTree) (base : Path) :
    tree.start (Path.join base name) = tree.start base := by
  rw [start, start, Path.isAbsolute_join hname]

theorem placeOf_join (tree : FileTree) (base : Path) :
    tree.placeOf (Path.join base name) = tree.placeOf base ++ [name] := by
  rw [placeOf, Path.steps_join hname, start_join hname, destination_append]
  simp only [destination, List.foldl_cons, List.foldl_nil, advance, if_neg hname.ne_here,
    if_neg hname.ne_above]
  rfl

theorem open_join {base : Path} (hopen : tree.Open base)
    (hdirectory : tree.node? (tree.placeOf base) = some .directory) :
    tree.Open (Path.join base name) := by
  refine ⟨Path.join_ne_nil hname base, ?_⟩
  rw [Path.steps_join hname, start_join hname, passable_append]
  exact ⟨hopen.2, hdirectory, trivial⟩

theorem walkToLast_join {base : Path} (hopen : tree.Open base)
    (hdirectory : tree.node? (tree.placeOf base) = some .directory) :
    tree.walkToLast (Path.join base name) = .ok (some (tree.placeOf base, name)) := by
  have hwalk : tree.walk (tree.start base) (Path.steps base) = .ok (tree.placeOf base) :=
    walk_eq_ok_iff.mpr ⟨hopen.2, rfl⟩
  have hplain : ¬(name = Path.here ∨ name = Path.above) := by
    simp [hname.ne_here, hname.ne_above]
  simp only [walkToLast, Path.steps_join hname, List.getLast?_concat, List.dropLast_concat,
    start_join hname, hwalk, if_neg hplain]
  exact bind_eq_ok_iff.mpr ⟨_, rfl, bind_eq_ok_iff.mpr
    ⟨(), needDirectory_eq_ok_iff.mpr hdirectory, rfl⟩⟩

theorem filePlace_join {base : Path} (hopen : tree.Open base)
    (hdirectory : tree.node? (tree.placeOf base) = some .directory)
    (hfree : tree.node? (tree.placeOf base ++ [name]) ≠ some .directory) :
    tree.filePlace (Path.join base name) = .ok (tree.placeOf base ++ [name]) := by
  refine bind_eq_ok_iff.mpr ⟨_, walkToLast_join hname hopen hdirectory, ?_⟩
  simp only [Path.endsInSlash_join hname]
  cases hnode : tree.node? (tree.placeOf base ++ [name]) with
  | none => rfl
  | some node =>
      cases node with
      | directory => exact absurd hnode hfree
      | file content => rfl

theorem exists_openAppend_join_iff {base : Path} (hopen : tree.Open base)
    (hdirectory : tree.node? (tree.placeOf base) = some .directory) :
    (∃ place after, tree.openAppend (Path.join base name) = .ok (place, after)) ↔
      tree.node? (tree.placeOf (Path.join base name)) ≠ some .directory := by
  constructor
  · rintro ⟨place, after, hfile⟩
    obtain ⟨rfl, ⟨⟨content, hnode⟩, _⟩ | ⟨hnode, _⟩⟩ := openAppend_eq_ok hfile
    · simp [hnode]
    · simp [hnode]
  · intro hfree
    rw [placeOf_join hname] at hfree
    have hplace := filePlace_join hname hopen hdirectory hfree
    cases hnode : tree.node? (tree.placeOf base ++ [name]) with
    | none =>
        refine ⟨tree.placeOf base ++ [name], tree.put (tree.placeOf base ++ [name]) (.file []),
          bind_eq_ok_iff.mpr ⟨_, hplace, ?_⟩⟩
        simp only [hnode]
        rfl
    | some node =>
        refine ⟨tree.placeOf base ++ [name], tree, bind_eq_ok_iff.mpr ⟨_, hplace, ?_⟩⟩
        simp only [hnode]
        rfl

end FileTree

end AboutPages
