import AboutPages.Proofs.FileTree.Changes
import Mathlib.Data.List.Induction

/-!
# Grounded trees

In a grounded tree whatever exists is in a directory. Making directories and writing files keep a
tree grounded. New directories can open a way to something that was in such a tree before only if
the way also leads upwards: going down, it passes through directories that have to be there.
-/

namespace AboutPages

open Text

namespace FileTree

variable {tree made : FileTree} {place upper : Location} {path : Path}

/-- Whatever exists is in a directory, and relative paths start at one. -/
structure Grounded (tree : FileTree) : Prop where
  working : tree.node? tree.working = some .directory
  nodes : ∀ place step node, tree.node? (place ++ [step]) = some node →
    tree.node? place = some .directory

namespace Grounded

theorem start (hgrounded : tree.Grounded) (path : Path) :
    tree.node? (tree.start path) = some .directory := by
  unfold FileTree.start
  split
  · exact tree.node?_root
  · exact hgrounded.working

theorem dropLast (hgrounded : tree.Grounded) (hdirectory : tree.node? place = some .directory) :
    tree.node? place.dropLast = some .directory := by
  rcases List.eq_nil_or_concat place with rfl | ⟨front, last, rfl⟩
  · exact hdirectory
  · rw [List.concat_eq_append] at hdirectory ⊢
    rw [List.dropLast_concat]
    exact hgrounded.nodes front last .directory hdirectory

theorem exists_above (hgrounded : tree.Grounded) (habove : upper <+: place)
    (hplace : tree.node? place ≠ none) : tree.node? upper ≠ none := by
  obtain ⟨lower, rfl⟩ := habove
  induction lower using List.reverseRecOn with
  | nil => rwa [List.append_nil] at hplace
  | append_singleton front last ih =>
      obtain ⟨node, hnode⟩ := Option.ne_none_iff_exists'.mp hplace
      rw [← List.append_assoc] at hnode
      apply ih
      rw [hgrounded.nodes _ last node hnode]
      simp

/-! ## Changes that keep a tree grounded -/

/-- Where an open way leads to no directory, its last step has a name and is taken from one. -/
theorem exists_parent (hgrounded : tree.Grounded) (hopen : tree.Open path)
    (hfree : tree.node? (tree.placeOf path) ≠ some .directory) :
    ∃ parent name, tree.placeOf path = parent ++ [name] ∧
      tree.node? parent = some .directory := by
  rcases List.eq_nil_or_concat (Path.steps path) with hsteps | ⟨front, last, hsteps⟩
  · rw [placeOf, hsteps] at hfree
    exact absurd (hgrounded.start path) hfree
  · have hpassable := hopen.2
    rw [placeOf] at hfree ⊢
    rw [hsteps, List.concat_eq_append] at hfree hpassable ⊢
    obtain ⟨_, hparent, _⟩ := passable_append.mp hpassable
    rw [destination_append] at hfree ⊢
    simp only [destination, List.foldl_cons, List.foldl_nil, advance] at hfree hparent ⊢
    split_ifs at hfree with hhere habove
    · exact absurd hparent hfree
    · exact absurd (hgrounded.dropLast hparent) hfree
    · rw [if_neg hhere, if_neg habove]
      exact ⟨_, last, rfl, hparent⟩

theorem put (hgrounded : tree.Grounded) (hopen : tree.Open path)
    (hfree : tree.node? (tree.placeOf path) ≠ some .directory) (node : Node) :
    (tree.put (tree.placeOf path) node).Grounded := by
  obtain ⟨parent, name, hplace, hparent⟩ := hgrounded.exists_parent hopen hfree
  rw [hplace] at hfree ⊢
  have hkeeps : ∀ place, tree.node? place = some .directory →
      (tree.put (parent ++ [name]) node).node? place = some .directory := by
    intro place hdirectory
    have hne : place ≠ parent ++ [name] := fun heq => hfree (heq ▸ hdirectory)
    rw [node?_put_of_ne hne, hdirectory]
  refine ⟨hkeeps _ hgrounded.working, ?_⟩
  intro place step there hthere
  by_cases heq : place ++ [step] = parent ++ [name]
  · obtain ⟨rfl, _⟩ := List.append_inj' heq rfl
    exact hkeeps place hparent
  · rw [node?_put_of_ne heq] at hthere
    exact hkeeps place (hgrounded.nodes place step there hthere)

theorem makeDirectories (hgrounded : tree.Grounded) (path : Path) :
    (tree.makeDirectories path).2.Grounded := by
  refine makeDirectories_induction ?_ hgrounded path
  intro tree path made hgrounded hmake
  obtain ⟨hopen, hnone, rfl⟩ := makeDirectory_eq_ok hmake
  exact hgrounded.put hopen (by simp [hnone]) .directory

theorem furnished (hgrounded : tree.Grounded) (hmade : tree.Furnished made) : made.Grounded := by
  rcases hmade with rfl | ⟨path, rfl⟩
  · exact hgrounded
  · exact hgrounded.makeDirectories path

theorem write {written : FileTree} {content : Bytes} (hgrounded : tree.Grounded)
    (hwrite : tree.write path content = .ok written) : written.Grounded := by
  obtain ⟨hopen, _, hfree, rfl⟩ := write_eq_ok hwrite
  exact hgrounded.put hopen hfree (.file content)

end Grounded

/-! ## Ways that new directories open -/

/-- Without steps upwards, steps lead below the place where they start. -/
theorem prefix_destination {steps : List Step} (habove : Path.above ∉ steps) :
    place <+: destination place steps := by
  induction steps generalizing place with
  | nil => exact List.prefix_rfl
  | cons step more ih =>
      rw [List.mem_cons, not_or] at habove
      have hstep : place <+: advance place step := by
        rw [advance]
        split
        · exact List.prefix_rfl
        · rw [if_neg (Ne.symm habove.1)]
          exact List.prefix_append place [step]
      exact hstep.trans (ih habove.2)

/-- Steps downwards to what existed before directories were made needed none of them. -/
theorem Grounded.passable_of_made (hgrounded : tree.Grounded)
    (hchanged : Changed NewDirectory tree made) {steps : List Step}
    (habove : Path.above ∉ steps) (hthere : tree.node? (destination place steps) ≠ none)
    (hpassable : made.Passable place steps) : tree.Passable place steps := by
  induction steps generalizing place with
  | nil => exact trivial
  | cons step more ih =>
      have hplace := hgrounded.exists_above (prefix_destination habove) hthere
      refine ⟨?_, ih (List.not_mem_of_not_mem_cons habove) hthere hpassable.2⟩
      rcases hchanged.nodes place with hsame | ⟨hnone, _⟩
      · rw [← hsame]
        exact hpassable.1
      · exact absurd hnone hplace

/-- If new directories opened the way to what existed before, the way leads upwards. -/
theorem Grounded.above_mem_steps (hgrounded : tree.Grounded)
    (hchanged : Changed NewDirectory tree made)
    (hthere : tree.node? (tree.placeOf path) ≠ none) (hopen : made.Open path)
    (hclosed : ¬ tree.Open path) : Path.above ∈ Path.steps path := by
  by_contra habove
  have hpassable := hopen.2
  rw [start_congr hchanged.working] at hpassable
  exact hclosed ⟨hopen.1, hgrounded.passable_of_made hchanged habove hthere hpassable⟩

end FileTree

end AboutPages
