import EbnfLexer.Files.Tree
import Mathlib.Data.List.Induction

/-!
# What names lead down to

What a tree of files has is said here without any paths: `Tree.found? tree names` is
what is at the end of a chain of names.  Every way to build a tree is an equation about
it that holds of all chains of names at once.

* A directory is found at the names that it was put under and at every beginning of
  them, and nothing changes elsewhere (`found?_addDirectory`).
* A file is found at its own names alone, and nothing behind it (`found?_addFile`).
* A path makes directories of all the places that it comes through, also of those that
  it leaves again (`found?_enter_of_visited`, `found?_enter_of_not_visited`).

The first two are one case each of changing the entries of a directory, `Tree.change`,
for which the three ways in which chains can lie to each other are told apart.
-/

namespace EbnfLexer.Files

variable {tree : Tree} {names further path front : List String}

/-! ## Entries -/

theorem Tree.at?_put (tree : Tree) (name other : String) (node : Node) :
    (tree.put name node).at? other =
      if other = name then some node else tree.at? other := by
  induction tree with
  | nil =>
      by_cases hsame : other = name
      · simp [put, at?, hsame]
      · simp [put, at?, hsame, Ne.symm hsame]
  | cons entry tree ih =>
      by_cases hentry : entry.1 = name
      · by_cases hsame : other = name
        · simp [put, at?, hentry, hsame]
        · simp [put, at?, hentry, hsame, Ne.symm hsame]
      · by_cases hother : entry.1 = other
        · simp [put, at?, hother, hother ▸ hentry]
        · simp only [put, at?, hentry, if_false, List.find?_cons, beq_eq_false_iff_ne.mpr hother]
          exact ih

/-! ## What names lead down to -/

/-- The entry of a node with a given name; a file has none. -/
def Node.at? : Node → String → Option Node
  | file _, _ => none
  | directory entries, name => Tree.at? entries name

/-- What is at the end of a chain of names from a node. -/
def Node.found? (node : Node) (names : List String) : Option Found :=
  (names.foldlM Node.at? node).map Node.found

/-- What is at the end of a chain of names in a tree. -/
def Tree.found? (tree : Tree) (names : List String) : Option Found :=
  (Node.directory tree).found? names

@[simp] theorem found?_nil (tree : Tree) : tree.found? [] = some .directory := rfl

theorem found?_cons (tree : Tree) (name : String) (names : List String) :
    tree.found? (name :: names) = (tree.at? name).bind fun node => node.found? names := by
  simp only [Tree.found?, Node.found?, List.foldlM_cons, Node.at?]
  cases tree.at? name <;> rfl

/-- Below a name there is what the directory with this name has, and nothing below a file. -/
theorem found?_cons_of_ne_nil (tree : Tree) (name : String) (hnames : names ≠ []) :
    tree.found? (name :: names) = (tree.entries name).found? names := by
  rw [found?_cons, Tree.entries]
  obtain ⟨next, names, rfl⟩ := List.exists_cons_of_ne_nil hnames
  rcases tree.at? name with _ | ⟨content | entries⟩ <;> rfl

/-- The entries of the directory at the end of a chain of names; none where there is none. -/
def Tree.below (tree : Tree) (names : List String) : Tree := names.foldl Tree.entries tree

theorem found?_below (tree : Tree) (names : List String) (hfurther : further ≠ []) :
    (tree.below names).found? further = tree.found? (names ++ further) := by
  induction names generalizing tree with
  | nil => rfl
  | cons name names ih =>
      have hbehind : names ++ further ≠ [] := List.append_ne_nil_of_right_ne_nil _ hfurther
      rw [List.cons_append, found?_cons_of_ne_nil tree name hbehind]
      exact ih (tree.entries name)

/-! ## Changing a tree

A chain of names is compared with the one where the change is made: it is a beginning
of it, goes on behind it, or leaves it somewhere on the way. -/

variable {alter : Tree → Tree} {others : List String}

theorem found?_change_beginning (h : others <+: names) :
    (Tree.change alter names tree).found? others = some .directory := by
  induction names generalizing tree others with
  | nil => rw [List.prefix_nil.mp h, found?_nil]
  | cons name names ih =>
      rcases others with _ | ⟨other, others⟩
      · rfl
      · obtain ⟨rfl, hothers⟩ := List.cons_prefix_cons.mp h
        rw [Tree.change, found?_cons, Tree.at?_put, if_pos rfl]
        exact ih hothers

theorem found?_change_append (tree : Tree) (names further : List String) :
    (Tree.change alter names tree).found? (names ++ further) =
      (alter (tree.below names)).found? further := by
  induction names generalizing tree with
  | nil => rfl
  | cons name names ih =>
      rw [Tree.change, List.cons_append, found?_cons, Tree.at?_put, if_pos rfl]
      exact ih (tree.entries name)

theorem found?_change_elsewhere (hbeginning : ¬ others <+: names)
    (hbehind : ¬ names <+: others) :
    (Tree.change alter names tree).found? others = tree.found? others := by
  induction names generalizing tree others with
  | nil => exact absurd List.nil_prefix hbehind
  | cons name names ih =>
      rcases others with _ | ⟨other, others⟩
      · exact absurd List.nil_prefix hbeginning
      · by_cases hsame : other = name
        · subst hsame
          rw [List.prefix_cons_inj] at hbeginning hbehind
          have hothers : others ≠ [] := fun h => hbeginning (h ▸ List.nil_prefix)
          rw [found?_cons_of_ne_nil tree other hothers, ← ih hbeginning hbehind, Tree.change,
            found?_cons, Tree.at?_put, if_pos rfl]
          rfl
        · rw [Tree.change, found?_cons, Tree.at?_put, if_neg hsame, found?_cons]

theorem found?_addDirectory (tree : Tree) (names others : List String) :
    (tree.addDirectory names).found? others =
      if others <+: names then some .directory else tree.found? others := by
  by_cases hbeginning : others <+: names
  · rw [if_pos hbeginning, Tree.addDirectory, found?_change_beginning hbeginning]
  rw [if_neg hbeginning, Tree.addDirectory]
  by_cases hbehind : names <+: others
  · obtain ⟨further, rfl⟩ := hbehind
    have hfurther : further ≠ [] := by
      rintro rfl
      exact hbeginning (by simp)
    rw [found?_change_append, id, found?_below tree names hfurther]
  · exact found?_change_elsewhere hbeginning hbehind

theorem found?_addFile (tree : Tree) (names : List String) (name : String) (content : ByteArray)
    (others : List String) :
    (tree.addFile names name content).found? others =
      if others <+: names then some .directory
      else if others = names ++ [name] then some (.file content)
      else if names ++ [name] <+: others then none
      else tree.found? others := by
  by_cases hbeginning : others <+: names
  · rw [if_pos hbeginning, Tree.addFile, found?_change_beginning hbeginning]
  rw [if_neg hbeginning, Tree.addFile]
  by_cases hbehind : names <+: others
  -- Below the directory that was changed, the first name tells the new file from the other entries.
  · obtain ⟨further, rfl⟩ := hbehind
    rcases further with _ | ⟨other, further⟩
    · exact absurd (by simp) hbeginning
    · simp only [found?_change_append, found?_cons, Tree.at?_put, List.append_cancel_left_eq,
        List.prefix_append_right_inj, List.cons.injEq, List.cons_prefix_cons]
      by_cases hsame : other = name
      · subst hsame
        cases further <;> simp [Node.found?, Node.at?, Node.found]
      · simp only [hsame, Ne.symm hsame, if_false, false_and]
        rw [← found?_cons, found?_below tree names (List.cons_ne_nil _ _)]
  · have haway : ¬ names ++ [name] <+: others := fun h =>
      hbehind ((List.prefix_append _ _).trans h)
    have hnot : others ≠ names ++ [name] := fun h => haway (h ▸ List.prefix_rfl)
    rw [if_neg hnot, if_neg haway, found?_change_elsewhere hbeginning hbehind]

/-! ## The directories that a path comes through -/

@[simp] theorem namesOf_concat (path : List String) (component : String) :
    namesOf (path ++ [component]) = onward (namesOf path) component := by
  rw [namesOf, List.foldl_append]
  rfl

theorem onward_of_name (names : List String) (hname : component ∉ ["", ".", ".."]) :
    onward names component = names ++ [component] := by
  simp only [List.mem_cons, List.not_mem_nil, or_false, not_or] at hname
  obtain ⟨hempty, hdot, hback⟩ := hname
  rw [onward, if_neg (by simp [hempty, hdot]), if_neg hback]

theorem enter_concat (tree : Tree) (names path : List String) (component : String) :
    tree.enter names (path ++ [component]) =
      (tree.enter names path).addDirectory (onward (path.foldl onward names) component) := by
  induction path generalizing tree names with
  | nil => rfl
  | cons first path ih => exact ih _ _

theorem found?_enter_concat (tree : Tree) (path names : List String) (component : String) :
    (tree.enter [] (path ++ [component])).found? names =
      if names <+: namesOf (path ++ [component]) then some .directory
      else (tree.enter [] path).found? names := by
  rw [enter_concat, found?_addDirectory, namesOf_concat]
  rfl

/-- There is a directory wherever a path comes through, and on the way there. -/
theorem found?_enter_of_visited (hfront : front <+: path) (hnames : names <+: namesOf front) :
    (tree.enter [] path).found? names = some .directory := by
  induction path using List.reverseRecOn with
  | nil =>
      rw [List.prefix_nil.mp hfront] at hnames
      rw [List.prefix_nil.mp hnames, found?_nil]
  | append_singleton path component ih =>
      rw [found?_enter_concat]
      rcases List.prefix_concat_iff.mp hfront with rfl | hfront
      · rw [if_pos hnames]
      · rw [ih hfront, ite_self]

/-- What is not on the way to any place that a path comes through stays as it is. -/
theorem found?_enter_of_not_visited (h : ∀ front, front <+: path → ¬ names <+: namesOf front) :
    (tree.enter [] path).found? names = tree.found? names := by
  induction path using List.reverseRecOn with
  | nil => rfl
  | append_singleton path component ih =>
      rw [found?_enter_concat, if_neg (h _ List.prefix_rfl)]
      exact ih fun front hfront => h front (hfront.trans (List.prefix_append _ _))

/-- Directories stay directories. -/
theorem found?_enter_of_directory (h : tree.found? names = some .directory) :
    (tree.enter [] path).found? names = some .directory := by
  by_cases hvisited : ∃ front, front <+: path ∧ names <+: namesOf front
  · obtain ⟨front, hfront, hnames⟩ := hvisited
    exact found?_enter_of_visited hfront hnames
  · rw [found?_enter_of_not_visited fun front hfront hnames => hvisited ⟨front, hfront, hnames⟩, h]

end EbnfLexer.Files
