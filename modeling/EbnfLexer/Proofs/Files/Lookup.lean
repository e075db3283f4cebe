import EbnfLexer.Proofs.Files.Names
import EbnfLexer.Proofs.Reading

/-!
# What is found under a path

`Tree.lookup` follows a path component by component and may come through directories
that are left again.  For a path that stays below the working directory, every
component leads onward to certain names (`namesOf`), and something is found exactly if
it is found at the names of the whole path and there is a directory at the names of
every beginning of it (`lookup_eq_ok_iff`).  The last condition cannot be dropped:
nothing is found under `a/../b` unless `a` is a directory.

So a directory or a file is found under the path that it was put under
(`lookup_withDirectory`, `lookup_withFile`), and everything that is not in the way of
it is found as before (`lookup_withDirectory_of_ok`, `lookup_withFile_of_ok`).  For
paths that are made of names only, it is enough that none of them leads through the end
of another one, and then each of several files is found (`lookup_withFiles`).
-/

namespace EbnfLexer.Files

variable {tree : Tree} {name component : String} {names path front : List String}
variable {content : ByteArray} {found : Found}

/-! ## Places

A place holds the directories around it as well, so that a path can go back to them. -/

/-- The place that the entry of a place with a given name has. -/
def Place.into (place : Place) (name : String) : Option Place :=
  (place.node.at? name).map fun node => ⟨node, place.node :: place.around⟩

/-- The place at the end of a chain of names. -/
def Tree.place? (tree : Tree) (names : List String) : Option Place :=
  names.foldlM Place.into ⟨.directory tree, []⟩

theorem map_node_foldlM_into (place : Place) (names : List String) :
    (names.foldlM Place.into place).map Place.node = names.foldlM Node.at? place.node := by
  induction names generalizing place with
  | nil => rfl
  | cons name names ih =>
      rw [List.foldlM_cons, List.foldlM_cons, Place.into]
      cases place.node.at? name with
      | none => rfl
      | some node => exact ih ⟨node, place.node :: place.around⟩

theorem found?_eq_map_place? (tree : Tree) (names : List String) :
    tree.found? names = (tree.place? names).map fun place => place.node.found := by
  rw [Tree.found?, Node.found?, ← map_node_foldlM_into ⟨.directory tree, []⟩, Option.map_map]
  rfl

theorem place?_concat (tree : Tree) (names : List String) (name : String) :
    tree.place? (names ++ [name]) = (tree.place? names).bind fun place => place.into name := by
  rw [Tree.place?, List.foldlM_append]
  simp [Tree.place?]

/-- The place around the one at the end of some names is the one that all but the last of them
lead down to. -/
theorem around_of_place? {place : Place} (h : tree.place? (names ++ [name]) = some place) :
    ∃ outer, tree.place? names = some outer ∧ place.around = outer.node :: outer.around := by
  rw [place?_concat] at h
  obtain ⟨outer, houter, h⟩ := Option.bind_eq_some_iff.mp h
  obtain ⟨node, hnode, rfl⟩ := Option.map_eq_some_iff.mp h
  exact ⟨outer, houter, rfl⟩

/-- A component is followed from a directory, to the place that it leads onward to. -/
theorem follow_eq_ok_iff {place next : Place} (hplace : tree.place? names = some place)
    (hshort : component.utf8ByteSize ≤ longestName) (hinside : component = ".." → names ≠ []) :
    place.follow component = .ok next ↔
      place.node.found = .directory ∧ tree.place? (onward names component) = some next := by
  cases hnode : place.node with
  | file content => simp [Place.follow, hnode, Node.found]
  | directory entries =>
      simp only [Place.follow, hnode, Node.found, true_and]
      by_cases hstay : component = "" ∨ component = "."
      · rw [if_pos hstay, onward, if_pos hstay, hplace, Except.ok.injEq, Option.some.injEq]
      rw [if_neg hstay, onward, if_neg hstay]
      by_cases hback : component = ".."
      · rw [if_pos hback, if_pos hback]
        -- The names are not exhausted, so going back finds the place that their last name was
        -- looked up from.
        obtain ⟨front, last, rfl⟩ : ∃ front last, names = front ++ [last] :=
          ⟨_, _, (List.dropLast_concat_getLast (hinside hback)).symm⟩
        obtain ⟨outer, houter, haround⟩ := around_of_place? hplace
        simp only [haround, List.dropLast_concat, houter, Except.ok.injEq, Option.some.injEq]
      · rw [if_neg hback, if_neg hback, if_neg (Nat.not_lt.mpr hshort), place?_concat, hplace,
          Option.bind_some, Place.into, hnode]
        simp only [Node.at?]
        cases Tree.at? entries component <;> simp

/-! ## Looking up a path -/

/-- Whether a path has components that can be names and stays below the working directory. -/
structure Within (path : List String) : Prop where
  short : ∀ component ∈ path, component.utf8ByteSize ≤ longestName
  inside : ∀ front, front ++ [".."] <+: path → namesOf front ≠ []

theorem Within.of_concat (h : Within (path ++ [component])) : Within path where
  short other hother := h.short other (List.mem_append_left _ hother)
  inside front hfront := h.inside front (hfront.trans (List.prefix_append _ _))

/-- Whether there is a directory before every component of a path. -/
def Tree.Passable (tree : Tree) (path : List String) : Prop :=
  ∀ front component, front ++ [component] <+: path →
    tree.found? (namesOf front) = some .directory

theorem passable_concat : tree.Passable (path ++ [component]) ↔
    tree.Passable path ∧ tree.found? (namesOf path) = some .directory := by
  constructor
  · intro h
    exact ⟨fun front other hfront => h front other (hfront.trans (List.prefix_append _ _)),
      h path component List.prefix_rfl⟩
  · rintro ⟨hpath, hend⟩ front other hfront
    rcases List.prefix_concat_iff.mp hfront with hsame | hfront
    · rwa [(List.append_inj' hsame rfl).1]
    · exact hpath front other hfront

/-- A path is followed through directories to the place at the end of its names. -/
theorem foldlM_follow_eq_ok_iff (tree : Tree) (hpath : Within path) (place : Place) :
    path.foldlM Place.follow ⟨.directory tree, []⟩ = .ok place ↔
      tree.Passable path ∧ tree.place? (namesOf path) = some place := by
  induction path using List.reverseRecOn generalizing place with
  | nil =>
      have hpassable : tree.Passable [] := fun front component hfront => by simp at hfront
      simp [hpassable, namesOf, Tree.place?, pure, Except.pure]
  | append_singleton path component ih =>
      have hshort := hpath.short component (by simp)
      have hinside : component = ".." → namesOf path ≠ [] := by
        rintro rfl
        exact hpath.inside path List.prefix_rfl
      rw [passable_concat, namesOf_concat]
      simp only [List.foldlM_append, List.foldlM_cons, List.foldlM_nil, bind_pure]
      constructor
      · intro h
        obtain ⟨before, hbefore, h⟩ := Json.bind_eq_ok h
        obtain ⟨hpassable, hplace⟩ := (ih hpath.of_concat before).mp hbefore
        obtain ⟨hdirectory, hnext⟩ := (follow_eq_ok_iff hplace hshort hinside).mp h
        refine ⟨⟨hpassable, ?_⟩, hnext⟩
        rw [found?_eq_map_place?, hplace, Option.map_some, hdirectory]
      · rintro ⟨⟨hpassable, hdirectory⟩, hnext⟩
        rw [found?_eq_map_place?] at hdirectory
        obtain ⟨before, hbefore, hfound⟩ := Option.map_eq_some_iff.mp hdirectory
        rw [(ih hpath.of_concat before).mpr ⟨hpassable, hbefore⟩]
        exact (follow_eq_ok_iff hbefore hshort hinside).mpr ⟨hfound, hnext⟩

/-- Whether a path leads from the working directory to a place below it. -/
structure Proper (path : String) : Prop where
  nonempty : path ≠ ""
  short : path.utf8ByteSize ≤ longestPath
  withoutNul : path.contains '\x00' = false
  relative : path.startsWith "/" = false
  within : Within (components path)

/-- What is found under a path is what its names lead down to, if there is a directory before
every component of it. -/
theorem lookup_eq_ok_iff {path : String} (hpath : Proper path) :
    tree.lookup path = .ok found ↔
      tree.Passable (components path) ∧ tree.found? (namesOf (components path)) = some found := by
  have hfollow := foldlM_follow_eq_ok_iff tree hpath.within
  simp only [Tree.lookup, hpath.withoutNul, hpath.nonempty, hpath.relative,
    Nat.not_lt.mpr hpath.short, Bool.false_eq_true, if_false]
  rw [found?_eq_map_place?, Option.map_eq_some_iff]
  cases hreached : (components path).foldlM Place.follow ⟨.directory tree, []⟩ with
  | error obstacle =>
      constructor
      · intro h
        contradiction
      · rintro ⟨hpassable, place, hplace, -⟩
        rw [(hfollow place).mpr ⟨hpassable, hplace⟩] at hreached
        contradiction
  | ok place =>
      obtain ⟨hpassable, hplace⟩ := (hfollow place).mp hreached
      simp [hpassable, hplace]

/-! ## Directories -/

/-- What is found stays, unless a directory takes the place of a file. -/
theorem found?_enter_of_kept (h : tree.found? names = some found)
    (hkept : found = .directory ∨ ∀ front, front <+: path → ¬ names <+: namesOf front) :
    (tree.enter [] path).found? names = some found := by
  rcases hkept with rfl | hkept
  · exact found?_enter_of_directory h
  · rw [found?_enter_of_not_visited hkept, h]

/-- A directory is found under the path that it was put under. -/
theorem lookup_withDirectory (tree : Tree) {path : String} (hpath : Proper path) :
    (tree.withDirectory path).lookup path = .ok .directory := by
  refine (lookup_eq_ok_iff hpath).mpr ⟨fun front component hfront => ?_, ?_⟩
  · exact found?_enter_of_visited ((List.prefix_append _ _).trans hfront) List.prefix_rfl
  · exact found?_enter_of_visited List.prefix_rfl List.prefix_rfl

/-- What is found under other paths stays, unless a directory takes the place of a file. -/
theorem lookup_withDirectory_of_ok {path other : String} (hother : Proper other)
    (h : tree.lookup other = .ok found)
    (hkept : found = .directory ∨
      ∀ front, front <+: components path → ¬ namesOf (components other) <+: namesOf front) :
    (tree.withDirectory path).lookup other = .ok found := by
  obtain ⟨hpassable, hfound⟩ := (lookup_eq_ok_iff hother).mp h
  refine (lookup_eq_ok_iff hother).mpr ⟨fun front component hfront => ?_, ?_⟩
  · exact found?_enter_of_directory (hpassable front component hfront)
  · exact found?_enter_of_kept hfound hkept

/-! ## Files -/

/-- Whether a file can be put under a path: the path ends with the name of the file and does not
come through the file itself. -/
structure ProperFile (path : String) : Prop extends Proper path where
  named : (components path).getLastD "" ∉ ["", ".", ".."]
  apart : ∀ front, front <+: (components path).dropLast →
    ¬ namesOf (components path) <+: namesOf front

theorem splitSlashes_ne_nil (text : List Char) : splitSlashes text ≠ [] := by
  induction text with
  | nil => simp [splitSlashes]
  | cons c rest ih =>
      obtain ⟨piece, pieces, hsplit⟩ := List.exists_cons_of_ne_nil ih
      by_cases hslash : c = '/' <;> simp [splitSlashes, hsplit, hslash]

theorem components_ne_nil (path : String) : components path ≠ [] := by
  simpa [components] using splitSlashes_ne_nil path.toList

theorem dropLast_components_concat (path : String) :
    (components path).dropLast ++ [(components path).getLastD ""] = components path := by
  rw [List.getLastD_eq_getLast?, List.getLast?_eq_some_getLast (components_ne_nil path)]
  exact List.dropLast_concat_getLast (components_ne_nil path)

theorem beginning_of_dropLast {path : String} (h : front <+: (components path).dropLast) :
    front <+: components path :=
  h.trans ⟨_, dropLast_components_concat path⟩

theorem dropLast_of_beginning {path : String} (h : front ++ [component] <+: components path) :
    front <+: (components path).dropLast := by
  rw [← dropLast_components_concat path] at h
  rcases List.prefix_concat_iff.mp h with hsame | hfront
  · exact (List.append_inj' hsame rfl).1 ▸ List.prefix_rfl
  · exact (List.prefix_append _ _).trans hfront

theorem namesOf_components {path : String}
    (hnamed : (components path).getLastD "" ∉ ["", ".", ".."]) :
    namesOf (components path) =
      namesOf (components path).dropLast ++ [(components path).getLastD ""] := by
  rw [← onward_of_name _ hnamed, ← namesOf_concat, dropLast_components_concat]

theorem found?_withFile (tree : Tree) {path : String} (hpath : ProperFile path)
    (content : ByteArray) (names : List String) :
    (tree.withFile path content).found? names =
      if names <+: namesOf (components path).dropLast then some .directory
      else if names = namesOf (components path) then some (.file content)
      else if namesOf (components path) <+: names then none
      else (tree.enter [] (components path).dropLast).found? names := by
  rw [namesOf_components hpath.named]
  exact found?_addFile _ _ _ _ _

/-- A file is found under the path that it was put under. -/
theorem lookup_withFile (tree : Tree) {path : String} (hpath : ProperFile path)
    (content : ByteArray) :
    (tree.withFile path content).lookup path = .ok (.file content) := by
  refine (lookup_eq_ok_iff hpath.toProper).mpr ⟨fun front component hfront => ?_, ?_⟩
  · have hdirectory := dropLast_of_beginning hfront
    have haway := hpath.apart front hdirectory
    have hother : namesOf front ≠ namesOf (components path) :=
      fun hsame => haway (hsame ▸ List.prefix_rfl)
    rw [found?_withFile tree hpath, if_neg hother, if_neg haway,
      found?_enter_of_visited hdirectory List.prefix_rfl, ite_self]
  · rw [found?_withFile tree hpath, if_neg (hpath.apart _ List.prefix_rfl), if_pos rfl]

/-- What is found stays, unless it is the new file, or is behind it, or a directory on the way to
the new file takes its place. -/
theorem found?_withFile_of_kept {path : String} (hpath : ProperFile path)
    (h : tree.found? names = some found)
    (hkept : found = .directory ∨ ∀ front, front <+: (components path).dropLast →
      ¬ names <+: namesOf front)
    (haway : ¬ namesOf (components path) <+: names) :
    (tree.withFile path content).found? names = some found := by
  rw [found?_withFile tree hpath]
  by_cases hvisited : names <+: namesOf (components path).dropLast
  · rw [if_pos hvisited, hkept.resolve_right fun hkept => hkept _ List.prefix_rfl hvisited]
  · have hother : names ≠ namesOf (components path) :=
      fun hsame => haway (hsame ▸ List.prefix_rfl)
    rw [if_neg hvisited, if_neg hother, if_neg haway, found?_enter_of_kept h hkept]

/-- What is found under other paths stays, unless they come to the new file, or a directory on
the way to the new file takes its place. -/
theorem lookup_withFile_of_ok {path other : String} (hpath : ProperFile path)
    (hother : Proper other) (h : tree.lookup other = .ok found)
    (hkept : found = .directory ∨ ∀ front, front <+: (components path).dropLast →
      ¬ namesOf (components other) <+: namesOf front)
    (haway : ∀ front, front <+: components other →
      ¬ namesOf (components path) <+: namesOf front) :
    (tree.withFile path content).lookup other = .ok found := by
  obtain ⟨hpassable, hfound⟩ := (lookup_eq_ok_iff hother).mp h
  refine (lookup_eq_ok_iff hother).mpr ⟨fun front component hfront => ?_, ?_⟩
  · exact found?_withFile_of_kept hpath (hpassable front component hfront) (Or.inl rfl)
      (haway front ((List.prefix_append _ _).trans hfront))
  · exact found?_withFile_of_kept hpath hfound hkept (haway _ List.prefix_rfl)

/-- A text that was put under a path is what a run reads there. -/
theorem holds_withFile (tree : Tree) {path : String} (hpath : ProperFile path) (text : String) :
    Holds (tree.withFile path text.toUTF8).lookup path text :=
  lookup_withFile tree hpath text.toUTF8

/-! ## Paths of names -/

/-- Whether a path is made of names only. -/
structure OfNames (path : String) : Prop where
  short : path.utf8ByteSize ≤ longestPath
  withoutNul : path.contains '\x00' = false
  named : ∀ component ∈ components path,
    component ∉ ["", ".", ".."] ∧ component.utf8ByteSize ≤ longestName

theorem namesOf_eq_self (h : ∀ component ∈ path, component ∉ ["", ".", ".."]) :
    namesOf path = path := by
  induction path using List.reverseRecOn with
  | nil => rfl
  | append_singleton path component ih =>
      rw [namesOf_concat, ih fun other hother => h other (List.mem_append_left _ hother),
        onward_of_name _ (h component (by simp))]

theorem OfNames.namesOf_eq {path : String} (h : OfNames path) (hfront : front <+: components path) :
    namesOf front = front :=
  namesOf_eq_self fun component hcomponent => (h.named component (hfront.subset hcomponent)).1

theorem not_startsWith_slash {path : String} (h : "" ∉ components path) :
    path.startsWith "/" = false := by
  rw [String.startsWith_string_eq_false_iff]
  rintro ⟨rest, hpath⟩
  apply h
  rw [components, ← hpath]
  obtain ⟨piece, pieces, hsplit⟩ := List.exists_cons_of_ne_nil (splitSlashes_ne_nil rest)
  simp [splitSlashes, hsplit]

/-- A file can be put under every path that is made of names only. -/
theorem OfNames.properFile {path : String} (h : OfNames path) : ProperFile path where
  nonempty := by
    rintro rfl
    exact absurd (h.named "" (by decide)).1 (by decide)
  short := h.short
  withoutNul := h.withoutNul
  relative := not_startsWith_slash fun hempty => absurd (h.named "" hempty).1 (by decide)
  within :=
    { short := fun component hcomponent => (h.named component hcomponent).2
      inside := fun front hfront =>
        absurd (h.named ".." (hfront.subset (by simp))).1 (by decide) }
  named := by
    refine (h.named _ ?_).1
    rw [← dropLast_components_concat path]
    simp
  apart front hfront hbehind := by
    have hbeginning := beginning_of_dropLast hfront
    rw [h.namesOf_eq List.prefix_rfl, h.namesOf_eq hbeginning] at hbehind
    have hlength := (hbehind.trans hfront).length_le
    have hpositive := List.length_pos_iff.mpr (components_ne_nil path)
    rw [List.length_dropLast] at hlength
    omega

example : OfNames "data/default.yant" := ⟨by decide, by cbv, by decide⟩

/-- Whether neither of two paths leads through the end of the other. -/
def Apart (path other : String) : Prop :=
  ¬ components path <+: components other ∧ ¬ components other <+: components path

theorem Apart.symm {path other : String} (h : Apart path other) : Apart other path := And.symm h

/-- A new file changes nothing under a path that is apart from its own. -/
theorem lookup_withFile_of_apart {path other : String} (hpath : OfNames path)
    (hother : OfNames other) (hapart : Apart path other) (h : tree.lookup other = .ok found) :
    (tree.withFile path content).lookup other = .ok found := by
  obtain ⟨hbefore, hbehind⟩ := hapart
  refine lookup_withFile_of_ok hpath.properFile hother.properFile.toProper h (Or.inr ?_) ?_
  · intro front hfront hvisited
    have hbeginning := beginning_of_dropLast hfront
    rw [hother.namesOf_eq List.prefix_rfl, hpath.namesOf_eq hbeginning] at hvisited
    exact hbehind (hvisited.trans hbeginning)
  · intro front hfront hvisited
    rw [hpath.namesOf_eq List.prefix_rfl, hother.namesOf_eq hfront] at hvisited
    exact hbefore (hvisited.trans hfront)

/-- A tree with several files, one put after the other. -/
def Tree.withFiles (tree : Tree) (files : List (String × ByteArray)) : Tree :=
  files.foldl (fun tree file => tree.withFile file.1 file.2) tree

theorem withFiles_cons (tree : Tree) (file : String × ByteArray)
    (files : List (String × ByteArray)) :
    tree.withFiles (file :: files) = (tree.withFile file.1 file.2).withFiles files := rfl

theorem lookup_withFiles_of_apart {files : List (String × ByteArray)} {other : String}
    (hfiles : ∀ file ∈ files, OfNames file.1 ∧ Apart file.1 other) (hother : OfNames other)
    (h : tree.lookup other = .ok found) : (tree.withFiles files).lookup other = .ok found := by
  induction files generalizing tree with
  | nil => exact h
  | cons file files ih =>
      obtain ⟨hfile, hapart⟩ := hfiles file (List.mem_cons_self ..)
      rw [withFiles_cons]
      exact ih (fun further hfurther => hfiles further (List.mem_cons_of_mem _ hfurther))
        (lookup_withFile_of_apart hfile hother hapart h)

/-- Each of several files is found, as long as none of their paths leads through another one. -/
theorem lookup_withFiles (tree : Tree) {files : List (String × ByteArray)}
    (hnames : ∀ file ∈ files, OfNames file.1)
    (hapart : files.Pairwise fun first second => Apart first.1 second.1) :
    ∀ file ∈ files, (tree.withFiles files).lookup file.1 = .ok (.file file.2) := by
  induction files generalizing tree with
  | nil => simp
  | cons first files ih =>
      obtain ⟨hfirst, hrest⟩ := List.pairwise_cons.mp hapart
      have hnamed : OfNames first.1 := hnames first (List.mem_cons_self ..)
      have hothers : ∀ file ∈ files, OfNames file.1 := fun file hfile =>
        hnames file (List.mem_cons_of_mem _ hfile)
      have hclear : ∀ file ∈ files, OfNames file.1 ∧ Apart file.1 first.1 := fun file hfile =>
        ⟨hothers file hfile, (hfirst file hfile).symm⟩
      intro file hfile
      rw [withFiles_cons]
      rcases List.mem_cons.mp hfile with rfl | hfile
      · exact lookup_withFiles_of_apart hclear hnamed
          (lookup_withFile tree hnamed.properFile file.2)
      · exact ih (tree.withFile first.1 first.2) hothers hrest file hfile

end EbnfLexer.Files
