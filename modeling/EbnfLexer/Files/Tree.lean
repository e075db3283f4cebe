import EbnfLexer.Files.Found

/-!
# Trees of files

A directory has entries under names, and an entry is a file or a directory
again.  A path is followed from a working directory, one component after the
other: an empty component and `.` stay, `..` goes back, and a name goes to an
entry.  All three need a directory to start from, so a slash at the end of a
path asks for a directory as well.

Only what is below the working directory is known.  Everything above it is one
directory without entries that can be named.
-/

namespace EbnfLexer.Files

/-- A file or a directory with its entries. -/
inductive Node where
  | file (content : ByteArray)
  | directory (entries : List (String × Node))

/-- The entries of a working directory. -/
abbrev Tree := List (String × Node)

/-! ## Paths -/

/-- The pieces of a text between slashes. -/
def splitSlashes : List Char → List (List Char)
  | [] => [[]]
  | c :: rest =>
    match splitSlashes rest with
    | [] => [[c]]
    | piece :: pieces => if c = '/' then [] :: piece :: pieces else (c :: piece) :: pieces

/-- The components of a path. -/
def components (path : String) : List String :=
  (splitSlashes path.toList).map String.ofList

/-- The greatest number of bytes in a component. -/
def longestName : Nat := 255

/-- The greatest number of bytes in a path. -/
def longestPath : Nat := 4095

/-! ## Following a path -/

/-- What exists at a node. -/
def Node.found : Node → Found
  | file content => .file content
  | directory _ => .directory

/-- The entry with a given name. -/
def Tree.at? (tree : Tree) (name : String) : Option Node :=
  (tree.find? fun entry => entry.1 == name).map Prod.snd

/-- A place in a tree: a node and the directories around it, the innermost first. -/
structure Place where
  node : Node
  around : List Node

/-- Above everything that is known. -/
def Place.outside : Place := ⟨.directory [], []⟩

/-- The place that one component of a path leads to. -/
def Place.follow (place : Place) (component : String) : Except Obstacle Place :=
  match place.node with
  | .file _ => .error .notDirectory
  | .directory entries =>
    if component = "" ∨ component = "." then .ok place
    else if component = ".." then
      match place.around with
      | [] => .ok .outside
      | node :: around => .ok ⟨node, around⟩
    else if component.utf8ByteSize > longestName then .error .nameTooLong
    else
      match Tree.at? entries component with
      | some node => .ok ⟨node, place.node :: place.around⟩
      | none => .error .missing

/-- What is found in a tree under a path. -/
def Tree.lookup (tree : Tree) : Lookup := fun path =>
  if path.contains '\x00' then .error .nulInName
  else if path = "" then .error .missing
  else if path.utf8ByteSize > longestPath then .error .nameTooLong
  else
    let start : Place := if path.startsWith "/" then .outside else ⟨.directory tree, []⟩
    match (components path).foldlM Place.follow start with
    | .ok place => .ok place.node.found
    | .error obstacle => .error obstacle

/-! ## Building trees -/

/-- A tree with an entry put in under a name, in the place of an earlier one. -/
def Tree.put (tree : Tree) (name : String) (node : Node) : Tree :=
  match tree with
  | [] => [(name, node)]
  | entry :: tree =>
    if entry.1 = name then (name, node) :: tree else entry :: Tree.put tree name node

/-- The entries of the directory with a given name; none where there is no directory. -/
def Tree.entries (tree : Tree) (name : String) : Tree :=
  match tree.at? name with
  | some (.directory entries) => entries
  | _ => []

/-- A tree in which the entries of the directory at the end of a chain of names are changed.  The
directories of the chain are made where they do not exist. -/
def Tree.change (alter : Tree → Tree) : List String → Tree → Tree
  | [], tree => alter tree
  | name :: names, tree =>
    tree.put name (.directory (Tree.change alter names (tree.entries name)))

/-- A tree with a chain of directories. -/
def Tree.addDirectory (tree : Tree) (names : List String) : Tree := Tree.change id names tree

/-- A tree with a file in the directory at the end of a chain of names. -/
def Tree.addFile (tree : Tree) (names : List String) (name : String) (content : ByteArray) : Tree :=
  Tree.change (fun entries => entries.put name (.file content)) names tree

/-- The names that lead down to where a component of a path leads from where some names lead.
Above the working directory there is nothing to go to. -/
def onward (names : List String) (component : String) : List String :=
  if component = "" ∨ component = "." then names
  else if component = ".." then names.dropLast
  else names ++ [component]

/-- The names that lead down to the end of a path. -/
def namesOf (path : List String) : List String := path.foldl onward []

/-- A tree with all the directories that a path comes through from where some names lead. -/
def Tree.enter (tree : Tree) (names : List String) : List String → Tree
  | [] => tree
  | component :: path =>
    Tree.enter (tree.addDirectory (onward names component)) (onward names component) path

/-- A tree with a directory under a path. -/
def Tree.withDirectory (tree : Tree) (path : String) : Tree := tree.enter [] (components path)

/-- A tree with a file under a path. -/
def Tree.withFile (tree : Tree) (path : String) (content : ByteArray) : Tree :=
  let directory := (components path).dropLast
  (tree.enter [] directory).addFile (namesOf directory) ((components path).getLastD "") content

end EbnfLexer.Files
