import TextTemplate.Files.Path

/-!
Files and folders with what the files hold, and reading them as text.
-/

namespace TextTemplate

/-- Files and folders by their paths, which are free of names that lead back. A file or folder
stands in all folders that its path leads through. -/
structure FileTree where
  files : List (Path × ByteArray)
  folders : List Path

namespace FileTree

/-- Whether there is a folder at a path without names that lead back. -/
def hasFolder (tree : FileTree) (path : Path) : Bool :=
  path.names.isEmpty ||
    tree.folders.any (path.names.isPrefixOf ·.names) ||
    tree.files.any fun (file, _) => file != path && path.names.isPrefixOf file.names

/-- Follows names from a folder. Only from an existing folder is there a way back. -/
def follow? (tree : FileTree) (path : Path) : List String → Option Path
  | [] => some path
  | name :: rest =>
    if name == ".." then
      if tree.hasFolder path then tree.follow? ⟨path.names.dropLast⟩ rest else none
    else tree.follow? (path.child name) rest

/-- The path without names that lead back, none when it leads back from what is no folder. -/
def resolve? (tree : FileTree) (path : Path) : Option Path := tree.follow? ⟨[]⟩ path.names

/-- The most bytes that a name may have to be looked up in a folder. -/
def nameLimit : Nat := 255

/-- Whether looking up names from a folder on meets one that is too long. Only in an existing folder
is anything looked up. -/
def meetsLongName (tree : FileTree) (path : Path) : List String → Bool
  | [] => false
  | name :: rest =>
    tree.hasFolder path &&
      if name == ".." then tree.meetsLongName ⟨path.names.dropLast⟩ rest
      else nameLimit < name.utf8ByteSize || tree.meetsLongName (path.child name) rest

/-- Whether a path can be looked up at all. -/
def canFollow (tree : FileTree) (path : Path) : Bool := !tree.meetsLongName ⟨[]⟩ path.names

def isFolder (tree : FileTree) (path : Path) : Bool :=
  (tree.resolve? path).any tree.hasFolder

/-- What the file at a path holds, none when there is no file. -/
def bytes? (tree : FileTree) (path : Path) : Option ByteArray := do
  let path ← tree.resolve? path
  tree.files.lookup path

end FileTree

/-- Every way of ending a line becomes a line feed. -/
def Text.unifyLineEnds : List Char → List Char
  | '\r' :: '\n' :: rest => '\n' :: unifyLineEnds rest
  | '\r' :: rest => '\n' :: unifyLineEnds rest
  | c :: rest => c :: unifyLineEnds rest
  | [] => []

/-- The text that bytes encode, with one way of ending lines; none when they encode no text. -/
def Text.decode? (bytes : ByteArray) : Option String :=
  (String.fromUTF8? bytes).map fun s => String.ofList (Text.unifyLineEnds s.toList)

end TextTemplate
