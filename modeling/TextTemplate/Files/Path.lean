import TextTemplate.Text.Search

/-!
Paths of files and folders, as the names on the way to them. The name of two points leads back to
the folder around.
-/

namespace TextTemplate

/-- A path from the place where all paths start. -/
structure Path where
  names : List String
  deriving DecidableEq

namespace Path

/-- The path that a text denotes. Empty names and single points lead nowhere and are left out. -/
def ofText (s : String) : Path :=
  ⟨((Text.pieces ['/'] s.toList).map String.ofList).filter fun name => name != "" && name != "."⟩

def text (path : Path) : String :=
  if path.names.isEmpty then "." else "/".intercalate path.names

/-- The path to something inside a folder. -/
def child (path : Path) (name : String) : Path := ⟨path.names ++ [name]⟩

end Path

end TextTemplate
