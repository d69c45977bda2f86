/-!
# Files by path

A directory holds files under their paths.  Two paths name the same file when they
have the same parts, the empty and single-dot ones left out, and either both begin
at the root or neither does.  A path that ends in such a part names no file.
-/

namespace MessageTemplate.Command

/-- Files with their contents. -/
abbrev Directory := List (String × String)

namespace Directory

/-- The parts of a path between its slashes. -/
def parts (path : String) : List (List Char) :=
  path.toList.splitOn '/'

/-- Whether a part of a path matters: it is neither empty nor a single dot. -/
def isReal (part : List Char) : Bool :=
  part != [] && part != ['.']

/-- The parts of a path that matter. -/
def realParts (path : String) : List (List Char) :=
  (parts path).filter isReal

/-- Whether the last part of a path could be the name of a file. -/
def endsInName (path : String) : Bool :=
  (parts path).getLast?.any isReal

/-- Whether a path begins at the root. -/
def isAbsolute (path : String) : Bool :=
  path.toList.head? == some '/'

/-- The content of the file that a path names. -/
def read? (directory : Directory) (path : String) : Option String :=
  if endsInName path then
    (directory.find? fun file =>
      isAbsolute file.1 == isAbsolute path && realParts file.1 == realParts path).map (·.2)
  else none

end Directory

end MessageTemplate.Command
