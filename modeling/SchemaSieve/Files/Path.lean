/-!
# Paths of files

Paths are texts with slashes between their parts. They are joined and shortened as texts, so what
is left of a path stays as it was written.
-/

namespace SchemaSieve.Files

def isAbsolute (path : String) : Bool := path.startsWith "/"

/-- A path seen from a directory. Nothing separates it from an empty directory or from one that ends
with a slash. -/
def join (directory path : String) : String :=
  if isAbsolute path then path
  else if directory.isEmpty || directory.endsWith "/" then directory ++ path
  else directory ++ "/" ++ path

/-- A reversed path without the slashes and the parts `.` at its end. -/
def trimEnd : List Char → List Char
  | '/' :: rest => trimEnd rest
  | ['.'] => []
  | '.' :: '/' :: rest => trimEnd rest
  | cs => cs

/-- What starts a path and is no separator in it: a slash, or a point that is a part. -/
def start : List Char → List Char
  | '/' :: _ => ['/']
  | ['.'] | '.' :: '/' :: _ => ['.']
  | _ => []

/-- The directory that a path stands in; the root and the empty path stand in none. -/
def parent? (path : String) : Option String :=
  let lead := start path.toList
  match trimEnd (path.toList.drop lead.length).reverse with
  | [] => if lead = ['.'] then some "" else none
  | cs => some (String.ofList (lead ++ (trimEnd ((cs.dropWhile (· != '/')).drop 1)).reverse))

end SchemaSieve.Files
