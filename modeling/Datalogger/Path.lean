/-!
Paths of files, with slashes between their components. A path names a file by its last component;
empty components and single points after it do not count.
-/

namespace Datalogger.Path

def dropTail : List Char → List Char
  | '/' :: rest => dropTail rest
  | '.' :: '/' :: rest => dropTail rest
  | cs => cs

def stem (path : String) : List Char :=
  (dropTail path.toList.reverse).reverse

def fileName? (path : String) : Option (List Char) :=
  let name := ((stem path).reverse.takeWhile (· ≠ '/')).reverse
  if name = [] || name = ['.'] || name = ['.', '.'] then none else some name

/-- What follows the last point of the file name, unless that is its first character. -/
def extension? (path : String) : Option String := do
  let name ← fileName? path
  let tail := (name.reverse.takeWhile (· ≠ '.')).reverse
  if name.length ≤ tail.length + 1 then none else some (String.ofList tail)

/-- Gives a path an extension unless it has one or names no file. -/
def withDefaultExtension (path extension : String) : String :=
  if (extension? path).isSome || (fileName? path).isNone then path
  else String.ofList (stem path) ++ "." ++ extension

def addFront (c : Char) : List (List Char) → List (List Char)
  | [] => if c = '/' then [[], []] else [[c]]
  | part :: rest => if c = '/' then [] :: part :: rest else (c :: part) :: rest

def components (path : String) : List String :=
  ((path.toList.foldr addFront []).filter (· ≠ [])).map String.ofList

/-- Written with a slash at its end, which only a directory can be. -/
def endsInSlash (path : String) : Bool :=
  path.toList.getLast? = some '/'

end Datalogger.Path
