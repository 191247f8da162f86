import TableThrift.Text.Basic

/-!
# Paths

A path is a text of names with slashes between them; it is absolute if it starts with a slash.
Functions on paths work on the text alone and ask no file system.

## Main definitions

* `Path.join`: the path of a name in a directory
* `Path.names`: the names of a path
* `Path.parts`: its names without those that stay in place
* `Path.ancestors`: the path and the directories that it leads through, the nearest first
* `Path.fileName?`, `Path.extension?`: the last name, and what follows its last dot
-/

namespace TableThrift.Path

/-- Whether a path starts at the root. -/
def isAbsolute (path : Text) : Bool := path.head? == some '/'

/-- Whether a path ends with a slash. -/
def endsWithSlash (path : Text) : Bool := path.getLast? == some '/'

/-- The path of `name` in a directory. An absolute name stands for itself, and the empty directory
is the current one. -/
def join (directory name : Text) : Text :=
  if isAbsolute name then name
  else if directory = [] ∨ endsWithSlash directory then directory ++ name
  else directory ++ ['/'] ++ name

/-- The name that stays in a directory. -/
def here : Text := ['.']

/-- The name that leads to the directory above. -/
def above : Text := ['.', '.']

/-- The names of a path in order; doubled slashes and slashes at the ends do not count. -/
def names (path : Text) : List Text := (path.split '/').filter (· ≠ [])

/-- The names of a path that lead somewhere, with one `.` kept at the start of a relative path. -/
def parts (path : Text) : List Text :=
  match names path with
  | [] => []
  | first :: rest =>
    if first = here ∧ !isAbsolute path then first :: rest.filter (· ≠ here)
    else (first :: rest).filter (· ≠ here)

/-- The path with the given parts. -/
def ofParts (absolute : Bool) (ps : List Text) : Text :=
  (if absolute then ['/'] else []) ++ List.intercalate ['/'] ps

/-- The path and the directories that it leads through, the nearest first. -/
def ancestors (path : Text) : List Text :=
  path :: (List.range (parts path).length).reverse.map fun n =>
    ofParts (isAbsolute path) ((parts path).take n)

/-- The last name of a path; none if it stays in place or leads upwards. -/
def fileName? (path : Text) : Option Text :=
  (parts path).getLast?.filter fun name => name ≠ here ∧ name ≠ above

/-- What follows the last dot of the last name. A dot at the start of the name does not count. -/
def extension? (path : Text) : Option Text := do
  let name ← fileName? path
  let (stem, ext) ← Text.cutLast? ['.'] name
  if stem = [] then none else some ext

/-- The names in a path that must be looked up: a slash at the end asks for a directory. -/
def lookupNames (path : Text) : List Text :=
  names path ++ if endsWithSlash path then [here] else []

end TableThrift.Path
