import TableThrift.FileSystem.Path

/-!
# A file system

A file system is a tree of directories and plain files with one working directory. A location is
the list of names that leads from the root to an entry; the root itself is always a directory.
There are no links, no other kinds of files and no permissions, and there is always room. What a
machine may refuse beyond that is a problem in its own words, and comes from outside.

## Main definitions

* `Location`, `Entry`, `FileSystem`: the tree
* `FileSystem.lookup`, `FileSystem.put`, `FileSystem.erase`: its entries
* `FileSystem.Problem`: what may go wrong, and its wording
* `FileSystem.locate`: the location that a path leads to

## Main results

* `FileSystem.lookup_put_self`, `FileSystem.lookup_put_of_ne`, `FileSystem.lookup_erase_self`,
  `FileSystem.lookup_erase_of_ne`: what a change does to each entry
-/

namespace TableThrift

/-- The names that lead from the root to an entry. -/
abbrev Location := List Text

/-- What stands at a location. -/
inductive Entry where
  | directory
  | file (content : ByteArray)

instance : DecidableEq Entry
  | .directory, .directory => .isTrue rfl
  | .directory, .file _ => .isFalse nofun
  | .file _, .directory => .isFalse nofun
  | .file a, .file b =>
    if h : a.data = b.data then .isTrue (congrArg Entry.file (ByteArray.ext h))
    else .isFalse fun he => h (congrArg ByteArray.data (Entry.file.inj he))

/-- The entries below the root, and the working directory. -/
structure FileSystem where
  entries : List (Location × Entry)
  current : Location

namespace FileSystem

/-! ## Entries -/

section Entries

/-- The entry at a location. -/
def lookup (fs : FileSystem) (l : Location) : Option Entry :=
  if l = [] then some .directory else fs.entries.lookup l

/-- The file system with a new entry at a location, in place of the one there. -/
def put (fs : FileSystem) (l : Location) (e : Entry) : FileSystem :=
  { fs with entries := (l, e) :: fs.entries.filter (·.1 ≠ l) }

/-- The file system without the entry at a location. -/
def erase (fs : FileSystem) (l : Location) : FileSystem :=
  { fs with entries := fs.entries.filter (·.1 ≠ l) }

theorem lookup_filter_of_ne {l m : Location} (h : l ≠ m) (entries : List (Location × Entry)) :
    (entries.filter (·.1 ≠ m)).lookup l = entries.lookup l := by
  induction entries with
  | nil => rfl
  | cons p ps ih =>
    obtain ⟨k, e⟩ := p
    by_cases hk : k = m
    · subst hk
      have hb : (l == k) = false := by simpa using h
      simp [List.lookup_cons, hb, ← ih]
    · by_cases hl : l = k
      · subst hl
        simp [hk]
      · have hb : (l == k) = false := by simpa using hl
        simp only [ne_eq, hk, not_false_eq_true, decide_true, List.filter_cons_of_pos,
          List.lookup_cons, hb]
        exact ih

theorem lookup_filter_self (l : Location) (entries : List (Location × Entry)) :
    (entries.filter (·.1 ≠ l)).lookup l = none := by
  induction entries with
  | nil => rfl
  | cons p ps ih =>
    obtain ⟨k, e⟩ := p
    by_cases hk : k = l
    · simpa [hk] using ih
    · have hb : (l == k) = false := by simpa using Ne.symm hk
      simp only [ne_eq, hk, not_false_eq_true, decide_true, List.filter_cons_of_pos,
        List.lookup_cons, hb]
      exact ih

@[simp] theorem lookup_root (fs : FileSystem) : fs.lookup [] = some .directory := by
  simp [lookup]

theorem lookup_put_self (fs : FileSystem) {l : Location} (h : l ≠ []) (e : Entry) :
    (fs.put l e).lookup l = some e := by
  simp [lookup, put, h]

theorem lookup_put_of_ne (fs : FileSystem) {l m : Location} (h : l ≠ m) (e : Entry) :
    (fs.put m e).lookup l = fs.lookup l := by
  have hb : (l == m) = false := by simpa using h
  simp only [lookup, put, List.lookup_cons, hb]
  rw [lookup_filter_of_ne h]

theorem lookup_erase_self (fs : FileSystem) {l : Location} (h : l ≠ []) :
    (fs.erase l).lookup l = none := by
  simp only [lookup, erase, h, if_false]
  exact lookup_filter_self l _

theorem lookup_erase_of_ne (fs : FileSystem) {l m : Location} (h : l ≠ m) :
    (fs.erase m).lookup l = fs.lookup l := by
  simp only [lookup, erase]
  rw [lookup_filter_of_ne h]

@[simp] theorem current_put (fs : FileSystem) (l : Location) (e : Entry) :
    (fs.put l e).current = fs.current := rfl

@[simp] theorem current_erase (fs : FileSystem) (l : Location) :
    (fs.erase l).current = fs.current := rfl

end Entries

/-! ## Problems -/

/-- What may go wrong with a path or a file. -/
inductive Problem where
  /-- There is no such entry. -/
  | missing
  /-- There is an entry already. -/
  | occupied
  /-- A directory is needed, and there is a file. -/
  | notDirectory
  /-- A file is needed, and there is a directory. -/
  | isDirectory
  /-- The place of a file is taken by a directory that the file stands below. -/
  | notEmpty
  /-- A name or a path is too long. -/
  | tooLong
  /-- A path holds the character that ends names. -/
  | nulInPath
  /-- The bytes of a file are not UTF-8. -/
  | notText
  /-- Something else, in the words of the machine. -/
  | other (message : Text)
deriving DecidableEq, Repr

/-- The wording of a problem. -/
def Problem.message : Problem → Text
  | missing => "No such file or directory (os error 2)".toList
  | occupied => "File exists (os error 17)".toList
  | notDirectory => "Not a directory (os error 20)".toList
  | isDirectory => "Is a directory (os error 21)".toList
  | notEmpty => "Directory not empty (os error 39)".toList
  | tooLong => "File name too long (os error 36)".toList
  | nulInPath => "file name contained an unexpected NUL byte".toList
  | notText => "stream did not contain valid UTF-8".toList
  | other message => message

/-! ## From paths to locations -/

section Paths

/-- The number of bytes that a name may have. -/
def nameLimit : Nat := 255

/-- The number of bytes that a path may have. -/
def pathLimit : Nat := 4095

/-- A name leads from a directory to the entry of that name, whether or not there is one. -/
def follow (fs : FileSystem) (l : Location) (name : Text) : Except Problem Location :=
  match fs.lookup l with
  | none => .error .missing
  | some (.file _) => .error .notDirectory
  | some .directory =>
    if name = Path.here then .ok l
    else if name = Path.above then .ok l.dropLast
    else if Text.byteSize name > nameLimit then .error .tooLong
    else .ok (l ++ [name])

/-- The names of a path are followed in order; the last one need not exist. -/
def walk (fs : FileSystem) : Location → List Text → Except Problem Location
  | l, [] => .ok l
  | l, name :: rest =>
    match fs.follow l name with
    | .error p => .error p
    | .ok m => walk fs m rest

/-- Where a path starts. -/
def start (fs : FileSystem) (path : Text) : Location :=
  if Path.isAbsolute path then [] else fs.current

/-- What is wrong with a path as a text. -/
def fault? (path : Text) : Option Problem :=
  if '\x00' ∈ path then some .nulInPath
  else if path = [] then some .missing
  else if Text.byteSize path > pathLimit then some .tooLong
  else none

/-- The location that a path leads to from a given list of names. -/
def reach (fs : FileSystem) (path : Text) (names : List Text) : Except Problem Location :=
  match fault? path with
  | some p => .error p
  | none => fs.walk (fs.start path) names

/-- The location of the entry that a path names, whether or not there is one. A slash at the end
asks for a directory. -/
def locate (fs : FileSystem) (path : Text) : Except Problem Location :=
  fs.reach path (Path.lookupNames path)

/-- Whether a path names a directory. -/
def isDirectory (fs : FileSystem) (path : Text) : Bool :=
  match fs.locate path with
  | .error _ => false
  | .ok l => fs.lookup l == some .directory

end Paths

end FileSystem

end TableThrift
