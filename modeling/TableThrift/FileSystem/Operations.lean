import TableThrift.FileSystem.Basic

/-!
# Operations on files and directories

Reading changes nothing. An operation that fails leaves the file system as it was, except that a
chain of directories may have been made in part.

## Main definitions

* `FileSystem.readBytes`, `FileSystem.readText`: the content of a file
* `FileSystem.makeDirectory`, `FileSystem.makeDirectories`: new directories
* `FileSystem.openEmpty`, `FileSystem.append`: a file that is written from its start
* `FileSystem.move`: a file that takes the place of another
-/

namespace TableThrift.FileSystem

/-- The bytes of the file at a path. -/
def readBytes (fs : FileSystem) (path : Text) : Except Problem ByteArray :=
  match fs.locate path with
  | .error p => .error p
  | .ok l =>
    match fs.lookup l with
    | none => .error .missing
    | some .directory => .error .isDirectory
    | some (.file content) => .ok content

/-- The text of the file at a path. -/
def readText (fs : FileSystem) (path : Text) : Except Problem Text :=
  match fs.readBytes path with
  | .error p => .error p
  | .ok content =>
    match Text.ofBytes? content with
    | none => .error .notText
    | some t => .ok t

/-- A new directory in an existing one. Slashes at the end of the path do not matter. -/
def makeDirectory (fs : FileSystem) (path : Text) : Except Problem FileSystem :=
  match fs.reach path (Path.names path) with
  | .error p => .error p
  | .ok l =>
    match fs.lookup l with
    | some _ => .error .occupied
    | none => .ok (fs.put l .directory)

/-- A directory at the first path, which may be there already; if a directory on the way is
missing, the rest of the list is made first. -/
def makeChain (fs : FileSystem) : List Text → FileSystem × Except Problem Unit
  | [] => (fs, .ok ())
  | path :: ancestors =>
    if path = [] then (fs, .ok ())
    else
      match fs.makeDirectory path with
      | .ok made => (made, .ok ())
      | .error .missing =>
        match makeChain fs ancestors with
        | (made, .error p) => (made, .error p)
        | (made, .ok ()) =>
          match made.makeDirectory path with
          | .ok made => (made, .ok ())
          | .error p => (made, if made.isDirectory path then .ok () else .error p)
      | .error p => (fs, if fs.isDirectory path then .ok () else .error p)

/-- A directory at a path and the directories that it leads through. What was made stays, also if
a later one fails. -/
def makeDirectories (fs : FileSystem) (path : Text) : FileSystem × Except Problem Unit :=
  fs.makeChain (Path.ancestors path)

/-- An empty file at a path, new or in place of the file there, and its location. -/
def openEmpty (fs : FileSystem) (path : Text) : Except Problem (FileSystem × Location) :=
  match fs.locate path with
  | .error p => .error p
  | .ok l =>
    match fs.lookup l with
    | some .directory => .error .isDirectory
    | _ => .ok (fs.put l (.file .empty), l)

/-- The file at a location with more bytes at its end; no change if there is no file. -/
def append (fs : FileSystem) (l : Location) (more : ByteArray) : FileSystem :=
  match fs.lookup l with
  | some (.file content) => fs.put l (.file (content ++ more))
  | _ => fs

/-- The file at `source` under the path `target`, in place of the file there. A directory there is
in the way, and one that the file itself stands below is reported as not empty. -/
def move (fs : FileSystem) (source target : Text) : Except Problem FileSystem :=
  match fs.locate source, fs.locate target with
  | .error p, _ => .error p
  | _, .error p => .error p
  | .ok l, .ok m =>
    match fs.lookup l with
    | none => .error .missing
    | some .directory => .error .isDirectory
    | some (.file content) =>
      if fs.lookup m = some .directory then
        .error (if m <+: l then .notEmpty else .isDirectory)
      else if l = m then .ok fs
      else .ok ((fs.erase l).put m (.file content))

end TableThrift.FileSystem
