import TableThrift.FileSystem.Operations
import TableThrift.Options.Basic

/-!
# Options files

An options file is read before its kind is looked at. The kind is told by the extension, in any
case of its letters. What reads the text of a file in either format comes from outside, and so do
the words for what is wrong with a text.

## Main definitions

* `Options.Format`, `Options.Format.ofPath?`: the kinds of options files
* `Options.Readers`: what reads the texts of files
* `Options.LoadError`: how loading may fail, with its wording
* `Options.ofText`, `Options.load`: the options of a text and of a file
-/

namespace TableThrift.Options

/-- The kinds of options files. -/
inductive Format where
  | json
  | yaml
deriving DecidableEq, Repr

namespace Format

/-- The word for it in a report. -/
def word : Format → Text
  | json => "JSON".toList
  | yaml => "YAML".toList

/-- The kind of options file with an extension. -/
def ofExtension? (ext : Text) : Option Format :=
  let lower := ext.map Char.toLower
  if lower = "json".toList then some json
  else if lower = "yaml".toList ∨ lower = "yml".toList then some yaml
  else none

/-- The kind of options file at a path. -/
def ofPath? (path : Text) : Option Format := (Path.extension? path).bind ofExtension?

end Format

/-- What reads options from the text of a file of each kind. Where it finds none, it says why. -/
abbrev Readers := Format → Text → Except Text Options

/-- How loading options from a path may fail. -/
inductive LoadError where
  /-- The file cannot be read. -/
  | unreadable (path : Text) (problem : FileSystem.Problem)
  /-- The extension tells no kind of options file. -/
  | unsupported (path : Text)
  /-- The text is no options file of its kind, as the reader says. -/
  | malformed (format : Format) (path cause : Text)
deriving DecidableEq, Repr

namespace LoadError

/-- The wording of the failure. -/
def message : LoadError → Text
  | unreadable path _ => "reading options ".toList ++ path
  | unsupported path =>
    "unsupported options file \x60".toList ++ path ++
      "\x60 (expected .json, .yaml or .yml)".toList
  | malformed format path _ => "parsing ".toList ++ format.word ++ " options ".toList ++ path

/-- The wording of what caused the failure. -/
def cause? : LoadError → Option Text
  | unreadable _ problem => some problem.message
  | unsupported _ => none
  | malformed _ _ cause => some cause

end LoadError

/-- The options of the text of the file at `path`. -/
def ofText (readers : Readers) (path text : Text) : Except LoadError Options :=
  match Format.ofPath? path with
  | none => .error (.unsupported path)
  | some format =>
    match readers format text with
    | .ok o => .ok o
    | .error cause => .error (.malformed format path cause)

/-- The options of the file at `path`, which `read` looks up. -/
def load (readers : Readers) (read : Text → Except FileSystem.Problem Text) (path : Text) :
    Except LoadError Options :=
  match read path with
  | .error problem => .error (.unreadable path problem)
  | .ok text => ofText readers path text

end TableThrift.Options
