import TableThrift.FileSystem.Path
import TableThrift.Json.Grammar
import TableThrift.Options.Basic
import TableThrift.Yaml.Printer

/-!
# Spellings of options

The texts that write given options, and the names of the files that hold them. In JSON the members
of an object may stand in any order, with others among them that are no options; in a sequence the
place of a value tells which option it is. In YAML each option has a line, and words go without
quotes.

## Main definitions

* `Options.Member`, `Options.ofMembers`: what an object or a sequence holds, and its options
* `Options.ObjectText`, `Options.SequenceText`: the texts of an object and of a sequence
* `Options.Member.Line`, `Options.LayoutText`: the line of an option and the texts of lines
* `Options.IsJsonPath`, `Options.IsYamlPath`: the paths of JSON files and of YAML files
-/

namespace TableThrift.Options

open TableThrift.Json

/-- A member of an object, with its key and its value. -/
inductive Member where
  | tablePrefix (value : Text)
  | ignored (values : List Text)
  /-- A member whose key is the word of no option. Its value does not matter. -/
  | other (word : Text) (unknown : ∀ key : Key, key.word ≠ word)

namespace Member

/-- The word of the key. -/
def word : Member → Text
  | tablePrefix _ => Key.tablePrefix.word
  | ignored _ => Key.ignored.word
  | other word _ => word

/-- The option that the key names. -/
def key? : Member → Option Key
  | tablePrefix _ => some .tablePrefix
  | ignored _ => some .ignored
  | other _ _ => none

/-- The table prefix in it. -/
def tablePrefix? : Member → Option Text
  | tablePrefix value => some value
  | _ => none

/-- The ignored columns in it. -/
def ignored? : Member → Option (List Text)
  | ignored values => some values
  | _ => none

/-- The ways to write the value: a string, a sequence of strings, or anything well-formed. -/
def Value : Member → Text → Prop
  | tablePrefix value => Quoted value
  | ignored values => Bracketed .sequence Quoted values
  | other _ _ => WellFormed .value

/-- The ways to write the member. -/
inductive Written (m : Member) : Text → Prop where
  | mk {k b c v : Text} (hk : Quoted m.word k) (hb : Blank b) (hc : Blank c) (hv : m.Value v) :
      Written m (k ++ (b ++ ':' :: (c ++ v)))

end Member

/-- The options that members name, in order. -/
def keys (ms : List Member) : List Key := ms.filterMap Member.key?

/-- The options that members give, empty where none of them does. -/
def ofMembers (ms : List Member) : Options where
  tablePrefix := (ms.findSome? Member.tablePrefix?).getD []
  ignored := (ms.findSome? Member.ignored?).getD []

/-- The texts of an object with given members. -/
def ObjectText (ms : List Member) : Text → Prop :=
  Document (Bracketed .object Member.Written ms)

/-- The texts of a sequence of the values of given members. -/
def SequenceText (ms : List Member) : Text → Prop :=
  Document (Bracketed .sequence Member.Value ms)

/-- The line of an option in YAML, without quotes. -/
inductive Member.Line : Member → Text → Prop where
  | tablePrefix {p : Text} (hp : Yaml.BareWord p) :
      Line (.tablePrefix p) ("table_prefix: ".toList ++ p ++ "\n".toList)
  | ignored {g : List Text} (hg : ∀ w ∈ g, Yaml.BareWord w) :
      Line (.ignored g)
        ("ignore_fields: [".toList ++ List.intercalate ", ".toList g ++ "]\n".toList)

/-- The texts of the lines of given options, in their order. -/
inductive LayoutText : List Member → Text → Prop where
  | nil : LayoutText [] []
  | cons {m : Member} {ms : List Member} {line t : Text} (hl : m.Line line)
      (ht : LayoutText ms t) : LayoutText (m :: ms) (line ++ t)

/-- The paths of JSON files: the name has a stem, and its extension is `json` in any case of the
letters. -/
inductive IsJsonPath : Text → Prop where
  | mk {directory stem ext : Text} (hs : stem ≠ [] ∧ '/' ∉ stem)
      (he : ext.map Char.toLower = "json".toList) :
      IsJsonPath (Path.join directory (stem ++ '.' :: ext))

/-- The paths of YAML files: the name has a stem, and its extension is `yaml` or `yml` in any case
of the letters. -/
inductive IsYamlPath : Text → Prop where
  | mk {directory stem ext : Text} (hs : stem ≠ [] ∧ '/' ∉ stem)
      (he : ext.map Char.toLower ∈ ["yaml".toList, "yml".toList]) :
      IsYamlPath (Path.join directory (stem ++ '.' :: ext))

end TableThrift.Options
