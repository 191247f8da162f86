import TableThrift.Readers.Partial
import TableThrift.Readers.Yaml.Document

/-!
# Options in YAML

Options are a mapping with the two keys. Any scalar is taken as its text, whatever it might mean
by itself. An empty node stands for options without keys and for an empty list. Other keys are
skipped with their values; a key of the options must not come twice.

## Main definitions

* `Options.Yaml.text?`, `Options.Yaml.texts?`: a string and a list of strings
* `Options.Yaml.member?`: what a key and its value give
* `Options.ofYaml`: the options of a whole text
-/

namespace TableThrift.Options

namespace Yaml

open TableThrift.Yaml

/-- The node that a node stands for: the one that it names if it is a reference. -/
def resolve? (root : Node) (n : Node) : Option Node :=
  match n.bare with
  | .reference number => (root.target? number).map Node.bare
  | n => some n

/-- The text of a scalar. -/
def text? (root : Node) (n : Node) : Option Text :=
  match resolve? root n with
  | some (.scalar text _) => some text
  | _ => none

/-- The texts of a sequence of scalars, or of an empty node. -/
def texts? (root : Node) (n : Node) : Option (List Text) :=
  match resolve? root n with
  | some (.sequence items) => items.mapM (text? root)
  | some (.scalar [] true) => some []
  | _ => none

/-- What is read of the options after a key with its value. -/
def member? (root : Node) (seen : Partial) (pair : Node × Node) : Option Partial := do
  let word ← text? root pair.1
  match Key.ofWord? word with
  | none => return seen
  | some key =>
    if seen.has key then none
    else
      match key with
      | .tablePrefix => return { seen with tablePrefix := some (← text? root pair.2) }
      | .ignored => return { seen with ignored := some (← texts? root pair.2) }

/-- The options of a document. -/
def ofNode? (root : Node) : Option Options :=
  match root.bare with
  | .mapping pairs => (pairs.foldlM (member? root) {}).map Partial.complete
  | .scalar [] true => some {}
  | _ => none

end Yaml

/-- The options of a whole text. -/
def ofYaml (t : Text) : Option Options :=
  match TableThrift.Yaml.document? t with
  | none => none
  | some none => some {}
  | some (some root) => Yaml.ofNode? root

end TableThrift.Options
