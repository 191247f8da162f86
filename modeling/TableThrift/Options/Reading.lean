import TableThrift.Options.File
import TableThrift.Options.Spelling

/-!
# What readers of options promise

The readers of options files come from outside. A reader takes a text apart and hands over the
members in it, one after the other; what they come to is the same for both formats. The laws below
are what is documented of these parts, and all that is assumed of them.

## Main definitions

* `Options.Member.assign`, `Options.Member.mapWords?`: a member as a change of options, and with its
  words replaced
* `Options.FillLaws`: what members come to that are handed over in order
* `Options.JsonLaws`, `Options.YamlLaws`: which members a reader of JSON and one of YAML hand over
-/

namespace TableThrift.Options

namespace Member

/-- The options with the value of a member in place of the one there. -/
def assign (o : Options) : Member → Options
  | tablePrefix value => { o with tablePrefix := value }
  | ignored values => { o with ignored := values }
  | other _ _ => o

/-- The member with its words replaced, if all of them can be. -/
def mapWords? (scalar? : Text → Option Text) : Member → Option Member
  | tablePrefix value => (scalar? value).map tablePrefix
  | ignored values => (values.mapM scalar?).map ignored
  | other word unknown => some (other word unknown)

end Member

/-- What is documented of options that are filled from members, one after the other. Members that
are refused come to nothing. -/
structure FillLaws (fill? : List Member → Option Options) : Prop where
  /-- Without members all options have their defaults. -/
  nil : fill? [] = some {}
  /-- A member whose key is new sets its option. One that names no option is passed over. -/
  fresh : ∀ ms m, (∀ key, m.key? = some key → key ∉ keys ms) →
    fill? (ms ++ [m]) = (fill? ms).map m.assign
  /-- A member whose key has come before is refused. -/
  repeated : ∀ ms m key, m.key? = some key → key ∈ keys ms → fill? (ms ++ [m]) = none

/-- What is documented of a reader of JSON: it takes every text of the grammar, and hands over the
members in it. -/
structure JsonLaws (read : Text → Except Text Options) (fill? : List Member → Option Options) :
    Prop where
  /-- The members of an object are handed over in their order, with their strings as they are
  spelled. A value that no option has is skipped, whatever it is. -/
  object : ∀ ms text, ObjectText ms text → (read text).toOption = fill? ms
  /-- The values of a sequence are handed over as those of the options in their order. -/
  sequence : ∀ p g ms text, ms <+: [.tablePrefix p, .ignored g] → SequenceText ms text →
    (read text).toOption = fill? ms

/-- What is documented of a reader of YAML, which takes a plain scalar as a string by `scalar?`. -/
structure YamlLaws (read : Text → Except Text Options) (scalar? : Text → Option Text)
    (fill? : List Member → Option Options) : Prop where
  /-- A plain scalar is taken as its text, also where it might mean something else. -/
  plain : ∀ w, Yaml.BareWord w → scalar? w = some w
  /-- The members of the lines are handed over in their order, with their scalars as strings. -/
  layout : ∀ ms text, LayoutText ms text →
    (read text).toOption = (ms.mapM (Member.mapWords? scalar?)).bind fill?

end TableThrift.Options
