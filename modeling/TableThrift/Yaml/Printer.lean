import TableThrift.Text.Basic

/-!
# Mappings in YAML without quotes

The simplest mappings of YAML: each key has a line of its own, and its value is a word or a list of
words in brackets. A word of ASCII letters, digits and underscores stands for itself, also where
another reader would take it for a number or for `null`.

## Main definitions

* `Yaml.isBare`, `Yaml.BareWord`: the characters of such words, and the words
* `Yaml.PlainValue`, `Yaml.PlainValue.text`: the values and their texts
* `Yaml.entryText`, `Yaml.mappingText`: the line of a key with its value, and all lines
-/

namespace TableThrift.Yaml

/-- The characters of words that need no quotes: ASCII letters and digits, and underscores. -/
def isBare (c : Char) : Bool := c.isAlphanum || c == '_'

/-- A word of such characters, one at least. -/
def BareWord (t : Text) : Prop := t ≠ [] ∧ ∀ c ∈ t, isBare c = true

instance (t : Text) : Decidable (BareWord t) :=
  @instDecidableAnd (t ≠ []) _ _ (List.decidableBAll _ t)

/-- A value without quotes: a word, or words in brackets. -/
inductive PlainValue where
  | word (w : Text)
  | words (ws : List Text)
deriving DecidableEq, Repr

namespace PlainValue

/-- The text of a value. -/
def text : PlainValue → Text
  | word w => w
  | words ws => "[".toList ++ List.intercalate ", ".toList ws ++ "]".toList

/-- All words of a value need no quotes. -/
def Bare : PlainValue → Prop
  | word w => BareWord w
  | words ws => ∀ w ∈ ws, BareWord w

end PlainValue

/-- The line of a key with its value. -/
def entryText (entry : Text × PlainValue) : Text :=
  entry.1 ++ ": ".toList ++ entry.2.text ++ "\n".toList

/-- The lines of a mapping. -/
def mappingText (entries : List (Text × PlainValue)) : Text := (entries.map entryText).flatten

end TableThrift.Yaml
