import TableThrift.Text.Basic

/-!
# Tokens of YAML

## Main definitions

* `Yaml.Token`: the tokens
-/

namespace TableThrift.Yaml

/-- The tokens of a YAML text. Indentation is told by tokens that start and end collections. -/
inductive Token where
  /-- The version that a directive asks for. -/
  | version (major minor : Nat)
  /-- The tag handle that a directive defines. -/
  | handle (name : Text)
  /-- The mark that starts a document. -/
  | documentStart
  /-- The mark that ends a document. -/
  | documentEnd
  /-- The start of an indented sequence. -/
  | sequenceStart
  /-- The start of an indented mapping. -/
  | mappingStart
  /-- The end of an indented collection. -/
  | blockEnd
  /-- The bracket that opens a sequence. -/
  | sequenceOpen
  /-- The bracket that closes a sequence. -/
  | sequenceClose
  /-- The bracket that opens a mapping. -/
  | mappingOpen
  /-- The bracket that closes a mapping. -/
  | mappingClose
  /-- The dash in front of an item. -/
  | item
  /-- The comma between items in brackets. -/
  | comma
  /-- The start of a key. -/
  | key
  /-- The start of a value. -/
  | value
  /-- A reference to an anchored node by its name. -/
  | reference (name : Text)
  /-- The anchor of the next node. -/
  | anchor (name : Text)
  /-- A tag of the next node, by its handle; the handle of a whole address is empty. -/
  | tag (handle : Text)
  /-- A scalar, and whether it is plain. -/
  | scalar (text : Text) (isPlain : Bool)
deriving DecidableEq, Repr

/-- Whether a token is a directive. -/
def Token.isDirective : Token → Bool
  | version _ _ | handle _ => true
  | _ => false

end TableThrift.Yaml
