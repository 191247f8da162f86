import TableThrift.Readers.Yaml.Position
import TableThrift.Readers.Yaml.Property
import TableThrift.Readers.Yaml.Scalar.Block
import TableThrift.Readers.Yaml.Scalar.Plain
import TableThrift.Readers.Yaml.Scalar.Quoted

/-!
# From characters to tokens

Tokens are read from the left. Columns tell where indented collections start and end. A key is
only known by the colon behind it, so the place of every possible key is kept until its line ends,
and the token of the key is put there when the colon comes.

## Main definitions

* `Yaml.Candidate`: a place where a key may have started
* `Yaml.Layout`: what is left of a text, with the tokens so far and the open collections
* `Yaml.Layout.next`: one more token
* `Yaml.tokens?`: the tokens of a text
-/

namespace TableThrift.Yaml

/-- A place where a key may have started. -/
structure Candidate where
  position : Position
  /-- The number of tokens in front of it. -/
  count : Nat
  /-- Whether nothing but a key can start there. -/
  isRequired : Bool
deriving DecidableEq, Repr

/-- The reading of a text up to some place. -/
structure Layout where
  /-- What is left of the text. -/
  rest : Text
  /-- The position of the rest. -/
  position : Position := {}
  /-- Whether a key may start here. -/
  isKeyAllowed : Bool := true
  /-- The possible key within the innermost brackets. -/
  key : Option Candidate := none
  /-- The possible keys within the brackets around them, the innermost first. -/
  outer : List (Option Candidate) := []
  /-- The columns of the open indented collections, the innermost first. -/
  columns : List Nat := []
  /-- The tokens so far, the latest first. -/
  tokens : List Token := []
deriving DecidableEq, Repr

namespace Layout

/-! ## Places and columns -/

section Places

/-- Whether the place is between brackets. -/
def inFlow (s : Layout) : Bool := !s.outer.isEmpty

/-- The least column of a line within the innermost indented collection. -/
def least (s : Layout) : Nat := (s.columns.head?.map (· + 1)).getD 0

/-- The reading with `rest` left of the text. -/
def moveTo (s : Layout) (rest : Text) : Layout :=
  { s with rest, position := s.position.after (s.rest.take (s.rest.length - rest.length)) }

/-- The reading with one more token. -/
def emit (s : Layout) (token : Token) : Layout := { s with tokens := token :: s.tokens }

/-- The reading with one more token behind the first `count` ones. -/
def insert (s : Layout) (count : Nat) (token : Token) : Layout :=
  { s with tokens := s.tokens.insertIdx (s.tokens.length - count) token }

/-- The indented collections that satisfy `isOver` end; between brackets none does. -/
def close (s : Layout) (isOver : Nat → Bool) : Layout :=
  if s.inFlow then s
  else
    { s with
      columns := s.columns.dropWhile isOver,
      tokens := List.replicate (s.columns.takeWhile isOver).length .blockEnd ++ s.tokens }

/-- A collection starts behind the first `count` tokens, if it is indented further than the one
around it; between brackets none does. -/
def indent (s : Layout) (column count : Nat) (token : Token) : Layout :=
  if !s.inFlow ∧ s.least ≤ column then
    { s.insert count token with columns := column :: s.columns }
  else s

end Places

/-! ## Keys -/

section Keys

/-- The number of bytes within which the colon of a key must come. -/
def keyLimit : Nat := 1024

/-- Whether a place is too far away for a key: on another line, or too many bytes back. -/
def isStale (s : Layout) (c : Candidate) : Bool :=
  c.position.line < s.position.line || c.position.index + keyLimit < s.position.index

/-- The reading without the keys that are too far away. None if one of them is required. -/
def dropStale (s : Layout) : Option Layout :=
  if (s.key :: s.outer).any fun k => k.any fun c => s.isStale c && c.isRequired then none
  else
    some { s with
      key := s.key.filter fun c => !s.isStale c,
      outer := s.outer.map fun k => k.filter fun c => !s.isStale c }

/-- The reading without the innermost possible key. None if it is required. -/
def dropKey (s : Layout) : Option Layout :=
  if s.key.any Candidate.isRequired then none else some { s with key := none }

/-- The reading with a possible key here, if one may start here. It is required if it stands at
the column of its collection. -/
def saveKey (s : Layout) : Option Layout :=
  if s.isKeyAllowed then
    s.dropKey.map fun s' =>
      { s' with key := some ⟨s.position, s.tokens.length,
          !s.inFlow && s.columns.head? == some s.position.column⟩ }
  else some s

end Keys

/-! ## Space -/

section Space

/-- The text behind spaces, line breaks and comments, and whether there was a line break. Tabs
count as spaces where `tabs` says so, and between brackets. A byte order mark counts as a space
where it is the first character of a line. -/
def skipSpace (inFlow tabs inComment isFirst : Bool) : Text → Text × Bool
  | [] => ([], false)
  | c :: t =>
    if isBreak c then ((skipSpace inFlow inFlow false true t).1, true)
    else if inComment || c == ' ' || (tabs && c == '\t') || (isFirst && c == '\ufeff') then
      skipSpace inFlow tabs inComment false t
    else if c = '#' then skipSpace inFlow tabs true false t
    else (c :: t, false)

/-- The reading in front of the next token. Behind a line break a key may start. -/
def toToken (s : Layout) : Layout :=
  let (rest, isBroken) :=
    skipSpace s.inFlow (s.inFlow || !s.isKeyAllowed) false (s.position.column == 0) s.rest
  { s.moveTo rest with isKeyAllowed := s.isKeyAllowed || (isBroken && !s.inFlow) }

end Space

/-! ## Tokens -/

section Tokens

/-- A directive. -/
def directive (s : Layout) : Option Layout := do
  let s ← (s.close fun _ => true).dropKey
  let (token, rest) ← directiveToken (s.rest.drop 1)
  return { (s.moveTo rest).emit token with isKeyAllowed := false }

/-- A mark between documents. -/
def mark (s : Layout) (token : Token) : Option Layout := do
  let s ← (s.close fun _ => true).dropKey
  return { (s.moveTo (s.rest.drop 3)).emit token with isKeyAllowed := false }

/-- An opening bracket. -/
def openBracket (s : Layout) (token : Token) : Option Layout := do
  let s ← s.saveKey
  return { (s.moveTo (s.rest.drop 1)).emit token with
    key := none, outer := s.key :: s.outer, isKeyAllowed := true }

/-- A closing bracket. -/
def closeBracket (s : Layout) (token : Token) : Option Layout := do
  let s ← s.dropKey
  return { (s.moveTo (s.rest.drop 1)).emit token with
    key := s.outer.head?.getD none, outer := s.outer.drop 1, isKeyAllowed := false }

/-- A comma. -/
def comma (s : Layout) : Option Layout := do
  let s ← s.dropKey
  return { (s.moveTo (s.rest.drop 1)).emit .comma with isKeyAllowed := true }

/-- The reading with a collection started here. None outside brackets where no key may start. -/
def start (s : Layout) (token : Token) : Option Layout :=
  if !s.inFlow ∧ !s.isKeyAllowed then none
  else some (s.indent s.position.column s.tokens.length token)

/-- The dash of an item. -/
def item (s : Layout) : Option Layout := do
  let s ← s.start .sequenceStart
  let s ← s.dropKey
  return { (s.moveTo (s.rest.drop 1)).emit .item with isKeyAllowed := true }

/-- The question mark of a key. -/
def explicitKey (s : Layout) : Option Layout := do
  let s ← s.start .mappingStart
  let s ← s.dropKey
  return { (s.moveTo (s.rest.drop 1)).emit .key with isKeyAllowed := !s.inFlow }

/-- The colon of a value. If a key is possible, this is its colon. -/
def value (s : Layout) : Option Layout :=
  match s.key with
  | some k =>
    -- The key's own tokens are out already: the marks of the key and of a mapping go before them.
    let s := (s.insert k.count .key).indent k.position.column k.count .mappingStart
    some { (s.moveTo (s.rest.drop 1)).emit .value with key := none, isKeyAllowed := false }
  | none => do
    let s ← s.start .mappingStart
    return { (s.moveTo (s.rest.drop 1)).emit .value with isKeyAllowed := !s.inFlow }

/-- A token behind which no key may start, and which may itself be a key or its first part. -/
def content (s : Layout) (read : Option (Token × Text)) : Option Layout := do
  let s ← s.saveKey
  let (token, rest) ← read
  return { (s.moveTo rest).emit token with isKeyAllowed := false }

/-- A block scalar. -/
def blockScalar (s : Layout) (style : BlockStyle) : Option Layout := do
  let s ← s.dropKey
  let (text, rest) ← block style s.least (s.rest.drop 1)
  return { (s.moveTo rest).emit (.scalar text false) with isKeyAllowed := true }

/-- A plain scalar. Behind a line break a key may start. -/
def plainScalar (s : Layout) : Option Layout := do
  let s ← s.saveKey
  let p ← plain s.inFlow s.least s.rest
  return { (s.moveTo p.rest).emit (.scalar p.text true) with isKeyAllowed := p.isBroken }

/-- The characters that start no plain scalar by themselves. -/
def indicators : Text := "-?:,[]\x7b\x7d#&*!|>'\"%@\x60".toList

/-- Whether a plain scalar starts with a character in front of a text. -/
def startsPlain (inFlow : Bool) (c : Char) (t : Text) : Bool :=
  (!isSpace c && !indicators.contains c) || (c == '-' && !t.head?.any isBlank) ||
    (!inFlow && (c == '?' || c == ':') && !endsWord t)

/-- The reading with one more token. -/
def next (s : Layout) : Option Layout :=
  match s.rest with
  | [] => none
  | c :: t =>
    -- Directives and marks end every indented collection, so they are looked for first.
    if s.position.column = 0 ∧ c = '%' then s.directive
    else if s.position.column = 0 ∧ startsWithMark '-' (c :: t) then s.mark .documentStart
    else if s.position.column = 0 ∧ startsWithMark '.' (c :: t) then s.mark .documentEnd
    else if c = '[' then s.openBracket .sequenceOpen
    else if c = '{' then s.openBracket .mappingOpen
    else if c = ']' then s.closeBracket .sequenceClose
    else if c = '}' then s.closeBracket .mappingClose
    else if c = ',' then s.comma
    -- Indented structure. Between brackets a question mark or colon needs no space behind it.
    else if c = '-' ∧ endsWord t then s.item
    else if c = '?' ∧ (s.inFlow ∨ endsWord t) then s.explicitKey
    else if c = ':' ∧ (s.inFlow ∨ endsWord t) then s.value
    -- Nodes and their properties.
    else if c = '*' then s.content ((anchorName t).map fun p => (.reference p.1, p.2))
    else if c = '&' then s.content ((anchorName t).map fun p => (.anchor p.1, p.2))
    else if c = '!' then s.content (tagToken s.inFlow (c :: t))
    else if c = '|' ∧ !s.inFlow then s.blockScalar .literal
    else if c = '>' ∧ !s.inFlow then s.blockScalar .folded
    else if c = '\'' then s.content ((quoted .single t).map fun p => (.scalar p.1 false, p.2))
    else if c = '"' then s.content ((quoted .double t).map fun p => (.scalar p.1 false, p.2))
    else if startsPlain s.inFlow c t then s.plainScalar
    else none

/-- All tokens at the end of the text. -/
def finish (s : Layout) : Option (List Token) :=
  (s.close fun _ => true).dropKey.map fun s => s.tokens.reverse

/-- All tokens of the text, of which there are at most `bound` more. -/
def run (bound : Nat) (s : Layout) : Option (List Token) :=
  match bound with
  | 0 => none
  | bound + 1 => do
    let s ← s.toToken.dropStale
    -- A token ends the collections that are indented further than it.
    let s := s.close fun column => s.position.column < column
    if s.rest = [] then s.finish
    else
      let s ← s.next
      run bound s

end Tokens

end Layout

/-- The tokens of a text. Every token takes a character, so there are not more than those. -/
def tokens? (t : Text) : Option (List Token) :=
  if t.all isAllowed then Layout.run (t.length + 1) { rest := t } else none

end TableThrift.Yaml
