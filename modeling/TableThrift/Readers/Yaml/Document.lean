import TableThrift.Readers.Yaml.Layout
import TableThrift.Readers.Yaml.Node

/-!
# From tokens to a document

A stream holds at most one document. Nodes are read by the shape of their tokens; an empty node
may be left out where a token tells its place.

## Main definitions

* `Yaml.Anchors`: the names of anchors so far with their numbers
* `Yaml.Properties`, `Yaml.properties`: the anchor and the tag of a node
* `Yaml.node`, `Yaml.content`, `Yaml.blockItems`, `Yaml.blockPairs`, `Yaml.flatItems`,
  `Yaml.flowItems`, `Yaml.flowPairs`: nodes and what they hold
* `Yaml.directives`: the tag handles of a document
* `Yaml.document?`: the document of a text
-/

namespace TableThrift.Yaml

/-! ## Anchors and properties -/

section Properties

/-- The names of anchors so far, each with its latest number. -/
abbrev Anchors := List (Text × Nat)

/-- The anchors with a new one. Its number is the number of names so far. -/
def Anchors.define (anchors : Anchors) (name : Text) : Anchors :=
  (name, anchors.length) :: anchors.filter (·.1 ≠ name)

/-- The properties in front of a node. -/
structure Properties where
  anchor : Option Text := none
  hasTag : Bool := false
deriving DecidableEq, Repr

/-- Whether a tag's handle is defined. The empty handle of a whole address always is. -/
def isDefined (handles : List Text) (handle : Text) : Bool :=
  handle.isEmpty || handles.contains handle

/-- The properties of a node, at most one of each kind in either order, and what is left. None if
a tag's handle is not defined. -/
def properties (handles : List Text) (ts : List Token) : Option (Properties × List Token) :=
  match ts with
  | .anchor name :: .tag handle :: ts =>
    if isDefined handles handle then some (⟨some name, true⟩, ts) else none
  | .tag handle :: .anchor name :: ts =>
    if isDefined handles handle then some (⟨some name, true⟩, ts) else none
  | .anchor name :: ts => some (⟨some name, false⟩, ts)
  | .tag handle :: ts => if isDefined handles handle then some (⟨none, true⟩, ts) else none
  | ts => some ({}, ts)

end Properties

/-! ## Nodes -/

section Nodes

/-- Where a node stands. -/
inductive Context where
  /-- Between brackets: no indented collections. -/
  | flow
  /-- Indented. -/
  | block
  /-- A key or a value of an indented mapping, where the items of a sequence need no further
  indentation. -/
  | blockPair
deriving DecidableEq, Repr

/-- What is read of the tokens, the anchors behind it, and the tokens that are left. -/
abbrev Parsed (α : Type) := α × Anchors × List Token

/-- Whether one of some tokens comes next. -/
def comes (among : List Token) (ts : List Token) : Bool := ts.head?.any among.contains

/-- The tokens that may follow a comma between brackets, or the opening bracket. -/
def afterComma (isFirst : Bool) (ts : List Token) : Option (List Token) :=
  if isFirst then some ts
  else
    match ts with
    | .comma :: ts => some ts
    | _ => none

mutual

/-- A node with its properties. -/
def node (bound : Nat) (handles : List Text) (context : Context) (anchors : Anchors)
    (ts : List Token) : Option (Parsed Node) :=
  match bound with
  | 0 => none
  | bound + 1 =>
    match ts with
    | .reference name :: ts =>
      (anchors.lookup name).map fun number => (.reference number, anchors, ts)
    | ts => do
      let (props, ts) ← properties handles ts
      match props.anchor with
      | none => content bound handles context props.hasTag anchors ts
      | some name =>
        -- The anchor counts within its own node.
        let (n, anchors', ts) ← content bound handles context true (anchors.define name) ts
        return (.anchored anchors.length n, anchors', ts)

/-- A node behind its properties. It may be left out if there are any. -/
def content (bound : Nat) (handles : List Text) (context : Context) (mayBeEmpty : Bool)
    (anchors : Anchors) (ts : List Token) : Option (Parsed Node) :=
  match bound with
  | 0 => none
  | bound + 1 =>
    match ts with
    | .scalar text isPlain :: ts => some (.scalar text isPlain, anchors, ts)
    | .sequenceOpen :: ts => do
      let (items, anchors, ts) ← flowItems bound handles true anchors ts
      return (.sequence items, anchors, ts)
    | .mappingOpen :: ts => do
      let (pairs, anchors, ts) ← flowPairs bound handles true anchors ts
      return (.mapping pairs, anchors, ts)
    | ts =>
      if context ≠ .flow ∧ comes [.sequenceStart] ts then do
        let (items, anchors, ts) ← blockItems bound handles anchors (ts.drop 1)
        return (.sequence items, anchors, ts)
      else if context ≠ .flow ∧ comes [.mappingStart] ts then do
        let (pairs, anchors, ts) ← blockPairs bound handles anchors (ts.drop 1)
        return (.mapping pairs, anchors, ts)
      else if context = .blockPair ∧ comes [.item] ts then do
        let (items, anchors, ts) ← flatItems bound handles anchors ts
        return (.sequence items, anchors, ts)
      else if mayBeEmpty then some (.empty, anchors, ts)
      else none

/-- A node, which is empty if one of some tokens comes next. -/
def nodeBefore (bound : Nat) (handles : List Text) (context : Context) (among : List Token)
    (anchors : Anchors) (ts : List Token) : Option (Parsed Node) :=
  match bound with
  | 0 => none
  | bound + 1 =>
    if comes among ts then some (.empty, anchors, ts) else node bound handles context anchors ts

/-- The items of an indented sequence up to its end. -/
def blockItems (bound : Nat) (handles : List Text) (anchors : Anchors) (ts : List Token) :
    Option (Parsed (List Node)) :=
  match bound with
  | 0 => none
  | bound + 1 =>
    match ts with
    | .item :: ts => do
      let (n, anchors, ts) ← nodeBefore bound handles .block [.item, .blockEnd] anchors ts
      let (ns, anchors, ts) ← blockItems bound handles anchors ts
      return (n :: ns, anchors, ts)
    | .blockEnd :: ts => some ([], anchors, ts)
    | _ => none

/-- The items of a sequence that is not indented further than its key. -/
def flatItems (bound : Nat) (handles : List Text) (anchors : Anchors) (ts : List Token) :
    Option (Parsed (List Node)) :=
  match bound with
  | 0 => none
  | bound + 1 =>
    match ts with
    | .item :: ts => do
      let (n, anchors, ts) ←
        nodeBefore bound handles .block [.item, .key, .value, .blockEnd] anchors ts
      let (ns, anchors, ts) ← flatItems bound handles anchors ts
      return (n :: ns, anchors, ts)
    | ts => some ([], anchors, ts)

/-- The pairs of an indented mapping up to its end. -/
def blockPairs (bound : Nat) (handles : List Text) (anchors : Anchors) (ts : List Token) :
    Option (Parsed (List (Node × Node))) :=
  match bound with
  | 0 => none
  | bound + 1 =>
    match ts with
    | .key :: ts => do
      let (k, anchors, ts) ←
        nodeBefore bound handles .blockPair [.key, .value, .blockEnd] anchors ts
      let (v, anchors, ts) ←
        match ts with
        | .value :: ts => nodeBefore bound handles .blockPair [.key, .value, .blockEnd] anchors ts
        | ts => some (.empty, anchors, ts)
      let (ps, anchors, ts) ← blockPairs bound handles anchors ts
      return ((k, v) :: ps, anchors, ts)
    | .blockEnd :: ts => some ([], anchors, ts)
    | _ => none

/-- The value of a pair between brackets; it may be left out. -/
def flowValue (bound : Nat) (handles : List Text) (among : List Token) (anchors : Anchors)
    (ts : List Token) : Option (Parsed Node) :=
  match bound with
  | 0 => none
  | bound + 1 =>
    match ts with
    | .value :: ts => nodeBefore bound handles .flow among anchors ts
    | ts => some (.empty, anchors, ts)

/-- The items of a sequence between brackets. A key among them makes a mapping of one pair; the
token that tells that this key is empty is passed over. -/
def flowItems (bound : Nat) (handles : List Text) (isFirst : Bool) (anchors : Anchors)
    (ts : List Token) : Option (Parsed (List Node)) :=
  match bound with
  | 0 => none
  | bound + 1 =>
    match ts with
    | .sequenceClose :: ts => some ([], anchors, ts)
    | ts => do
      let ts ← afterComma isFirst ts
      match ts with
      | .sequenceClose :: ts => some ([], anchors, ts)
      | .key :: ts =>
        let (k, anchors, ts) ←
          if comes [.value, .comma, .sequenceClose] ts then some (.empty, anchors, ts.drop 1)
          else node bound handles .flow anchors ts
        let (v, anchors, ts) ← flowValue bound handles [.comma, .sequenceClose] anchors ts
        let (ns, anchors, ts) ← flowItems bound handles false anchors ts
        return (.mapping [(k, v)] :: ns, anchors, ts)
      | ts =>
        let (n, anchors, ts) ← node bound handles .flow anchors ts
        let (ns, anchors, ts) ← flowItems bound handles false anchors ts
        return (n :: ns, anchors, ts)

/-- The pairs of a mapping between brackets. A node without the token of a key has an empty
value. -/
def flowPairs (bound : Nat) (handles : List Text) (isFirst : Bool) (anchors : Anchors)
    (ts : List Token) : Option (Parsed (List (Node × Node))) :=
  match bound with
  | 0 => none
  | bound + 1 =>
    match ts with
    | .mappingClose :: ts => some ([], anchors, ts)
    | ts => do
      let ts ← afterComma isFirst ts
      match ts with
      | .mappingClose :: ts => some ([], anchors, ts)
      | .key :: ts =>
        let (k, anchors, ts) ←
          nodeBefore bound handles .flow [.value, .comma, .mappingClose] anchors ts
        let (v, anchors, ts) ← flowValue bound handles [.comma, .mappingClose] anchors ts
        let (ps, anchors, ts) ← flowPairs bound handles false anchors ts
        return ((k, v) :: ps, anchors, ts)
      | ts =>
        let (k, anchors, ts) ← node bound handles .flow anchors ts
        let (ps, anchors, ts) ← flowPairs bound handles false anchors ts
        return ((k, .empty) :: ps, anchors, ts)

end

end Nodes

/-! ## Documents -/

section Documents

/-- The tag handles that are defined without directives. -/
def defaultHandles : List Text := [['!'], ['!', '!']]

/-- Whether a document's version can be read. -/
def isSupported (major minor : Nat) : Bool := major == 1 && (minor == 1 || minor == 2)

/-- The tag handles of directives, and the tokens behind them. None if the version comes twice or
cannot be read, or a handle comes twice. -/
def directives (hasVersion : Bool) (handles : List Text) :
    List Token → Option (List Text × List Token)
  | .version major minor :: ts =>
    if hasVersion || !isSupported major minor then none else directives true handles ts
  | .handle name :: ts =>
    if handles.contains name then none else directives hasVersion (name :: handles) ts
  | ts => some (handles, ts)

/-- A document, with directives and a start mark or without either, and the tokens behind it. -/
def document (ts : List Token) : Option (Node × List Token) := do
  -- No more than four functions call each other before a token is consumed.
  let bound := 4 * ts.length + 4
  if ts.head?.any Token.isDirective || comes [.documentStart] ts then
    let (handles, ts) ← directives false [] ts
    match ts with
    | .documentStart :: ts =>
      if ts.head?.all fun t => t.isDirective || comes [.documentStart, .documentEnd] [t] then
        return (.empty, ts)
      else
        let (n, _, ts) ← node bound (handles ++ defaultHandles) .block [] ts
        return (n, ts)
    | _ => none
  else
    let (n, _, ts) ← node bound defaultHandles .block [] ts
    return (n, ts)

/-- The document of a text; `some none` if the text holds no document. None if the text is not
well formed or holds more than one. -/
def document? (t : Text) : Option (Option Node) := do
  let ts ← tokens? t
  if ts = [] then return none
  else
    let (n, ts) ← document ts
    if ts.all (· == .documentEnd) then return some n else none

end Documents

end TableThrift.Yaml
