import TableThrift.Text.Basic

/-!
# Characters of YAML

## Main definitions

* `Yaml.isAllowed`: the characters of a YAML text
* `Yaml.isBreak`, `Yaml.isBlank`, `Yaml.endsWord`: line breaks, blanks, and the places where a
  word ends
* `Yaml.breakText`: a line break as it counts in a scalar
* `Yaml.isWordChar`, `Yaml.isUriChar`: the characters of names and addresses
* `Yaml.isDocumentMark`: the marks between documents
-/

namespace TableThrift.Yaml

/-- The characters that a YAML text may hold. -/
def isAllowed (c : Char) : Bool :=
  c == '\t' || c == '\n' || c == '\r' || (' ' ≤ c && c ≤ '~') || c == '\u0085' ||
    ('\u00a0' ≤ c && c ≤ '\ufffd') || 0x10000 ≤ c.toNat

/-- The characters that break a line. -/
def isBreak (c : Char) : Bool :=
  c == '\n' || c == '\r' || c == '\u0085' || c == '\u2028' || c == '\u2029'

/-- The characters within a line. -/
def isInLine (c : Char) : Bool := !isBreak c

/-- Spaces and tabs. -/
def isBlank (c : Char) : Bool := c == ' ' || c == '\t'

/-- Blanks and line breaks. -/
def isSpace (c : Char) : Bool := isBlank c || isBreak c

/-- Whether a text is empty or starts with a blank or a line break. -/
def endsWord : Text → Bool
  | [] => true
  | c :: _ => isSpace c

/-- Whether a text starts with one of some characters. -/
def startsWithOneOf (cs : Text) (t : Text) : Bool := t.head?.any cs.contains

/-- A line break as it counts in a scalar: the separators of lines and of paragraphs are kept, the
others are newlines. -/
def breakText (c : Char) : Text :=
  if c = '\u2028' ∨ c = '\u2029' then [c] else ['\n']

/-- The characters of names: ASCII letters and digits, `_` and `-`. -/
def isWordChar (c : Char) : Bool := c.isAlphanum || c == '_' || c == '-'

/-- The characters of an address. Three more are allowed where it stands in brackets. -/
def isUriChar (bracketed : Bool) (c : Char) : Bool :=
  isWordChar c || ";/?:@&=+$.%!~*'()".toList.contains c || (bracketed && ",[]".toList.contains c)

/-- Whether a text starts with a mark of three equal characters that stands alone. -/
def startsWithMark (mark : Char) (t : Text) : Bool :=
  [mark, mark, mark].isPrefixOf t && endsWord (t.drop 3)

/-- Whether a text starts with a mark that starts or ends a document. -/
def isDocumentMark (t : Text) : Bool := startsWithMark '-' t || startsWithMark '.' t

/-- What is left of a line's rest that may hold only blanks and a comment: the text from its line
break on. None if there is something else. -/
def skipComment? (t : Text) : Option Text :=
  let t := t.dropWhile isBlank
  let t := if t.head? = some '#' then t.dropWhile isInLine else t
  if t.head?.all isBreak then some t else none

/-- The text behind one line break, in which a carriage return and a newline count as one. -/
def skipBreak : Text → Text
  | '\r' :: '\n' :: t => t
  | c :: t => if isBreak c then t else c :: t
  | [] => []

/-- The line break at the start of a text, as it counts in a scalar. -/
def breakOf : Text → Text
  | [] => []
  | c :: _ => if isBreak c then breakText c else []

theorem length_skipBreak_le (t : Text) : (skipBreak t).length ≤ t.length := by
  unfold skipBreak
  split
  · simp only [List.length_cons]
    omega
  · split <;> simp
  · simp

end TableThrift.Yaml
