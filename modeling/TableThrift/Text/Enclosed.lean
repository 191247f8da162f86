import TableThrift.Text.Basic

/-!
# Enclosed parts of a line

A part of a text is enclosed by two quotes of the same kind. Both quotes stand in one segment, that
is, between two newlines of the text; the first segment that holds such a part decides.

## Main definitions

* `Text.outermost?`: the part between the first and the last quote of a segment
* `Text.lastEnclosed?`: the part between the last two quotes of a segment
* `Text.enclosed`: the outermost part of the first segment that has one
* `Text.enclosedAfter`: the last part after a word, in the first segment that has one
-/

namespace TableThrift.Text

/-- The part of a segment strictly between its first and its last `quote`, if it has two. -/
def outermost? (quote : Char) (segment : Text) : Option Text :=
  (cut? [quote] segment).bind fun opened =>
    (cutLast? [quote] opened.2).map fun closed => closed.1

/-- The part of a segment between its last two quotes, if it has two. -/
def lastEnclosed? (quote : Char) (segment : Text) : Option Text :=
  (cutLast? [quote] segment).bind fun closed =>
    (cutLast? [quote] closed.1).map fun opened => opened.2

/-- The outermost enclosed part of the first segment that has one; empty if there is none. -/
def enclosed (quote : Char) (t : Text) : Text :=
  ((t.split '\n').findSome? (outermost? quote)).getD []

/-- The last enclosed part after the first occurrence of `word`, in the first segment where one
follows it; empty if there is none. -/
def enclosedAfter (word : Text) (quote : Char) (t : Text) : Text :=
  ((t.split '\n').findSome? fun segment =>
    (cut? word segment).bind fun found => lastEnclosed? quote found.2).getD []

end TableThrift.Text
