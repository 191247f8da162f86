import TableThrift.Json.Basic

/-!
# Reading JSON

A JSON text is read from the left, and the first problem decides. A reader takes what is left of
the text and returns a value together with what is left after it.

## Main definitions

* `Json.Problem`: how a text may fail
* `Json.Found`, `Json.Wanted`: a value in the wrong place, and what belongs there
* `Json.skipBlanks`, `Json.expectWord`: the readers of blanks and of fixed words
-/

namespace TableThrift.Json

/-- The kinds of values, with as much of each as a report shows. -/
inductive Found where
  | null
  | boolean (value : Bool)
  /-- An integer by its decimal text. -/
  | integer (text : Text)
  /-- A number with a fraction or an exponent, or a very large one, by its decimal text. -/
  | decimal (text : Text)
  | string (value : Text)
  | sequence
  | object
deriving DecidableEq, Repr

/-- What belongs in a place of the text. -/
inductive Wanted where
  | string
  | sequence
  /-- The options of a conversion, as an object or as a sequence. -/
  | options
deriving DecidableEq, Repr

/-- How a text may fail. -/
inductive Problem where
  /-- It is not JSON. -/
  | malformed
  /-- It ends before its value does. -/
  | truncated
  /-- A value has the wrong kind. -/
  | mismatch (found : Found) (wanted : Wanted)
  /-- A key stands twice in an object. -/
  | repeated (key : Text)
deriving DecidableEq, Repr

/-- What is left after blanks. -/
def skipBlanks (t : Text) : Text := t.dropWhile isBlank

/-- What is left after a fixed word. -/
def expectWord : Text → Text → Except Problem Text
  | [], t => .ok t
  | _ :: _, [] => .error .truncated
  | a :: word, c :: t => if a = c then expectWord word t else .error .malformed

theorem length_skipBlanks_le (t : Text) : (skipBlanks t).length ≤ t.length :=
  (List.dropWhile_sublist isBlank).length_le

theorem length_lt_of_skipBlanks {c : Char} {t rest : Text} (h : skipBlanks t = c :: rest) :
    rest.length < t.length := by
  have := length_skipBlanks_le t
  rw [h] at this
  exact this

theorem length_expectWord_le {word t rest : Text} (h : expectWord word t = .ok rest) :
    rest.length ≤ t.length := by
  induction word generalizing t with
  | nil => simp_all [expectWord]
  | cons a word ih =>
    cases t with
    | nil => simp [expectWord] at h
    | cons c t =>
      rw [expectWord] at h
      split at h
      · exact Nat.le_succ_of_le (ih h)
      · cases h

end TableThrift.Json
