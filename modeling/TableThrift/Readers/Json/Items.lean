import TableThrift.Readers.Json.Basic

/-!
# Items between brackets

The items of a sequence or an object are separated by commas. No comma stands in front of the
closing bracket.

## Main definitions

* `Json.Next`, `Json.next`: the next item, or the end of the items
* `Json.expectColon`: the colon behind a key

## Main results

* `Json.length_le_of_next_item`, `Json.length_lt_of_next_closed`: what is left is not longer
-/

namespace TableThrift.Json

/-- What comes next between brackets. -/
inductive Next where
  /-- The closing bracket; the text is what follows it. -/
  | closed (rest : Text)
  /-- An item, at whose first character the text starts. -/
  | item (start : Text)
deriving DecidableEq, Repr

/-- The next item up to `closing`; every item but the first needs a comma in front of it. -/
def next (closing : Char) (isFirst : Bool) (t : Text) : Except Problem Next :=
  match skipBlanks t with
  | [] => .error .truncated
  | c :: rest =>
    if c = closing then .ok (.closed rest)
    else if isFirst then .ok (.item (c :: rest))
    else if c = ',' then
      match skipBlanks rest with
      | [] => .error .truncated
      | d :: rest => if d = closing then .error .malformed else .ok (.item (d :: rest))
    else .error .malformed

/-- What is left after a colon. -/
def expectColon (t : Text) : Except Problem Text :=
  match skipBlanks t with
  | [] => .error .truncated
  | ':' :: rest => .ok rest
  | _ :: _ => .error .malformed

theorem length_lt_of_next_closed {closing : Char} {isFirst : Bool} {t rest : Text}
    (h : next closing isFirst t = .ok (.closed rest)) : rest.length < t.length := by
  have hb := length_skipBlanks_le t
  unfold next at h
  split at h
  · cases h
  · next c u hu =>
    rw [hu] at hb
    split at h
    · cases h
      exact hb
    split at h
    · cases h
    split at h
    · split at h
      · cases h
      · split at h <;> cases h
    · cases h

theorem length_le_of_next_item {closing : Char} {isFirst : Bool} {t start : Text}
    (h : next closing isFirst t = .ok (.item start)) : start.length ≤ t.length := by
  have hb := length_skipBlanks_le t
  unfold next at h
  split at h
  · cases h
  · next c u hu =>
    rw [hu] at hb
    split at h
    · cases h
    split at h
    · cases h
      exact hb
    split at h
    · have hc := length_skipBlanks_le u
      split at h
      · cases h
      · next d v hv =>
        rw [hv] at hc
        split at h
        · cases h
        · cases h
          simp only [List.length_cons] at *
          omega
    · cases h

theorem length_expectColon_lt {t rest : Text} (h : expectColon t = .ok rest) :
    rest.length < t.length := by
  have hb := length_skipBlanks_le t
  unfold expectColon at h
  split at h
  · cases h
  · next u hu =>
    cases h
    rw [hu] at hb
    exact hb
  · cases h

end TableThrift.Json
