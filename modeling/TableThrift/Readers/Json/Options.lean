import TableThrift.Readers.Json.Value
import TableThrift.Readers.Partial

/-!
# Options in JSON

Options are an object with the two keys, or a sequence of up to two values in the order of the
keys. Other keys of an object are skipped with their values; a key of the options must not come
twice.

## Main definitions

* `Options.Json.text`, `Options.Json.texts`: a string and a sequence of strings
* `Options.Json.members`, `Options.Json.sequence`: the two forms
* `Options.ofJson`: the options of a whole text
-/

namespace TableThrift.Options

namespace Json

open TableThrift.Json

/-! ## Values -/

section Values

/-- A string, and what is left after it. -/
def text (t : Text) : Except Problem (Text × Text) :=
  match skipBlanks t with
  | [] => .error .truncated
  | c :: rest => if c = '"' then string rest else .error (mismatch .string (c :: rest))

theorem length_text_lt {t value rest : Text} (h : text t = .ok (value, rest)) :
    rest.length < t.length := by
  have hb := length_skipBlanks_le t
  unfold text at h
  split at h
  · cases h
  · next c u hu =>
    rw [hu, List.length_cons] at hb
    split at h
    · have := length_string_lt h
      omega
    · cases h

/-- The strings of a sequence, behind its opening bracket or behind one of them. -/
def items (isFirst : Bool) (t : Text) : Except Problem (List Text × Text) :=
  match _hn : next ']' isFirst t with
  | .error p => .error p
  | .ok (.closed rest) => .ok ([], rest)
  | .ok (.item start) =>
    match _ht : text start with
    | .error p => .error p
    | .ok (value, rest) => (items false rest).map fun p => (value :: p.1, p.2)
termination_by t.length
decreasing_by
  have := length_le_of_next_item _hn
  have := length_text_lt _ht
  omega

theorem length_items_le {isFirst : Bool} {t rest : Text} {values : List Text}
    (h : items isFirst t = .ok (values, rest)) : rest.length ≤ t.length := by
  fun_induction items isFirst t generalizing values with
  | case1 => cases h
  | case2 _ _ _ hn =>
    cases h
    exact Nat.le_of_lt (length_lt_of_next_closed hn)
  | case3 => cases h
  | case4 _ _ _ hn _ rest' ht ih =>
    cases hs : items false rest' with
    | error p => rw [hs] at h; cases h
    | ok p =>
      rw [hs] at h
      cases h
      have := ih hs
      have := length_le_of_next_item hn
      have := length_text_lt ht
      omega

/-- A sequence of strings, and what is left after it. -/
def texts (t : Text) : Except Problem (List Text × Text) :=
  match skipBlanks t with
  | [] => .error .truncated
  | c :: rest => if c = '[' then items true rest else .error (mismatch .sequence (c :: rest))

end Values

/-! ## Members -/

section Members

/-- What is read of the options after the value of a key. -/
def value (seen : Partial) (key : Option Key) (t : Text) : Except Problem (Partial × Text) :=
  match key with
  | none => (skipValue t).map fun rest => (seen, rest)
  | some .tablePrefix => (text t).map fun p => ({ seen with tablePrefix := some p.1 }, p.2)
  | some .ignored => (texts t).map fun p => ({ seen with ignored := some p.1 }, p.2)

/-- What is read of the options after a key with its value. A repeated key is a problem before its
value is looked at. -/
def member (seen : Partial) (t : Text) : Except Problem (Partial × Text) :=
  match t with
  | '"' :: t =>
    match string t with
    | .error p => .error p
    | .ok (word, rest) =>
      if (Key.ofWord? word).any seen.has then .error (.repeated word)
      else
        match expectColon rest with
        | .error p => .error p
        | .ok rest => value seen (Key.ofWord? word) rest
  | _ => .error .malformed

theorem length_texts_le {t rest : Text} {values : List Text} (h : texts t = .ok (values, rest)) :
    rest.length ≤ t.length := by
  unfold texts at h
  split at h
  · cases h
  · next c u hu =>
    split at h
    · exact Nat.le_trans (length_items_le h) (Nat.le_of_lt (length_lt_of_skipBlanks hu))
    · cases h

theorem length_value_le {seen seen' : Partial} {key : Option Key} {t rest : Text}
    (h : value seen key t = .ok (seen', rest)) : rest.length ≤ t.length := by
  unfold value at h
  split at h
  · cases hs : skipValue t with
    | error p => rw [hs] at h; cases h
    | ok p => rw [hs] at h; cases h; exact length_skipValue_le hs
  · cases hs : text t with
    | error p => rw [hs] at h; cases h
    | ok p => rw [hs] at h; cases h; exact Nat.le_of_lt (length_text_lt hs)
  · cases hs : texts t with
    | error p => rw [hs] at h; cases h
    | ok p => rw [hs] at h; cases h; exact length_texts_le hs

theorem length_member_lt {seen seen' : Partial} {t rest : Text}
    (h : member seen t = .ok (seen', rest)) : rest.length < t.length := by
  unfold member at h
  split at h
  · split at h
    · cases h
    · next hs =>
      have := length_string_lt hs
      split at h
      · cases h
      · split at h
        · cases h
        · next hc =>
          have := length_expectColon_lt hc
          have := length_value_le h
          simp only [List.length_cons]
          omega
  · cases h

/-- The options of an object, behind its opening bracket or behind one of its members. -/
def members (isFirst : Bool) (seen : Partial) (t : Text) : Except Problem (Partial × Text) :=
  match _hn : next '}' isFirst t with
  | .error p => .error p
  | .ok (.closed rest) => .ok (seen, rest)
  | .ok (.item start) =>
    match _hm : member seen start with
    | .error p => .error p
    | .ok (seen, rest) => members false seen rest
termination_by t.length
decreasing_by
  have := length_le_of_next_item _hn
  have := length_member_lt _hm
  omega

end Members

/-! ## Forms -/

section Forms

/-- The end of a sequence after as many values as there are options. -/
def sequenceEnd (seen : Partial) (t : Text) : Except Problem (Partial × Text) :=
  match skipBlanks t with
  | [] => .error .truncated
  | c :: rest => if c = ']' then .ok (seen, rest) else .error .malformed

/-- The options of a sequence behind its opening bracket: the values of the keys in their order. -/
def sequence (t : Text) : Except Problem (Partial × Text) :=
  match next ']' true t with
  | .error p => .error p
  | .ok (.closed rest) => .ok ({}, rest)
  | .ok (.item start) =>
    match value {} (some .tablePrefix) start with
    | .error p => .error p
    | .ok (seen, rest) =>
      match next ']' false rest with
      | .error p => .error p
      | .ok (.closed rest) => .ok (seen, rest)
      | .ok (.item start) =>
        match value seen (some .ignored) start with
        | .error p => .error p
        | .ok (seen, rest) => sequenceEnd seen rest

/-- The options in either form, and what is left after them. -/
def either (t : Text) : Except Problem (Partial × Text) :=
  match skipBlanks t with
  | [] => .error .truncated
  | c :: rest =>
    if c = '{' then members true {} rest
    else if c = '[' then sequence rest
    else .error (mismatch .options (c :: rest))

end Forms

end Json

/-- The options of a whole text, after which only blanks may follow. -/
def ofJson (t : Text) : Except TableThrift.Json.Problem Options :=
  match Json.either t with
  | .error p => .error p
  | .ok (seen, rest) =>
    if TableThrift.Json.skipBlanks rest = [] then .ok seen.complete else .error .malformed

end TableThrift.Options
