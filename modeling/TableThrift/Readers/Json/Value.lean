import TableThrift.Readers.Json.Items
import TableThrift.Readers.Json.Number
import TableThrift.Readers.Json.Quoted

/-!
# JSON values

A value in a place where it does not belong is read just far enough to name it. A value that does
not matter is skipped, whatever its nesting: the enclosing brackets are kept on a stack.

## Main definitions

* `Json.identify`: the kind of a value
* `Json.Stage`, `Json.skip`: skipping a value
* `Json.skipValue`: what is left after a value
-/

namespace TableThrift.Json

/-! ## Kinds -/

section Kinds

/-- The kind of the value at the start of a text. Sequences and objects are told by their first
character, other values are read to their end. -/
def identify (t : Text) : Except Problem Found :=
  match t with
  | [] => .error .malformed
  | '"' :: t => (string t).map fun p => .string p.1
  | '[' :: _ => .ok .sequence
  | '{' :: _ => .ok .object
  | 'n' :: t => (expectWord "ull".toList t).map fun _ => .null
  | 't' :: t => (expectWord "rue".toList t).map fun _ => .boolean true
  | 'f' :: t => (expectWord "alse".toList t).map fun _ => .boolean false
  | c :: t =>
    if c = '-' ∨ isDigit c then (number (c :: t)).map fun p => p.1 else .error .malformed

/-- The problem with a value of the wrong kind, or the one found while reading it. -/
def mismatch (wanted : Wanted) (t : Text) : Problem :=
  match identify t with
  | .error p => p
  | .ok found => .mismatch found wanted

end Kinds

/-! ## Skipping -/

section Skipping

/-- Where the reader stands in a skipped value. -/
inductive Stage where
  /-- In front of a value. -/
  | value
  /-- In front of an item: a value, with its key in an object. -/
  | item
  /-- Behind an opening bracket. -/
  | opened
  /-- Behind an item. -/
  | closed
deriving DecidableEq, Repr

/-- What is left after a value that is neither sequence nor object, from its first character. -/
def skipScalar (c : Char) (t : Text) : Except Problem Text :=
  if c = '"' then skipString t
  else if c = 'n' then expectWord "ull".toList t
  else if c = 't' then expectWord "rue".toList t
  else if c = 'f' then expectWord "alse".toList t
  else if c = '-' then skipUnsigned t
  else if isDigit c then skipUnsigned (c :: t)
  else .error .malformed

/-- What is left after the key of an object's item and the colon. -/
def skipKey (t : Text) : Except Problem Text :=
  match skipBlanks t with
  | [] => .error .truncated
  | '"' :: t =>
    match skipString t with
    | .error p => .error p
    | .ok rest => expectColon rest
  | _ :: _ => .error .malformed

theorem length_skipScalar_le {c : Char} {t rest : Text} (h : skipScalar c t = .ok rest) :
    rest.length ≤ t.length + 1 := by
  unfold skipScalar at h
  split at h
  · have := length_skipString_lt h
    omega
  split at h
  · exact Nat.le_succ_of_le (length_expectWord_le h)
  split at h
  · exact Nat.le_succ_of_le (length_expectWord_le h)
  split at h
  · exact Nat.le_succ_of_le (length_expectWord_le h)
  split at h
  · exact Nat.le_succ_of_le (length_skipUnsigned_le h)
  split at h
  · exact length_skipUnsigned_le h
  · cases h

theorem length_skipKey_lt {t rest : Text} (h : skipKey t = .ok rest) :
    rest.length < t.length := by
  have hb := length_skipBlanks_le t
  unfold skipKey at h
  split at h
  · cases h
  · next u hu =>
    split at h
    · cases h
    · next v hv =>
      have := length_skipString_lt hv
      have := length_expectColon_lt h
      rw [hu, List.length_cons] at hb
      omega
  · cases h

/-- The order in which stages follow each other without taking a character. -/
def Stage.rank : Stage → Nat
  | closed => 0
  | value => 1
  | item => 2
  | opened => 3

/-- What is left after a value and the items around it, up to the outermost of the open
brackets. -/
def skip (stage : Stage) (enclosing : List Bracket) (t : Text) : Except Problem Text :=
  match stage with
  | .value =>
    match _h : skipBlanks t with
    | [] => .error .truncated
    | c :: rest =>
      if c = '[' then skip .opened (.sequence :: enclosing) rest
      else if c = '{' then skip .opened (.object :: enclosing) rest
      else
        match _hs : skipScalar c rest with
        | .error p => .error p
        | .ok rest => skip .closed enclosing rest
  | .item =>
    match enclosing with
    | .object :: _ =>
      match _h : skipKey t with
      | .error p => .error p
      | .ok rest => skip .value enclosing rest
    | _ => skip .value enclosing t
  | .opened =>
    match enclosing, _h : skipBlanks t with
    | _, [] => .error .truncated
    | [], rest => .ok rest
    | bracket :: outer, c :: rest =>
      if c = bracket.closing then skip .closed outer rest
      else skip .item (bracket :: outer) (c :: rest)
  | .closed =>
    match enclosing with
    | [] => .ok t
    | bracket :: outer =>
      match _h : skipBlanks t with
      | [] => .error .truncated
      | c :: rest =>
        if c = ',' then skip .item (bracket :: outer) rest
        else if c = bracket.closing then skip .closed outer rest
        else .error .malformed
termination_by (t.length, stage.rank)
decreasing_by
  all_goals
    have hb := length_skipBlanks_le t
    simp only [Prod.lex_def, Stage.rank]
  case _ => simp only [_h, List.length_cons] at hb; omega
  case _ => simp only [_h, List.length_cons] at hb; omega
  case _ =>
    have := length_skipScalar_le _hs
    simp only [_h, List.length_cons] at hb
    omega
  case _ => have := length_skipKey_lt _h; omega
  case _ => exact .inr ⟨trivial, by decide⟩
  case _ => simp only [_h, List.length_cons] at hb; omega
  case _ => simp only [_h, List.length_cons] at hb; simp only [List.length_cons]; omega
  case _ => simp only [_h, List.length_cons] at hb; omega
  case _ => simp only [_h, List.length_cons] at hb; omega

/-- What is left after a value. -/
def skipValue (t : Text) : Except Problem Text := skip .value [] t

theorem length_skip_le {stage : Stage} {enclosing : List Bracket} {t rest : Text}
    (h : skip stage enclosing t = .ok rest) : rest.length ≤ t.length := by
  fun_induction skip stage enclosing t with
  | case1 => cases h
  | case2 _ _ _ hb ih => exact Nat.le_trans (ih h) (Nat.le_of_lt (length_lt_of_skipBlanks hb))
  | case3 _ _ _ hb _ ih => exact Nat.le_trans (ih h) (Nat.le_of_lt (length_lt_of_skipBlanks hb))
  | case4 => cases h
  | case5 _ _ _ _ hb _ _ _ hs ih =>
    have := ih h
    have := length_skipScalar_le hs
    have := length_lt_of_skipBlanks hb
    omega
  | case6 => cases h
  | case7 _ _ _ hs ih => exact Nat.le_trans (ih h) (Nat.le_of_lt (length_skipKey_lt hs))
  | case8 _ _ _ ih => exact ih h
  | case9 => cases h
  | case10 => cases h; exact length_skipBlanks_le _
  | case11 _ _ _ _ hb ih => exact Nat.le_trans (ih h) (Nat.le_of_lt (length_lt_of_skipBlanks hb))
  | case12 _ _ _ _ _ hb _ ih => exact Nat.le_trans (ih h) (length_lt_of_skipBlanks hb)
  | case13 => cases h; exact Nat.le_refl _
  | case14 => cases h
  | case15 _ _ _ _ hb ih => exact Nat.le_trans (ih h) (Nat.le_of_lt (length_lt_of_skipBlanks hb))
  | case16 _ _ _ _ hb _ ih => exact Nat.le_trans (ih h) (Nat.le_of_lt (length_lt_of_skipBlanks hb))
  | case17 => cases h

theorem length_skipValue_le {t rest : Text} (h : skipValue t = .ok rest) :
    rest.length ≤ t.length := length_skip_le h

end Skipping

end TableThrift.Json
