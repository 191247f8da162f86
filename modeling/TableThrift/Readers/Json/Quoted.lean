import TableThrift.Readers.Json.Basic
import TableThrift.Readers.Text.Hexadecimal

/-!
# JSON strings

A string stands between double quotes. A backslash starts an escape; a code unit of a surrogate
pair is only valid next to its partner. Strings that are skipped are read with less care: any four
hexadecimal digits will do.

## Main definitions

* `Json.codeUnit`: four hexadecimal digits
* `Json.character`: one character of a string, in any of its spellings
* `Json.string`: the rest of a string after its opening quote
* `Json.skipString`: the same without its value

## Main results

* `Json.length_string_lt`, `Json.length_skipString_lt`: a string that is read is not empty
-/

namespace TableThrift.Json

/-! ## Escapes -/

section Escapes

/-- Four hexadecimal digits. The text ends too early if fewer than four bytes are left of it. -/
def codeUnit (t : Text) : Except Problem (Nat × Text) :=
  if Text.byteSize (t.take 4) < 4 then .error .truncated
  else
    match Text.hexNumber? (t.take 4) with
    | some n => .ok (n, t.drop 4)
    | none => .error .malformed

/-- The character that a letter stands for after a backslash. -/
def shortEscape? (c : Char) : Option Char :=
  match c with
  | '"' => some '"'
  | '\\' => some '\\'
  | '/' => some '/'
  | 'b' => some '\x08'
  | 'f' => some '\x0c'
  | 'n' => some '\n'
  | 'r' => some '\r'
  | 't' => some '\t'
  | _ => none

/-- Whether a code unit is the first of a surrogate pair. -/
def isLeading (n : Nat) : Bool := 0xD800 ≤ n && n ≤ 0xDBFF

/-- Whether a code unit is the second of a surrogate pair. -/
def isTrailing (n : Nat) : Bool := 0xDC00 ≤ n && n ≤ 0xDFFF

/-- The character of a surrogate pair. -/
def ofPair (leading trailing : Nat) : Char :=
  Char.ofNat (0x10000 + (leading - 0xD800) * 0x400 + (trailing - 0xDC00))

/-- The second code unit after a first one: a whole escape of its own. -/
def trailingUnit (t : Text) : Except Problem (Nat × Text) :=
  match expectWord ['\\', 'u'] t with
  | .error p => .error p
  | .ok rest =>
    match codeUnit rest with
    | .error p => .error p
    | .ok (n, rest) => if isTrailing n then .ok (n, rest) else .error .malformed

/-- The character of an escape with code units, after its first two characters. -/
def unicodeEscape (t : Text) : Except Problem (Char × Text) :=
  match codeUnit t with
  | .error p => .error p
  | .ok (n, rest) =>
    if isTrailing n then .error .malformed
    else if isLeading n then
      match trailingUnit rest with
      | .error p => .error p
      | .ok (m, rest) => .ok (ofPair n m, rest)
    else .ok (Char.ofNat n, rest)

/-- The character of an escape after its backslash. -/
def escape : Text → Except Problem (Char × Text)
  | [] => .error .truncated
  | c :: t =>
    if c = 'u' then unicodeEscape t
    else
      match shortEscape? c with
      | some d => .ok (d, t)
      | none => .error .malformed

end Escapes

/-! ## Strings -/

section Strings

/-- Whether a character must not stand in a string by itself. -/
def isControl (c : Char) : Bool := c.toNat < 0x20

/-- One character of a string, in any of its spellings; `none` for the closing quote. -/
def character : Text → Except Problem (Option Char × Text)
  | [] => .error .truncated
  | c :: t =>
    if c = '"' then .ok (none, t)
    else if c = '\\' then (escape t).map fun p => (some p.1, p.2)
    else if isControl c then .error .malformed
    else .ok (some c, t)

theorem length_codeUnit_le {t rest : Text} {n : Nat} (h : codeUnit t = .ok (n, rest)) :
    rest.length ≤ t.length := by
  unfold codeUnit at h
  split at h
  · cases h
  · split at h
    · cases h
      simp
    · cases h

theorem length_trailingUnit_le {t rest : Text} {n : Nat} (h : trailingUnit t = .ok (n, rest)) :
    rest.length ≤ t.length := by
  unfold trailingUnit at h
  split at h
  · cases h
  · next u hu =>
    split at h
    · cases h
    · next m v hv =>
      split at h
      · cases h
        exact Nat.le_trans (length_codeUnit_le hv) (length_expectWord_le hu)
      · cases h

theorem length_unicodeEscape_le {t rest : Text} {c : Char} (h : unicodeEscape t = .ok (c, rest)) :
    rest.length ≤ t.length := by
  unfold unicodeEscape at h
  split at h
  · cases h
  · next n u hu =>
    split at h
    · cases h
    · split at h
      · split at h
        · cases h
        · next m v hv =>
          simp only [Except.ok.injEq, Prod.mk.injEq] at h
          obtain ⟨_, rfl⟩ := h
          exact Nat.le_trans (length_trailingUnit_le hv) (length_codeUnit_le hu)
      · simp only [Except.ok.injEq, Prod.mk.injEq] at h
        obtain ⟨_, rfl⟩ := h
        exact length_codeUnit_le hu

theorem length_escape_le {t rest : Text} {c : Char} (h : escape t = .ok (c, rest)) :
    rest.length ≤ t.length := by
  cases t with
  | nil => cases h
  | cons d t =>
    rw [escape] at h
    by_cases hd : d = 'u'
    · rw [if_pos hd] at h
      exact Nat.le_succ_of_le (length_unicodeEscape_le h)
    · rw [if_neg hd] at h
      cases hs : shortEscape? d with
      | none => rw [hs] at h; cases h
      | some e =>
        rw [hs] at h
        cases h
        exact Nat.le_succ _

theorem length_character_lt {t rest : Text} {c : Option Char}
    (h : character t = .ok (c, rest)) : rest.length < t.length := by
  cases t with
  | nil => cases h
  | cons d t =>
    rw [character] at h
    split at h
    · cases h
      simp
    · split at h
      · cases he : escape t with
        | error p => rw [he] at h; cases h
        | ok p =>
          rw [he] at h
          cases h
          exact Nat.lt_succ_of_le (length_escape_le he)
      · split at h
        · cases h
        · cases h
          simp

/-- The rest of a string after its opening quote, and what is left after the closing one. -/
def string (t : Text) : Except Problem (Text × Text) :=
  match _h : character t with
  | .error p => .error p
  | .ok (none, rest) => .ok ([], rest)
  | .ok (some c, rest) => (string rest).map fun p => (c :: p.1, p.2)
termination_by t.length
decreasing_by exact length_character_lt _h

/-- What is left after the closing quote of a string whose value does not matter. -/
def skipString : Text → Except Problem Text
  | [] => .error .truncated
  | c :: t =>
    if c = '"' then .ok t
    else if c = '\\' then
      match t with
      | [] => .error .truncated
      | d :: t =>
        if d = 'u' then
          match _h : codeUnit t with
          | .error p => .error p
          | .ok (_, rest) => skipString rest
        else if (shortEscape? d).isSome then skipString t
        else .error .malformed
    else if isControl c then .error .malformed
    else skipString t
termination_by t => t.length
decreasing_by
  · have := length_codeUnit_le _h
    simp only [List.length_cons]
    omega
  · simp only [List.length_cons]
    omega
  · simp

theorem length_string_lt {t value rest : Text} (h : string t = .ok (value, rest)) :
    rest.length < t.length := by
  fun_induction string t generalizing value with
  | case1 => cases h
  | case2 t rest' hc =>
    cases h
    exact length_character_lt hc
  | case3 t c rest' hc ih =>
    cases hs : string rest' with
    | error p => rw [hs] at h; cases h
    | ok p =>
      rw [hs] at h
      cases h
      exact Nat.lt_trans (ih hs) (length_character_lt hc)

theorem length_skipString_lt {t rest : Text} (h : skipString t = .ok rest) :
    rest.length < t.length := by
  fun_induction skipString t with
  | case1 => cases h
  | case2 => cases h; simp
  | case3 => cases h
  | case4 => cases h
  | case5 _ _ _ hc _ ih =>
    have := length_codeUnit_le hc
    have := ih h
    simp only [List.length_cons]
    omega
  | case6 _ _ _ _ _ ih =>
    have := ih h
    simp only [List.length_cons]
    omega
  | case7 => cases h
  | case8 => cases h
  | case9 _ _ _ _ _ ih =>
    have := ih h
    simp only [List.length_cons]
    omega

end Strings

end TableThrift.Json
