import TableThrift.Readers.Text.Hexadecimal
import TableThrift.Readers.Yaml.Scalar.Gap

/-!
# Quoted scalars

A scalar may stand between single or double quotes. Between single quotes a quote is written
twice. Between double quotes a backslash starts an escape, and one in front of a line break joins
two lines.

## Main definitions

* `Yaml.Quote`: the two kinds of quotes
* `Yaml.escape`: an escape
* `Yaml.quotedWord`: the characters up to a blank, an escaped line break or the closing quote
* `Yaml.quoted`: a quoted scalar

## Main results

* `Yaml.length_quoted_lt`: what is left is shorter
-/

namespace TableThrift.Yaml

/-- The two kinds of quotes. -/
inductive Quote where
  | single
  | double
deriving DecidableEq, Repr

/-- The character of a quote. -/
def Quote.char : Quote → Char
  | single => '\''
  | double => '"'

/-! ## Escapes -/

section Escapes

/-- The character that a letter stands for after a backslash. -/
def letterEscape? (c : Char) : Option Char :=
  match c with
  | '0' => some '\x00'
  | 'a' => some '\x07'
  | 'b' => some '\x08'
  | 't' => some '\t'
  | '\t' => some '\t'
  | 'n' => some '\n'
  | 'v' => some '\x0b'
  | 'f' => some '\x0c'
  | 'r' => some '\r'
  | 'e' => some '\x1b'
  | ' ' => some ' '
  | '"' => some '"'
  | '/' => some '/'
  | '\\' => some '\\'
  | 'N' => some '\u0085'
  | '_' => some '\u00a0'
  | 'L' => some '\u2028'
  | 'P' => some '\u2029'
  | _ => none

/-- The number of hexadecimal digits that follow a letter after a backslash. -/
def digitsAfter? (c : Char) : Option Nat :=
  match c with
  | 'x' => some 2
  | 'u' => some 4
  | 'U' => some 8
  | _ => none

/-- The character of an escape behind its backslash, and what is left. A code must be that of a
character. -/
def escape : Text → Option (Char × Text)
  | [] => none
  | c :: t =>
    match letterEscape? c, digitsAfter? c with
    | some d, _ => some (d, t)
    | none, none => none
    | none, some count =>
      if (t.take count).length < count then none
      else
        match Text.hexNumber? (t.take count) with
        | none => none
        | some code => if code.isValidChar then some (Char.ofNat code, t.drop count) else none

theorem length_escape_lt {t rest : Text} {c : Char} (h : escape t = some (c, rest)) :
    rest.length < t.length := by
  cases t with
  | nil => cases h
  | cons d t =>
    rw [escape] at h
    split at h
    · simp only [Option.some.injEq, Prod.mk.injEq] at h
      obtain ⟨_, rfl⟩ := h
      simp
    · cases h
    · split at h
      · cases h
      split at h
      · cases h
      split at h
      · simp only [Option.some.injEq, Prod.mk.injEq] at h
        obtain ⟨_, rfl⟩ := h
        simp only [List.length_drop, List.length_cons]
        omega
      · cases h

end Escapes

/-! ## Scalars -/

section Scalars

/-- Why a word of a quoted scalar ends. -/
inductive WordEnd where
  /-- A blank or a line break comes, or the end of the text. -/
  | gap
  /-- A line break was escaped. -/
  | joined
  /-- The closing quote was read. -/
  | closed
deriving DecidableEq, Repr

/-- The characters of a quoted scalar up to a gap or its end; the closing quote and an escaped line
break are taken off the text. -/
def quotedWord (quote : Quote) (t : Text) : Option (Text × WordEnd × Text) :=
  match t with
  | [] => some ([], .gap, [])
  | c :: t =>
    if isSpace c then some ([], .gap, c :: t)
    else if c = quote.char then
      if quote = .single ∧ t.head? = some '\'' then
        (quotedWord quote (t.drop 1)).map fun p => ('\'' :: p.1, p.2)
      else some ([], .closed, t)
    else if quote = .double ∧ c = '\\' then
      if t.head?.any isBreak then some ([], .joined, skipBreak t)
      else
        match _h : escape t with
        | none => none
        | some (d, rest) => (quotedWord quote rest).map fun p => (d :: p.1, p.2)
    else (quotedWord quote t).map fun p => (c :: p.1, p.2)
termination_by t.length
decreasing_by
  · simp only [List.length_drop, List.length_cons]
    omega
  · have := length_escape_lt _h
    simp only [List.length_cons]
    omega
  · simp

/-- A word takes its characters off the text, and a gap in front of which it ends is not empty
unless the text is. -/
theorem length_quotedWord {quote : Quote} {t word rest : Text} {ending : WordEnd}
    (h : quotedWord quote t = some (word, ending, rest)) :
    (ending = .gap → rest.length ≤ t.length ∧ endsWord rest) ∧
      (ending ≠ .gap → rest.length < t.length) := by
  fun_induction quotedWord quote t generalizing word with
  | case1 => cases h; simp [endsWord]
  | case2 c t hc => cases h; simp [endsWord, hc]
  | case3 t _ ht ih =>
    obtain ⟨⟨u, v⟩, hu, hp⟩ := Option.map_eq_some_iff.1 h
    cases hp
    have := ih hu
    simp only [List.length_drop, List.length_cons] at *
    grind
  | case4 => cases h; simp
  | case5 _ t _ _ _ _ =>
    cases h
    have := length_skipBreak_le t
    refine ⟨fun e => WordEnd.noConfusion e, fun _ => ?_⟩
    simp only [List.length_cons]
    omega
  | case6 => cases h
  | case7 _ _ _ _ _ _ _ _ he ih =>
    obtain ⟨⟨u, v⟩, hu, hp⟩ := Option.map_eq_some_iff.1 h
    cases hp
    have := ih hu
    have := length_escape_lt he
    simp only [List.length_cons] at *
    grind
  | case8 _ _ _ _ _ ih =>
    obtain ⟨⟨u, v⟩, hu, hp⟩ := Option.map_eq_some_iff.1 h
    cases hp
    have := ih hu
    simp only [List.length_cons] at *
    grind

/-- A quoted scalar from the end of a gap on. A line of it must not start with a mark between
documents. -/
def quotedFrom (quote : Quote) (atLineStart : Bool) (t : Text) : Option (Text × Text) :=
  if atLineStart && isDocumentMark t then none
  else
    match _h : quotedWord quote t with
    | none => none
    | some (word, .closed, rest) => some (word, rest)
    | some (word, .joined, rest) =>
      match _hg : lineGap 0 0 rest with
      | none => none
      | some (g, after) =>
        (quotedFrom quote (g.column == 0) after).map fun p =>
          (word ++ g.breaks.flatten ++ p.1, p.2)
    | some (word, .gap, rest) =>
      if _hr : rest = [] then none
      else
        match _hg : gap 0 rest with
        | none => none
        | some (g, after) =>
          (quotedFrom quote (g.isBroken && g.column == 0) after).map fun p =>
            (word ++ g.text ++ p.1, p.2)
termination_by t.length
decreasing_by
  · have := (length_quotedWord _h).2 (by decide)
    have := length_lineGap_le _hg
    omega
  · have hw := (length_quotedWord _h).1 rfl
    have := length_gap_lt _hr hw.2 _hg
    omega

/-- A quoted scalar behind its opening quote, and what is left behind the closing one. -/
def quoted (quote : Quote) (t : Text) : Option (Text × Text) := quotedFrom quote false t

theorem length_quotedFrom_lt {quote : Quote} {atLineStart : Bool} {t value rest : Text}
    (h : quotedFrom quote atLineStart t = some (value, rest)) : rest.length < t.length := by
  fun_induction quotedFrom quote atLineStart t generalizing value with
  | case1 => cases h
  | case2 => cases h
  | case3 _ _ _ _ _ hw => cases h; exact (length_quotedWord hw).2 (by decide)
  | case4 => cases h
  | case5 _ _ _ _ _ hw _ _ hg ih =>
    obtain ⟨⟨u, v⟩, hu, hp⟩ := Option.map_eq_some_iff.1 h
    cases hp
    have := ih hu
    have := (length_quotedWord hw).2 (by decide)
    have := length_lineGap_le hg
    omega
  | case6 => cases h
  | case7 => cases h
  | case8 _ _ _ _ _ hw hr _ _ hg ih =>
    obtain ⟨⟨u, v⟩, hu, hp⟩ := Option.map_eq_some_iff.1 h
    cases hp
    have := ih hu
    have := ((length_quotedWord hw).1 rfl).1
    have := length_gap_le hg
    omega

theorem length_quoted_lt {quote : Quote} {t value rest : Text}
    (h : quoted quote t = some (value, rest)) : rest.length < t.length := length_quotedFrom_lt h

end Scalars

end TableThrift.Yaml
