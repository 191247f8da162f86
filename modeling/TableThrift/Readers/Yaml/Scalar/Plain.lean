import TableThrift.Readers.Yaml.Scalar.Gap

/-!
# Plain scalars

A plain scalar has no quotes. It ends in front of a colon that ends a word, a comment, a mark
between documents, or a line that is not indented far enough; between brackets it also ends in
front of a comma or a bracket.

## Main definitions

* `Yaml.plainWord`: the characters up to a blank or the end of the scalar
* `Yaml.Plain`, `Yaml.plain`: a plain scalar

## Main results

* `Yaml.append_of_plainWord`: a word loses nothing
* `Yaml.length_plain_le`: what is left is not longer
-/

namespace TableThrift.Yaml

/-- The characters that end a plain scalar between brackets. -/
def flowMarks : Text := ",[]\x7b\x7d".toList

/-- The characters that must not follow a colon in a plain scalar between brackets. -/
def colonMarks : Text := ",?[]\x7b\x7d".toList

/-- The characters of a plain scalar up to a blank, a line break or its end. -/
def plainWord (inFlow : Bool) : Text → Option (Text × Text)
  | [] => some ([], [])
  | c :: t =>
    if isSpace c then some ([], c :: t)
    else if inFlow && c == ':' && startsWithOneOf colonMarks t then none
    else if (c == ':' && endsWord t) || (inFlow && flowMarks.contains c) then some ([], c :: t)
    else (plainWord inFlow t).map fun p => (c :: p.1, p.2)

theorem append_of_plainWord {inFlow : Bool} {t word rest : Text}
    (h : plainWord inFlow t = some (word, rest)) : word ++ rest = t := by
  induction t generalizing word with
  | nil => cases h; rfl
  | cons c t ih =>
    rw [plainWord] at h
    split at h
    · cases h; rfl
    split at h
    · cases h
    split at h
    · cases h; rfl
    · obtain ⟨⟨u, v⟩, hu, hp⟩ := Option.map_eq_some_iff.1 h
      cases hp
      simp [ih hu]

/-- A plain scalar, whether it ends behind a line break, and what is left behind it. -/
structure Plain where
  text : Text
  isBroken : Bool
  rest : Text
deriving DecidableEq, Repr

/-- A plain scalar from the end of a gap on. Lines must be indented by `least` columns outside
brackets. -/
def plainFrom (inFlow : Bool) (least : Nat) (pending : Gap) (t : Text) : Option Plain :=
  if (pending.isBroken && pending.column == 0 && isDocumentMark t) || t.head? == some '#' then
    some ⟨[], pending.isBroken, t⟩
  else
    match _hw : plainWord inFlow t with
    | none => none
    | some ([], rest) => some ⟨[], pending.isBroken, rest⟩
    | some (c :: word, rest) =>
      match _hg : gap least rest with
      | none => none
      | some (next, after) =>
        if !rest.head?.any isSpace then some ⟨pending.text ++ c :: word, false, rest⟩
        else if !inFlow && next.isBroken && decide (next.column < least) then
          some ⟨pending.text ++ c :: word, true, after⟩
        else
          (plainFrom inFlow least next after).map fun p =>
            { p with text := pending.text ++ c :: word ++ p.text }
termination_by t.length
decreasing_by
  have hl := congrArg List.length (append_of_plainWord _hw)
  have := length_gap_le _hg
  simp only [List.length_append, List.length_cons] at hl
  omega

/-- A plain scalar. -/
def plain (inFlow : Bool) (least : Nat) (t : Text) : Option Plain := plainFrom inFlow least {} t

theorem length_plainFrom_le {inFlow : Bool} {least : Nat} {pending : Gap} {t : Text} {p : Plain}
    (h : plainFrom inFlow least pending t = some p) : p.rest.length ≤ t.length := by
  fun_induction plainFrom inFlow least pending t generalizing p with
  | case1 => cases h; exact Nat.le_refl _
  | case2 => cases h
  | case3 _ _ _ _ hw =>
    cases h
    have hl := congrArg List.length (append_of_plainWord hw)
    simpa using Nat.le_of_eq hl
  | case4 => cases h
  | case5 _ _ _ _ _ _ hw =>
    cases h
    have hl := congrArg List.length (append_of_plainWord hw)
    simp only [List.length_append, List.length_cons] at hl
    simp only
    omega
  | case6 _ _ _ _ _ _ hw _ _ hg =>
    cases h
    have hl := congrArg List.length (append_of_plainWord hw)
    have := length_gap_le hg
    simp only [List.length_append, List.length_cons] at hl
    simp only
    omega
  | case7 _ _ _ _ _ _ hw _ _ hg _ _ ih =>
    obtain ⟨q, hq, rfl⟩ := Option.map_eq_some_iff.1 h
    have hl := congrArg List.length (append_of_plainWord hw)
    have := length_gap_le hg
    have := ih hq
    simp only [List.length_append, List.length_cons] at hl
    simp only
    omega

theorem length_plain_le {inFlow : Bool} {least : Nat} {t : Text} {p : Plain}
    (h : plain inFlow least t = some p) : p.rest.length ≤ t.length := length_plainFrom_le h

end TableThrift.Yaml
