import TableThrift.Readers.Yaml.Character

/-!
# Gaps in scalars

Words of a scalar are separated by blanks and line breaks. Blanks within a line are kept. At a line
break all blanks go; one break becomes a space, and of several the first is dropped.

## Main definitions

* `Yaml.Gap`: a gap, and `Yaml.Gap.text`: the text that it counts for
* `Yaml.lineGap`, `Yaml.gap`: the readers of gaps

## Main results

* `Yaml.length_lineGap_le`, `Yaml.length_gap_le`: what is left is not longer
-/

namespace TableThrift.Yaml

/-- A gap between two words of a scalar. -/
structure Gap where
  /-- The blanks, if there is no line break. -/
  blanks : Text := []
  /-- The line breaks. -/
  breaks : List Text := []
  /-- The blanks behind the last line break. -/
  column : Nat := 0
deriving DecidableEq, Repr

namespace Gap

/-- Whether a gap holds a line break. -/
def isBroken (g : Gap) : Bool := !g.breaks.isEmpty

/-- The text that a gap counts for. A first break that is no newline is kept. -/
def text (g : Gap) : Text :=
  match g.breaks with
  | [] => g.blanks
  | [first] => if first = ['\n'] then [' '] else first
  | first :: others => if first = ['\n'] then others.flatten else first ++ others.flatten

end Gap

/-- A gap from the start of a line on, and what is left behind it. A tab must not stand in front
of the column `least`. -/
def lineGap (least : Nat) (column : Nat) : Text → Option (Gap × Text)
  | [] => some ({ column }, [])
  | '\r' :: '\n' :: t =>
    (lineGap least 0 t).map fun p => ({ p.1 with breaks := ['\n'] :: p.1.breaks }, p.2)
  | c :: t =>
    if isBlank c then
      if c = '\t' ∧ column < least then none else lineGap least (column + 1) t
    else if isBreak c then
      (lineGap least 0 t).map fun p => ({ p.1 with breaks := breakText c :: p.1.breaks }, p.2)
    else some ({ column }, c :: t)

/-- A gap from the end of a word on, and what is left behind it. -/
def gap (least : Nat) (t : Text) : Option (Gap × Text) :=
  let rest := t.dropWhile isBlank
  if rest.head?.any isBreak then lineGap least 0 rest
  else some ({ blanks := t.takeWhile isBlank }, rest)

theorem length_lineGap_le {least column : Nat} {t rest : Text} {g : Gap}
    (h : lineGap least column t = some (g, rest)) : rest.length ≤ t.length := by
  fun_induction lineGap least column t generalizing g with
  | case1 => cases h; exact Nat.le_refl _
  | case2 _ t ih =>
    obtain ⟨⟨u, v⟩, hu, hp⟩ := Option.map_eq_some_iff.1 h
    cases hp
    exact Nat.le_trans (ih hu) (by simp only [List.length_cons]; omega)
  | case3 => cases h
  | case4 _ _ _ _ _ _ ih => exact Nat.le_succ_of_le (ih h)
  | case5 _ _ _ _ _ _ ih =>
    obtain ⟨⟨u, v⟩, hu, hp⟩ := Option.map_eq_some_iff.1 h
    cases hp
    exact Nat.le_succ_of_le (ih hu)
  | case6 => cases h; exact Nat.le_refl _

theorem length_gap_le {least : Nat} {t rest : Text} {g : Gap} (h : gap least t = some (g, rest)) :
    rest.length ≤ t.length := by
  have hd := (List.dropWhile_sublist (l := t) isBlank).length_le
  unfold gap at h
  simp only at h
  split at h
  · exact Nat.le_trans (length_lineGap_le h) hd
  · cases h
    exact hd

theorem length_lineGap_lt {least column : Nat} {c : Char} {t rest : Text} {g : Gap}
    (hc : isSpace c = true) (h : lineGap least column (c :: t) = some (g, rest)) :
    rest.length < (c :: t).length := by
  unfold lineGap at h
  split at h
  · next heq => cases heq
  · next heq =>
    cases heq
    obtain ⟨⟨u, v⟩, hu, hp⟩ := Option.map_eq_some_iff.1 h
    cases hp
    have := length_lineGap_le hu
    simp only [List.length_cons]
    omega
  · next heq =>
    cases heq
    split at h
    · split at h
      · cases h
      · exact Nat.lt_succ_of_le (length_lineGap_le h)
    split at h
    · obtain ⟨⟨u, v⟩, hu, hp⟩ := Option.map_eq_some_iff.1 h
      cases hp
      exact Nat.lt_succ_of_le (length_lineGap_le hu)
    · next hb hk => simp_all [isSpace]

/-- A gap in front of which a word ends is not empty. -/
theorem length_gap_lt {least : Nat} {t rest : Text} {g : Gap} (ht : t ≠ [])
    (hw : endsWord t = true) (h : gap least t = some (g, rest)) : rest.length < t.length := by
  obtain ⟨c, u, rfl⟩ := List.exists_cons_of_ne_nil ht
  have hd := (List.dropWhile_sublist (l := u) isBlank).length_le
  unfold gap at h
  simp only at h
  by_cases hc : isBlank c = true
  · rw [List.dropWhile_cons_of_pos hc] at h
    split at h
    · exact Nat.lt_succ_of_le (Nat.le_trans (length_lineGap_le h) hd)
    · cases h
      exact Nat.lt_succ_of_le hd
  · rw [List.dropWhile_cons_of_neg hc] at h
    split at h
    · exact length_lineGap_lt hw h
    · next hb => simp_all [endsWord, isSpace]

end TableThrift.Yaml
