import Mathlib.Data.List.DropRight
import TableThrift.Proofs.Text.Cut
import TableThrift.Text.Lines

/-!
# Lines of a text

The lines of a text are its pieces between newlines, without a carriage return at the end of each
and without the empty ones behind the last line. No line holds a newline, and lines joined by
newlines are the lines again unless one ends with a carriage return or the last one is empty.

## Main results

* `Text.split_eq_splitOn`: splitting is that of lists
* `Text.split_append`: the pieces on both sides of a separator
* `Text.not_mem_of_mem_lines`: no line holds a newline
* `Text.lines_eq_nil_iff`: a text has no lines exactly when it is blank
* `Text.lines_intercalate`: the lines of joined lines
* `Text.firstLine_append_cons`, `Text.firstLine_of_not_mem`: the first line of a text
* `Text.headD_lines`: the first of the lines of a text
-/

namespace TableThrift.Text

/-! ## Splitting -/

section Split

/-- Splitting a text is splitting a list. -/
theorem split_eq_splitOn (sep : Char) (t : Text) : split sep t = t.splitOn sep := by
  induction t with
  | nil => rfl
  | cons c cs ih =>
    rw [List.splitOn_cons_eq_if_modifyHead, ← ih, split]
    simp only [beq_iff_eq]

/-- Texts without the separator, joined by it, are the pieces again. -/
theorem split_intercalate {sep : Char} {ts : List Text} (hne : ts ≠ [])
    (h : ∀ t ∈ ts, sep ∉ t) : split sep (List.intercalate [sep] ts) = ts := by
  rw [split_eq_splitOn]
  exact List.splitOn_intercalate sep h hne

/-- The pieces of a text on both sides of a separator. -/
theorem split_append (sep : Char) (u v : Text) :
    split sep (u ++ sep :: v) = split sep u ++ split sep v := by
  rw [split_eq_splitOn, split_eq_splitOn, split_eq_splitOn]
  exact List.splitOnP_append_cons u v (beq_self_eq_true sep)

/-- The first occurrence of the separator ends the first piece. -/
theorem split_append_cons {sep : Char} {u : Text} (h : sep ∉ u) (v : Text) :
    split sep (u ++ sep :: v) = u :: split sep v := by
  induction u with
  | nil => exact split_cons_self sep v
  | cons c cs ih =>
    have hc : c ≠ sep := fun he => h (by rw [he]; exact List.mem_cons_self)
    rw [List.cons_append, split_cons_of_ne hc, ih fun hm => h (List.mem_cons_of_mem c hm)]
    rfl

/-- Each of the joined texts is a part of the whole. -/
theorem infix_intercalate {sep : Text} {u : Text} {ts : List Text} (h : u ∈ ts) :
    u <:+: List.intercalate sep ts := by
  induction ts with
  | nil => cases h
  | cons s ss ih =>
    cases ss with
    | nil =>
      obtain rfl := List.mem_singleton.1 h
      simp only [List.intercalate_singleton, List.infix_rfl]
    | cons s' ss =>
      rw [List.intercalate_cons_cons]
      rcases List.mem_cons.1 h with rfl | h
      · rw [List.append_assoc]
        exact (List.prefix_append _ _).isInfix
      · exact (ih h).trans (List.suffix_append _ _).isInfix

theorem infix_of_mem_split {sep : Char} {t u : Text} (h : u ∈ split sep t) : u <:+: t := by
  rw [← intercalate_split sep t]
  exact infix_intercalate h

end Split

/-! ## Carriage returns -/

section Return

variable {t : Text}

theorem isPrefix_dropReturn (t : Text) : dropReturn t <+: t := by
  unfold dropReturn
  split
  · exact List.dropLast_prefix t
  · exact List.prefix_rfl

/-- Nothing is left of a text exactly when it was empty or a single carriage return. -/
theorem dropReturn_eq_nil_iff : dropReturn t = [] ↔ t = [] ∨ t = ['\r'] := by
  constructor
  · intro h
    unfold dropReturn at h
    split at h
    · next hr =>
      obtain ⟨s, rfl⟩ := List.getLast?_eq_some_iff.1 hr
      rw [List.dropLast_concat] at h
      exact .inr (by rw [h, List.nil_append])
    · exact .inl h
  · rintro (rfl | rfl) <;> rfl

end Return

/-! ## Empty lines at the end -/

section TrailingEmpty

variable {ls : List Text}

theorem dropTrailingEmpty_eq (ls : List Text) :
    dropTrailingEmpty ls = ls.rdropWhile List.isEmpty := rfl

theorem dropTrailingEmpty_eq_nil_iff : dropTrailingEmpty ls = [] ↔ ∀ l ∈ ls, l = [] := by
  simp only [dropTrailingEmpty_eq, List.rdropWhile_eq_nil_iff, List.isEmpty_iff]

/-- Empty texts behind a list are dropped together with those at its end. -/
theorem dropTrailingEmpty_append {blanks : List Text} (h : ∀ l ∈ blanks, l = []) :
    dropTrailingEmpty (ls ++ blanks) = dropTrailingEmpty ls := by
  have hb : ∀ l ∈ blanks.reverse, l.isEmpty = true := fun l hl =>
    List.isEmpty_iff.2 (h l (List.mem_reverse.1 hl))
  rw [dropTrailingEmpty, List.reverse_append, List.dropWhile_append_of_pos hb, dropTrailingEmpty]

/-- The first text of a list stays the first, unless it is empty itself. -/
theorem headD_dropTrailingEmpty (ls : List Text) :
    (dropTrailingEmpty ls).headD [] = ls.headD [] := by
  by_cases he : dropTrailingEmpty ls = []
  · -- All texts are empty then, the first one too.
    rw [he, List.headD_nil]
    cases ls with
    | nil => rfl
    | cons l ls => exact (dropTrailingEmpty_eq_nil_iff.1 he l List.mem_cons_self).symm
  · obtain ⟨rest, hr⟩ : dropTrailingEmpty ls <+: ls := List.rdropWhile_prefix _ _
    obtain ⟨l, ls', hl⟩ := List.exists_cons_of_ne_nil he
    rw [hl] at hr ⊢
    rw [← hr]
    rfl

end TrailingEmpty

/-! ## Lines -/

section Lines

variable {t line : Text}

/-- A line is a piece of the text without the carriage return at its end. -/
theorem exists_of_mem_lines (h : line ∈ t.lines) :
    ∃ piece ∈ t.split '\n', line = dropReturn piece := by
  have hm : line ∈ (t.split '\n').map dropReturn := (List.rdropWhile_prefix _ _).subset h
  obtain ⟨piece, hp, rfl⟩ := List.mem_map.1 hm
  exact ⟨piece, hp, rfl⟩

/-- No line holds a newline. -/
theorem not_mem_of_mem_lines (h : line ∈ t.lines) : '\n' ∉ line := by
  obtain ⟨piece, hp, rfl⟩ := exists_of_mem_lines h
  exact fun hn => not_mem_of_mem_split hp ((isPrefix_dropReturn piece).subset hn)

/-- A text has no lines exactly when every piece between its newlines is empty or a carriage
return. -/
theorem lines_eq_nil_iff : t.lines = [] ↔ ∀ piece ∈ t.split '\n', piece = [] ∨ piece = ['\r'] := by
  rw [lines, dropTrailingEmpty_eq_nil_iff, List.forall_mem_map]
  simp only [dropReturn_eq_nil_iff]

end Lines

/-! ## The first line -/

section FirstLine

variable {t u : Text}

/-- The first newline ends the first line, together with a carriage return before it. -/
theorem firstLine_append_cons (h : '\n' ∉ u) (v : Text) :
    firstLine (u ++ '\n' :: v) = dropReturn u := by
  rw [firstLine, cut?_append_cons h]

/-- Without a newline the whole text is the first line. -/
theorem firstLine_of_not_mem (h : '\n' ∉ t) : firstLine t = t := by
  rw [firstLine, cut?_singleton_eq_none h]

/-- The first of the lines of a text is its first piece without a carriage return at the end. -/
theorem headD_lines (t : Text) : t.lines.headD [] = dropReturn ((t.split '\n').headD []) := by
  obtain ⟨piece, pieces, hs⟩ := exists_split_eq_cons '\n' t
  rw [lines, headD_dropTrailingEmpty, hs]
  rfl

end FirstLine

end TableThrift.Text
