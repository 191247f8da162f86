import TableThrift.Proofs.Text.Cut
import TableThrift.Struct.Printer

/-!
# The lines of the text of a struct

The text of a struct has one line break between two of its lines. If its parts hold no newline,
the line breaks are the only newlines of the text, so that the lines can be told apart again.

## Main definitions

* `Struct.SingleLine`: a struct whose parts hold no newline

## Main results

* `Struct.pieces_render`: the pieces between the line breaks are the lines
* `Struct.count_render`, `Struct.suffix_of_render`: the newlines of the text, and what stands
  before each
* `Field.prefix_line`: how the line of a field begins
* `Field.lines_of_few`: the lines of fields that 32 bits can number
-/

namespace TableThrift

/-! ## Joined lines -/

section Join

variable {ts : List Text} {u v : Text}

/-- Joined lines without newlines hold one newline fewer than there are lines. -/
theorem count_intercalate_lineBreak (hne : ts ≠ []) (h : ∀ t ∈ ts, '\n' ∉ t) :
    (List.intercalate lineBreak ts).count '\n' + 1 = ts.length := by
  induction ts with
  | nil => exact absurd rfl hne
  | cons t ts ih =>
    have ht : t.count '\n' = 0 := List.count_eq_zero.2 (h t List.mem_cons_self)
    cases ts with
    | nil => rw [List.intercalate_singleton, ht, List.length_singleton]
    | cons t' ts =>
      have hb : lineBreak.count '\n' = 1 := by decide
      -- The first line brings no newline, and the break behind it brings one.
      have := ih (List.cons_ne_nil t' ts) fun s hs => h s (List.mem_cons_of_mem t hs)
      rw [List.intercalate_cons_cons, List.count_append, List.count_append, ht, hb,
        List.length_cons]
      omega

/-- In joined lines without newlines, a carriage return stands before every newline. -/
theorem suffix_of_intercalate_lineBreak (h : ∀ t ∈ ts, '\n' ∉ t)
    (he : List.intercalate lineBreak ts = u ++ '\n' :: v) : ['\r'] <:+ u := by
  induction ts generalizing u with
  | nil =>
    rw [List.intercalate_nil] at he
    exact absurd he.symm (by simp)
  | cons t ts ih =>
    have ht : '\n' ∉ t := h t List.mem_cons_self
    cases ts with
    | nil =>
      rw [List.intercalate_singleton] at he
      exact absurd (he ▸ List.mem_append_right u List.mem_cons_self) ht
    | cons t' ts =>
      have hl : List.intercalate lineBreak (t :: t' :: ts) =
          (t ++ ['\r']) ++ '\n' :: List.intercalate lineBreak (t' :: ts) := by
        simp [List.intercalate_cons_cons, lineBreak]
      have hr : '\n' ∉ t ++ ['\r'] := by simpa using ht
      rw [hl] at he
      -- The newline is the one of the first line break, or it stands in the lines behind it.
      rcases List.append_eq_append_iff.1 he with ⟨w, rfl, hw⟩ | ⟨w, hu, hw⟩
      · cases w with
        | nil => exact ⟨t, by simp⟩
        | cons c w =>
          obtain ⟨-, hw⟩ := List.cons.inj hw
          obtain ⟨p, hp⟩ := ih (fun s hs => h s (List.mem_cons_of_mem t hs)) hw
          exact ⟨t ++ ['\r'] ++ c :: p, by simp [← hp]⟩
      · cases w with
        | nil => exact ⟨t, by simpa using hu⟩
        | cons c w =>
          obtain ⟨rfl, -⟩ := List.cons.inj hw
          exact absurd (hu ▸ List.mem_append_right u List.mem_cons_self) hr

/-- An empty line behind others ends the last one of them. -/
theorem intercalate_lineBreak_concat_nil (hne : ts ≠ []) :
    List.intercalate lineBreak (ts ++ [[]]) = List.intercalate lineBreak ts ++ lineBreak := by
  induction ts with
  | nil => exact absurd rfl hne
  | cons t ts ih =>
    cases ts with
    | nil => simp [List.intercalate_cons_cons]
    | cons t' ts =>
      have ht := ih (List.cons_ne_nil t' ts)
      rw [List.cons_append] at ht
      rw [List.cons_append, List.cons_append, List.intercalate_cons_cons, ht,
        List.intercalate_cons_cons, List.append_assoc _ _ lineBreak]

end Join

namespace Struct

/-- A struct whose name, remark, field names and field remarks hold no newline. -/
structure SingleLine (s : Struct) : Prop where
  name : '\n' ∉ s.name
  remark : '\n' ∉ s.remark
  fields : ∀ f ∈ s.fields, '\n' ∉ f.name ∧ '\n' ∉ f.remark

end Struct

/-! ## Lines of a field -/

namespace Field

section Line

variable {f : Field}

/-- The line of a field begins with four spaces, its number and a colon. -/
theorem prefix_line (f : Field) (n : Nat) :
    "    ".toList ++ Nat.toDigits 10 n ++ ":".toList <+: f.line n := by
  refine ⟨f.presence.word ++ " ".toList ++ f.type.word ++ " ".toList ++ f.name ++ " //".toList ++
    f.remark, ?_⟩
  unfold Field.line
  simp only [List.append_assoc]

/-- The digits of a number hold no other characters. -/
theorem not_mem_toDigits {c : Char} (hc : c.isDigit = false) (n : Nat) :
    c ∉ Nat.toDigits 10 n := by
  intro h
  rw [Nat.isDigit_of_mem_toDigits (by decide) (by decide) h] at hc
  cases hc

/-- The line of a field holds no newline unless its name or its remark does. -/
theorem newline_not_mem_line (hn : '\n' ∉ f.name) (hr : '\n' ∉ f.remark) (n : Nat) :
    '\n' ∉ f.line n := by
  have hp : '\n' ∉ f.presence.word := by cases f.presence <;> decide
  have ht : '\n' ∉ f.type.word := by cases f.type <;> decide
  have hd : '\n' ∉ Nat.toDigits 10 n := not_mem_toDigits (by decide) n
  unfold Field.line
  simp [hd, hn, hr, hp, ht]

/-- With fewer fields than 32 bits can number, their lines are numbered from one on. -/
theorem lines_of_few {fields : List Field} (h : fields.length < UInt32.size) :
    lines fields = (fields.zipIdx 1).map fun p => p.1.line p.2 := by
  rw [lines, ← map_numbered h, List.map_map]
  rfl

end Line

end Field

/-! ## Lines of a struct -/

namespace Struct

section Render

variable {s : Struct} {u v : Text}

theorem length_layout (s : Struct) : s.layout.length = s.fields.length + 3 := by
  simp [layout, Field.lines]

/-- No line of a struct holds a newline unless a part of the struct does. -/
theorem SingleLine.not_mem_of_mem_layout (h : s.SingleLine) :
    ∀ t ∈ s.layout, '\n' ∉ t := by
  intro t ht
  rw [layout, List.mem_append, List.mem_append, Field.lines, List.mem_map] at ht
  rcases ht with (ht | ⟨⟨f, n⟩, hf, rfl⟩) | ht
  · rcases List.mem_cons.1 ht with rfl | ht
    · simpa using h.remark
    · rw [List.mem_singleton.1 ht]
      simpa using h.name
  · obtain ⟨hn, hr⟩ := h.fields f (Field.fst_mem_of_mem_numbered hf)
    exact Field.newline_not_mem_line hn hr n.toNat
  · rw [List.mem_singleton.1 ht]
    decide

theorem layout_ne_nil (s : Struct) : s.layout ≠ [] :=
  List.ne_nil_of_length_pos (by rw [length_layout]; omega)

/-- The pieces of the text between its line breaks are the lines. -/
theorem SingleLine.pieces_render (h : s.SingleLine) : Text.pieces lineBreak s.render = s.layout :=
  Text.pieces_intercalate ['\r'] (by decide) (layout_ne_nil s) h.not_mem_of_mem_layout

/-- A line break behind the text ends its last line. -/
theorem SingleLine.pieces_render_append (h : s.SingleLine) :
    Text.pieces lineBreak (s.render ++ lineBreak) = s.layout ++ [[]] := by
  have hlines : ∀ t ∈ s.layout ++ [[]], '\n' ∉ t := by
    intro t ht
    rcases List.mem_append.1 ht with ht | ht
    · exact h.not_mem_of_mem_layout t ht
    · rw [List.mem_singleton.1 ht]
      exact List.not_mem_nil
  rw [render, ← intercalate_lineBreak_concat_nil (layout_ne_nil s)]
  exact Text.pieces_intercalate ['\r'] (by decide) (by simp) hlines

/-- The text has two newlines more than the struct has fields. -/
theorem SingleLine.count_render (h : s.SingleLine) :
    s.render.count '\n' = s.fields.length + 2 := by
  have := count_intercalate_lineBreak (layout_ne_nil s) h.not_mem_of_mem_layout
  rw [length_layout] at this
  exact Nat.succ.inj this

/-- A carriage return stands before every newline of the text. -/
theorem SingleLine.suffix_of_render (h : s.SingleLine) (he : s.render = u ++ '\n' :: v) :
    ['\r'] <:+ u :=
  suffix_of_intercalate_lineBreak h.not_mem_of_mem_layout he

end Render

end Struct

end TableThrift
