import TableThrift.Proofs.Conversion.Outcome
import TableThrift.Proofs.Text.Enclosed

/-!
# Line ends of a statement

A line of a statement may end with a newline or with a carriage return and a newline, each line in
its own way. A conversion does not see the difference, nor the blank lines behind a statement. The
name of the struct is the same whether the first line is taken from the lines of the statement or
read off its text.

## Main definitions

* `LineEnd`: the two ways to end a line
* `Text.Written`: a text in which lines are written down with any ends

## Main results

* `Text.Written.map_split`: the pieces of such a text
* `Text.Written.lines_eq`: its lines
* `structName_firstLine`: the name that the first line gives
* `conversionReport_of_written`: line ends do not change a conversion
-/

namespace TableThrift

/-- The two ways to end a line. -/
inductive LineEnd where
  | newline
  | returnNewline
deriving DecidableEq, Repr

/-- The characters of a line end. -/
def LineEnd.text : LineEnd → Text
  | newline => ['\n']
  | returnNewline => ['\r', '\n']

namespace Text

/-! ## Lines written down -/

/-- A text in which lines are written down, each with an end of its own. The last line may lack
one, and blank lines may follow. -/
inductive Written : List Text → Text → Prop
  | blanks (ends : List LineEnd) : Written [] (ends.flatMap LineEnd.text)
  | last (line : Text) (ends : List LineEnd) :
    Written [line] (line ++ ends.flatMap LineEnd.text)
  | line (line : Text) (e : LineEnd) {lines : List Text} {t : Text} :
    Written lines t → Written (line :: lines) (line ++ (e.text ++ t))

section Written

variable {line t t' : Text} {lines : List Text}

/-- A line with its end is the first piece of a text, but for its carriage return. -/
theorem map_split_append (hn : '\n' ∉ line) (hr : line.getLast? ≠ some '\r') (e : LineEnd)
    (t : Text) :
    (split '\n' (line ++ (e.text ++ t))).map dropReturn =
      line :: (split '\n' t).map dropReturn := by
  cases e with
  | newline =>
    have he : line ++ (LineEnd.newline.text ++ t) = line ++ '\n' :: t := rfl
    rw [he, split_append_cons hn, List.map_cons, dropReturn_of_ne hr]
  | returnNewline =>
    have he : line ++ (LineEnd.returnNewline.text ++ t) = (line ++ ['\r']) ++ '\n' :: t := by
      simp [LineEnd.text]
    have hn' : '\n' ∉ line ++ ['\r'] := by simpa using hn
    rw [he, split_append_cons hn', List.map_cons, dropReturn_append_return]

/-- Blank lines have only empty pieces. -/
theorem eq_nil_of_mem_map_split (ends : List LineEnd) :
    ∀ piece ∈ (split '\n' (ends.flatMap LineEnd.text)).map dropReturn, piece = [] := by
  induction ends with
  | nil => simp
  | cons e ends ih =>
    have hs := map_split_append List.not_mem_nil (by simp) e (ends.flatMap LineEnd.text)
    rw [List.nil_append] at hs
    rw [List.flatMap_cons, hs]
    intro piece hp
    rcases List.mem_cons.1 hp with rfl | hp
    · rfl
    · exact ih piece hp

/-- The pieces of a text in which lines are written down are the lines, but for carriage returns,
and empty ones behind them. -/
theorem Written.map_split (h : Written lines t)
    (hl : ∀ line ∈ lines, '\n' ∉ line ∧ line.getLast? ≠ some '\r') :
    ∃ blanks : List Text, (split '\n' t).map dropReturn = lines ++ blanks ∧
      ∀ piece ∈ blanks, piece = [] := by
  induction h with
  | blanks ends => exact ⟨_, rfl, eq_nil_of_mem_map_split ends⟩
  | last line ends =>
    obtain ⟨hn, hr⟩ := hl line List.mem_cons_self
    cases ends with
    | nil =>
      refine ⟨[], ?_, nofun⟩
      rw [List.flatMap_nil, List.append_nil, split_of_not_mem hn, List.map_singleton,
        dropReturn_of_ne hr, List.append_nil]
    | cons e ends =>
      -- The end of the first blank line is that of the last line.
      exact ⟨_, by rw [List.flatMap_cons, map_split_append hn hr]; rfl,
        eq_nil_of_mem_map_split ends⟩
  | line line e h ih =>
    obtain ⟨hn, hr⟩ := hl line List.mem_cons_self
    obtain ⟨blanks, hb, he⟩ := ih fun l hm => hl l (List.mem_cons_of_mem line hm)
    exact ⟨blanks, by rw [map_split_append hn hr, hb]; rfl, he⟩

/-- **The lines of a text in which lines are written down** are these lines without the empty ones
at their end. -/
theorem Written.lines_eq (h : Written lines t)
    (hl : ∀ line ∈ lines, '\n' ∉ line ∧ line.getLast? ≠ some '\r') :
    t.lines = lines.rdropWhile List.isEmpty := by
  obtain ⟨blanks, hb, he⟩ := h.map_split hl
  rw [Text.lines, hb, dropTrailingEmpty_append he, dropTrailingEmpty_eq]

end Written

end Text

/-! ## Conversions -/

section Conversion

variable {t t' : Text} {lines : List Text}

/-- A carriage return at the end of a line does not change the name that it gives. -/
theorem structName_dropReturn {line : Text} (h : '\n' ∉ line) (tablePrefix : Text) :
    structName (Text.dropReturn line) tablePrefix = structName line tablePrefix := by
  rw [structName, Line.identifier, Text.enclosed_dropReturn h (by decide), structName,
    Line.identifier]

/-- **The name that the first line gives** is that of the lines, although a carriage return at the
end of a single line belongs to the one and not to the other. -/
theorem structName_firstLine (ddl tablePrefix : Text) :
    structName ddl.firstLine tablePrefix = structName (ddl.lines.headD []) tablePrefix := by
  rw [Text.headD_lines]
  by_cases hn : '\n' ∈ ddl
  · -- Before a newline both drop the carriage return; without one only the lines do.
    obtain ⟨line, rest, rfl, hl⟩ := List.eq_append_cons_of_mem hn
    rw [Text.firstLine_append_cons hl, Text.split_append_cons hl, List.headD_cons]
  · rw [Text.firstLine_of_not_mem hn, Text.split_of_not_mem hn, List.headD_cons,
      structName_dropReturn hn]

/-- A conversion sees only the lines of a statement. -/
theorem conversionReport_congr (o : Options) (h : t.lines = t'.lines) :
    conversionReport o t = conversionReport o t' := by
  rw [conversionReport_eq, conversionReport_eq, h]

/-- **Line ends do not change a conversion.** The lines of a text in which lines are written down
are these lines without the empty ones at their end, and the same lines with other ends are
converted to the same text or refused in the same words. -/
theorem conversionReport_of_written (h : Text.Written lines t)
    (hl : ∀ line ∈ lines, '\n' ∉ line ∧ line.getLast? ≠ some '\r') :
    t.lines = lines.rdropWhile List.isEmpty ∧
    ∀ (o : Options) (t' : Text), Text.Written lines t' →
      conversionReport o t' = conversionReport o t := by
  refine ⟨h.lines_eq hl, ?_⟩
  intro o t' h'
  exact conversionReport_congr o ((h'.lines_eq hl).trans (h.lines_eq hl).symm)

/-- A statement with an empty line in it and one behind it, in two ways to end its lines. -/
theorem conversionReport_of_written_mixed :
    let lines : List Text := ["CREATE TABLE \x60a\x60".toList, [], "\x60x\x60 int".toList, []]
    let t : Text := "CREATE TABLE \x60a\x60\r\n\n\x60x\x60 int\r\n\r\n\n".toList
    let t' : Text := "CREATE TABLE \x60a\x60\n\r\n\x60x\x60 int\n".toList
    (Text.Written lines t ∧ Text.Written lines t' ∧
      ∀ line ∈ lines, '\n' ∉ line ∧ line.getLast? ≠ some '\r') ∧
    t.lines = ["CREATE TABLE \x60a\x60".toList, [], "\x60x\x60 int".toList] ∧
    conversionReport {} t' = conversionReport {} t := by
  intro lines t t'
  have h : Text.Written lines t :=
    .line _ .returnNewline (.line _ .newline (.line _ .returnNewline
      (.line _ .returnNewline (.blanks [.newline]))))
  have h' : Text.Written lines t' :=
    .line _ .newline (.line _ .returnNewline (.line _ .newline (.last [] [])))
  have hl : ∀ line ∈ lines, '\n' ∉ line ∧ line.getLast? ≠ some '\r' := by decide
  obtain ⟨hlines, hreport⟩ := conversionReport_of_written h hl
  exact ⟨⟨h, h', hl⟩, hlines, hreport {} t' h'⟩

end Conversion

end TableThrift
