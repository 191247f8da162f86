import TableThrift.Proofs.Conversion.StructName
import TableThrift.Proofs.Conversion.Summary
import TableThrift.Proofs.Struct.Layout
import TableThrift.Proofs.Text.Case

/-!
# The lines of a converted statement

No line of a statement holds a newline, and nothing that is read off a line can bring one back: a
quoted part has the characters of its line, erasing a prefix adds none, and neither camel case nor
upper-casing makes a newline. So every part of the struct stays on its own line of the text.

## Main results

* `Statement.fields_singleLine`, `Statement.remark?_singleLine`: what lines without newlines give
* `singleLine_of_convert`: the struct of a conversion has no newline in its parts
* `pieces_render_of_convert`: what stands between the line breaks
* `conversion_layout`: the lines of the text of a conversion
-/

namespace TableThrift

/-! ## Parts of a line -/

section Parts

variable {o : Options} {line : Text} {lines : List Text}

theorem Statement.fieldOf?_singleLine {f : Field} (h : '\n' ∉ line)
    (hf : fieldOf? o line = some f) : '\n' ∉ f.name ∧ '\n' ∉ f.remark := by
  unfold fieldOf? at hf
  split at hf
  · cases hf
  · obtain ⟨type, -, rfl⟩ := Option.map_eq_some_iff.1 hf
    exact ⟨Text.not_mem_toCamelCase (.inl (by decide)) fun hm => h (Text.enclosed_subset _ line hm),
      fun hm => h (Text.enclosedAfter_subset _ _ line hm)⟩

theorem Statement.fields_singleLine (h : ∀ line ∈ lines, '\n' ∉ line) :
    ∀ f ∈ fields o lines, '\n' ∉ f.name ∧ '\n' ∉ f.remark := by
  intro f hf
  obtain ⟨line, hl, hf⟩ := List.mem_filterMap.1 hf
  exact fieldOf?_singleLine (h line hl) hf

theorem Statement.remark?_singleLine (h : ∀ line ∈ lines, '\n' ∉ line) :
    '\n' ∉ (remark? lines).getD [] := by
  cases hr : remark? lines with
  | none => exact List.not_mem_nil
  | some remark =>
    obtain ⟨line, hl, rfl⟩ := List.mem_map.1 (List.mem_of_mem_filter (List.mem_of_getLast? hr))
    exact fun hm => h line hl (Line.closingRemark_subset line hm)

end Parts

/-! ## The text of a conversion -/

section Conversion

variable {o : Options} {ddl : Text} {s : Struct}

/-- The struct of a conversion has no newline in any of its parts. -/
theorem singleLine_of_convert (h : convert o ddl = .ok (some s)) : s.SingleLine := by
  have hl : ∀ line ∈ ddl.lines, '\n' ∉ line := fun _ => Text.not_mem_of_mem_lines
  obtain ⟨-, rfl⟩ := eq_of_convert_eq_ok h
  exact ⟨newline_not_mem_structName _ _, Statement.remark?_singleLine hl,
    Statement.fields_singleLine hl⟩

/-- Between the line breaks of the text of a conversion stand the remark, the name, the lines of the
fields and the closing brace. -/
theorem pieces_render_of_convert (h : convert o ddl = .ok (some s)) :
    Text.pieces lineBreak s.render =
      ["//".toList ++ s.remark, "struct ".toList ++ s.name ++ ['{']] ++
        Field.lines s.fields ++ [['}']] :=
  (singleLine_of_convert h).pieces_render

/-- **The lines of the text of a conversion.** Its newlines are those of its line breaks, and what
stands between the line breaks are the remark, the name, the line of each field in order, and the
closing brace. The line of a field begins with its number, which counts from one as long as 32 bits
are enough for the numbers. -/
theorem conversion_layout (h : convert o ddl = .ok (some s)) :
    s.render.count '\n' = s.fields.length + 2 ∧
    (∀ before after, s.render = before ++ '\n' :: after → ['\r'] <:+ before) ∧
    (Text.pieces lineBreak s.render).length = s.fields.length + 3 ∧
    Text.pieces lineBreak s.render =
      ["//".toList ++ s.remark, "struct ".toList ++ s.name ++ ['{']] ++
        Field.lines s.fields ++ [['}']] ∧
    (s.fields.length < UInt32.size → ∀ i (hi : i < s.fields.length),
      (Text.pieces lineBreak s.render)[i + 2]? = some (s.fields[i].line (i + 1)) ∧
      "    ".toList ++ Nat.toDigits 10 (i + 1) ++ ":".toList <+: s.fields[i].line (i + 1)) := by
  have hs := singleLine_of_convert h
  have hpieces := pieces_render_of_convert h
  refine ⟨hs.count_render, fun before after => hs.suffix_of_render, ?_, hpieces, ?_⟩
  · rw [hs.pieces_render, Struct.length_layout]
  · intro hfew i hi
    have hline : ((s.fields.zipIdx 1).map fun p => p.1.line p.2)[i]? =
        some (s.fields[i].line (i + 1)) := by
      rw [List.getElem?_map, List.getElem?_zipIdx, List.getElem?_eq_getElem hi, Nat.add_comm 1 i]
      rfl
    refine ⟨?_, Field.prefix_line _ _⟩
    -- The lines of the fields follow two others and are followed by one.
    rw [hpieces, Field.lines_of_few hfew, List.append_assoc, List.cons_append, List.cons_append,
      List.nil_append, List.getElem?_cons_succ, List.getElem?_cons_succ,
      List.getElem?_append_left (by simpa using hi), hline]

/-- A statement whose identifier, remark and comments end with a carriage return of their own. -/
theorem conversion_layout_returns :
    let o : Options := { tablePrefix := "t_".toList }
    let ddl : Text := "CREATE TABLE \x60t_a\r\x60\n\x60user_id\x60 int COMMENT 'c\r',\r\n".toList ++
      "\x60b\x60 bigint NOT NULL COMMENT 'd\r',\r\n) ENGINE 'r\r'".toList
    let s : Struct := ⟨"A\r".toList, "r\r".toList,
      [⟨.optional, .i32, "userId".toList, "c\r".toList⟩,
        ⟨.required, .i64, "b".toList, "d\r".toList⟩]⟩
    convert o ddl = .ok (some s) ∧ s.fields.length < UInt32.size ∧
      s.render.count '\n' = 4 ∧
      (∀ before after, s.render = before ++ '\n' :: after → ['\r'] <:+ before) ∧
      Text.pieces lineBreak s.render =
        ["//r\r".toList, "struct A\r\x7b".toList, "    1:optional i32 userId //c\r".toList,
          "    2:required i64 b //d\r".toList, "\x7d".toList] ∧
      (Text.pieces lineBreak s.render)[3]? = some "    2:required i64 b //d\r".toList := by
  intro o ddl s
  have h : convert o ddl = .ok (some s) := by decide +kernel
  have hfew : s.fields.length < UInt32.size := by decide
  obtain ⟨hcount, hbefore, -, hpieces, hline⟩ := conversion_layout h
  refine ⟨h, hfew, hcount, hbefore, hpieces.trans ?_, (hline hfew 1 (by decide)).1.trans ?_⟩
  · decide +kernel
  · decide +kernel

end Conversion

end TableThrift
