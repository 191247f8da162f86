import TableThrift.Conversion
import TableThrift.Proofs.Ddl.Line

/-!
# What a conversion collects

A conversion passes over the lines of a statement once and keeps a draft. At the end the draft
holds the name from the first line, the last remark that a line closed the table with, and one
field for each typed line that neither closes the table nor names a column to leave out.

## Main definitions

* `Options.Excludes`: whether a column is to be left out, by either spelling
* `Statement.fieldOf?`, `Statement.fields`: the field of a line, and those of a list of lines
* `Statement.remark?`: the last remark of a list of lines
* `Statement.name`: the name that a list of lines gives to a struct

## Main results

* `Statement.fieldOf?_of_read_eq_closing`, `Statement.fieldOf?_of_read_eq_column`,
  `Statement.fieldOf?_of_read_eq_other`: the field of a line by its reading
* `Draft.take_eq`: what one line adds to a draft
* `Draft.foldl_take`: what a list of lines adds to a draft
* `convert_eq`: a conversion by name, remark and fields
* `eq_of_convert_eq_ok`: the parts of the struct of a conversion
-/

namespace TableThrift

/-- Whether the columns to leave out name a column, by its identifier or by its field name. -/
def Options.Excludes (o : Options) (identifier : Text) : Prop :=
  ∃ entry ∈ o.ignored, entry = identifier ∨ entry = Text.toCamelCase identifier

instance (o : Options) : DecidablePred o.Excludes := fun _ =>
  inferInstanceAs (Decidable (∃ entry ∈ o.ignored, _))

theorem Options.ignores_iff {o : Options} {c : Column} :
    o.ignores c = true ↔ o.Excludes c.identifier := by
  rw [ignores, Bool.or_eq_true, List.contains_iff_mem, List.contains_iff_mem]
  constructor
  · rintro (h | h)
    · exact ⟨_, h, .inl rfl⟩
    · exact ⟨_, h, .inr rfl⟩
  · rintro ⟨entry, h, rfl | rfl⟩
    · exact .inl h
    · exact .inr h

/-- Leaving out members changes nothing exactly when they have no image. -/
theorem filterMap_filter_eq_iff {α β : Type} {f : α → Option β} {p : α → Bool} {l : List α} :
    l.filterMap f = (l.filter p).filterMap f ↔ ∀ a ∈ l, p a = false → f a = none := by
  induction l with
  | nil => simp
  | cons a l ih =>
    by_cases hp : p a = true
    · rw [List.filter_cons_of_pos hp, List.filterMap_cons, List.filterMap_cons,
        List.forall_mem_cons, ← ih]
      cases f a <;> simp [hp]
    · rw [List.filter_cons_of_neg hp, List.filterMap_cons, List.forall_mem_cons, ← ih]
      cases hf : f a with
      | none => simp
      | some b =>
        -- One image more on the left, and never fewer on the rest.
        have hl := ((List.filter_sublist (p := p) (l := l)).filterMap f).length_le
        constructor
        · intro h
          have := congrArg List.length h
          rw [List.length_cons] at this
          omega
        · intro h
          exact absurd (h.1 (by simpa using hp)) (by simp)

namespace Statement

/-! ## Name, remark and fields of a list of lines -/

section Parts

variable {o : Options} {line : Text} {lines : List Text}

/-- The field of a line; none if the line closes the table, has no type or names a column to leave
out. -/
def fieldOf? (o : Options) (line : Text) : Option Field :=
  if Line.Closes line ∨ o.Excludes (Line.identifier line) then none
  else (Line.baseType? line).map fun type =>
    ⟨Line.presence line, type, Text.toCamelCase (Line.identifier line), Line.columnRemark line⟩

/-- The fields of a list of lines, in order. -/
def fields (o : Options) (lines : List Text) : List Field := lines.filterMap (fieldOf? o)

/-- The last remark of a list of lines that is not empty, if there is one. -/
def remark? (lines : List Text) : Option Text :=
  ((lines.map Line.closingRemark).filter (· ≠ [])).getLast?

/-- The name that the first of a list of lines gives to a struct. -/
def name (o : Options) (lines : List Text) : Text := structName (lines.headD []) o.tablePrefix

theorem fieldOf?_eq_none_iff :
    fieldOf? o line = none ↔
      Line.Closes line ∨ ¬ Line.Typed line ∨ o.Excludes (Line.identifier line) := by
  unfold fieldOf?
  split
  · next h =>
    rcases h with h | h
    · exact ⟨fun _ => .inl h, fun _ => rfl⟩
    · exact ⟨fun _ => .inr (.inr h), fun _ => rfl⟩
  · next h =>
    rw [not_or] at h
    rw [Option.map_eq_none_iff, Line.baseType?_eq_none_iff]
    constructor
    · exact fun ht => .inr (.inl ht)
    · rintro (hc | ht | he)
      · exact absurd hc h.1
      · exact ht
      · exact absurd he h.2

/-- A line that closes the table gives no field. -/
theorem fieldOf?_of_read_eq_closing {remark : Text} (h : Line.read line = .closing remark) :
    fieldOf? o line = none :=
  fieldOf?_eq_none_iff.2 (.inl (Line.read_eq_closing_iff.1 h).1)

/-- A line that says nothing gives no field. -/
theorem fieldOf?_of_read_eq_other (h : Line.read line = .other) : fieldOf? o line = none :=
  fieldOf?_eq_none_iff.2 (.inr (.inl (Line.read_eq_other_iff.1 h).2))

/-- A column gives its field, unless it is left out. -/
theorem fieldOf?_of_read_eq_column {c : Column} (h : Line.read line = .column c) :
    fieldOf? o line = if o.Excludes c.identifier then none else some c.field := by
  obtain ⟨hc, type, ht, rfl⟩ := Line.read_eq_column_iff.1 h
  unfold fieldOf?
  rw [ht]
  by_cases he : o.Excludes (Line.identifier line)
  · simp [he]
  · simp [he, hc, Column.field]

/-- A line gives at most one field, before those of the lines behind it. -/
theorem fields_cons (o : Options) (line : Text) (lines : List Text) :
    fields o (line :: lines) = (fieldOf? o line).toList ++ fields o lines := by
  rw [fields, List.filterMap_cons, fields]
  cases fieldOf? o line <;> rfl

/-- The fields around the field of a line. -/
theorem fields_append_cons (before after : List Text) (line : Text) :
    fields o (before ++ line :: after) =
      fields o before ++ ((fieldOf? o line).toList ++ fields o after) := by
  rw [← fields_cons]
  exact List.filterMap_append

/-- There are no fields exactly when every line closes the table, has no type or names a column to
leave out. -/
theorem fields_eq_nil_iff :
    fields o lines = [] ↔ ∀ line ∈ lines,
      Line.Closes line ∨ ¬ Line.Typed line ∨ o.Excludes (Line.identifier line) := by
  rw [fields, List.filterMap_eq_nil_iff]
  simp only [fieldOf?_eq_none_iff]

/-- Lines may be left out without a change exactly when they close the table, have no type or name a
column to leave out. -/
theorem fields_filter_eq_iff {p : Text → Bool} :
    fields o lines = fields o (lines.filter p) ↔ ∀ line ∈ lines, p line = false →
      Line.Closes line ∨ ¬ Line.Typed line ∨ o.Excludes (Line.identifier line) := by
  rw [fields, fields, filterMap_filter_eq_iff]
  simp only [fieldOf?_eq_none_iff]

theorem remark?_cons (line : Text) (lines : List Text) :
    remark? (line :: lines) = (remark? lines).or
      (if Line.Closes line then some (Line.closingRemark line) else none) := by
  unfold remark?
  rw [List.map_cons]
  split
  · next h =>
    rw [List.filter_cons_of_pos (by simpa using Line.closingRemark_ne_nil_iff.2 h),
      List.getLast?_cons]
    cases ((lines.map Line.closingRemark).filter (· ≠ [])).getLast? <;> rfl
  · next h =>
    rw [List.filter_cons_of_neg (by simpa using Line.closingRemark_of_not_closes h),
      Option.or_none]

/-- Of the options, a name depends on the prefix alone. -/
theorem name_congr {o' : Options} (h : o'.tablePrefix = o.tablePrefix) (lines : List Text) :
    name o' lines = name o lines := by
  rw [name, h, name]

/-- Without lines there is no name. -/
theorem name_nil (o : Options) : name o [] = [] := by
  have h : Line.identifier [] = [] := rfl
  rw [name, List.headD_nil, structName, h, structNameOf,
    List.subset_nil.1 (Text.eraseFirst_subset o.tablePrefix [])]
  rfl

end Parts

end Statement

/-! ## The pass over the lines -/

section Pass

variable {o : Options} {d : Draft}

/-- What one line adds to a draft: a remark if it closes the table, else at most one field. -/
theorem Draft.take_eq (o : Options) (d : Draft) (line : Text) :
    d.take o line = ⟨d.name,
      (if Line.Closes line then some (Line.closingRemark line) else none).or d.remark,
      d.fields ++ (Statement.fieldOf? o line).toList⟩ := by
  unfold Draft.take
  cases h : Line.read line with
  | closing remark =>
    obtain ⟨hc, rfl⟩ := Line.read_eq_closing_iff.1 h
    simp [Statement.fieldOf?_of_read_eq_closing h, hc, remarked]
  | column c =>
    obtain ⟨hc, -⟩ := Line.read_eq_column_iff.1 h
    rw [Statement.fieldOf?_of_read_eq_column h]
    by_cases he : o.Excludes c.identifier
    · simp [hc, he, Options.ignores_iff]
    · simp [hc, he, Options.ignores_iff, add]
  | other =>
    obtain ⟨hc, -⟩ := Line.read_eq_other_iff.1 h
    simp [Statement.fieldOf?_of_read_eq_other h, hc]

/-- **What a list of lines adds to a draft**: the last remark replaces the one of the draft, and
the fields come behind its own. -/
theorem Draft.foldl_take (o : Options) (lines : List Text) (d : Draft) :
    lines.foldl (Draft.take o) d =
      ⟨d.name, (Statement.remark? lines).or d.remark, d.fields ++ Statement.fields o lines⟩ := by
  -- The draft is left general, as each line changes it before the others are taken.
  induction lines generalizing d with
  | nil => simp [Statement.remark?, Statement.fields]
  | cons line lines ih =>
    rw [List.foldl_cons, ih, Draft.take_eq, Statement.remark?_cons, Option.or_assoc,
      List.append_assoc, Statement.fields_cons]

/-- A draft whose name may be empty: the name is asked for before the fields. -/
theorem Draft.finish_named (name : Text) (remark : Option Text) (fields : List Field) :
    Draft.finish ⟨if name = [] then none else some name, remark, fields⟩ =
      if name = [] then .error .nameless
      else if fields = [] then .error (.fieldless name)
      else .ok ⟨name, remark.getD [], fields⟩ := by
  unfold Draft.finish
  by_cases hn : name = []
  · rw [if_pos hn, if_pos hn]
  · rw [if_neg hn, if_neg hn]

/-- **A conversion by its parts.** -/
theorem convert_eq (o : Options) (ddl : Text) :
    convert o ddl =
      if ddl.lines = [] then .ok none
      else if Statement.name o ddl.lines = [] then .error .nameless
      else if Statement.fields o ddl.lines = [] then
        .error (.fieldless (Statement.name o ddl.lines))
      else .ok (some ⟨Statement.name o ddl.lines, (Statement.remark? ddl.lines).getD [],
        Statement.fields o ddl.lines⟩) := by
  unfold convert
  split
  · next h => rw [if_pos h]
  · next first rest h =>
    -- The first line gives the name, and is then taken again with the others.
    have hd : draft o first (first :: rest) =
        ⟨if Statement.name o (first :: rest) = [] then none
          else some (Statement.name o (first :: rest)),
          Statement.remark? (first :: rest), Statement.fields o (first :: rest)⟩ := by
      rw [draft, Draft.foldl_take, Draft.named, Option.or_none, List.nil_append]
      rfl
    rw [h, if_neg (List.cons_ne_nil first rest), hd, Draft.finish_named,
      apply_ite (Except.map some), apply_ite (Except.map some)]
    rfl

/-- The struct of a conversion has the name, the remark and the fields of the lines. -/
theorem eq_of_convert_eq_ok {ddl : Text} {s : Struct} (h : convert o ddl = .ok (some s)) :
    ddl.lines ≠ [] ∧ s = ⟨Statement.name o ddl.lines, (Statement.remark? ddl.lines).getD [],
      Statement.fields o ddl.lines⟩ := by
  rw [convert_eq] at h
  split_ifs at h with hl hn hf
  · cases h
  · exact ⟨hl, (Option.some.inj (Except.ok.inj h)).symm⟩

end Pass

end TableThrift
