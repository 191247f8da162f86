import TableThrift.Proofs.Conversion.Columns
import TableThrift.Proofs.Conversion.Layout

/-!
# More columns to leave out

The columns to leave out count as a set. With more of them a struct keeps its name and its remark
and loses fields, whose numbers then pass to the fields behind them. If it loses all of them, the
conversion is refused; a conversion that is refused stays so, in the same words.

## Main results

* `Options.Excludes.mono`: more entries leave out more columns
* `Statement.fields_sublist`: and so leave fewer fields
* `convert_of_ignored_subset`: the struct that is left
* `convert_eq_error_of_ignored_subset`: a refusal that stays
* `conversion_of_ignored_subset`: conversions with fewer and with more columns to leave out
-/

namespace TableThrift

section Fields

variable {o o' : Options} {ddl : Text} {lines : List Text} {s : Struct}

theorem Options.Excludes.mono {identifier : Text} (h : o.ignored ⊆ o'.ignored)
    (he : o.Excludes identifier) : o'.Excludes identifier := by
  obtain ⟨entry, hentry, hid⟩ := he
  exact ⟨entry, h hentry, hid⟩

/-- **Fewer fields are left**, in their old order, where more columns are left out. -/
theorem Statement.fields_sublist
    (h : ∀ c ∈ columns lines, o.Excludes c.identifier → o'.Excludes c.identifier) :
    (fields o' lines).Sublist (fields o lines) := by
  rw [fields_eq, fields_eq]
  apply List.Sublist.map
  -- What stays under `o'` is what stays under `o` and is not left out for another reason.
  have hfilter : ((columns lines).filter fun c => ¬ o'.Excludes c.identifier) =
      ((columns lines).filter fun c => ¬ o.Excludes c.identifier).filter
        fun c => ¬ o'.Excludes c.identifier := by
    rw [List.filter_filter]
    apply List.filter_congr
    intro c hc
    by_cases he : o.Excludes c.identifier
    · simp [he, h c hc he]
    · simp [he]
  rw [hfilter]
  exact List.filter_sublist

/-- **The struct that is left** has the old name and the old remark, if any field is left. -/
theorem convert_of_ignored_subset (hp : o'.tablePrefix = o.tablePrefix)
    (h : o.ignored ⊆ o'.ignored) (hs : convert o ddl = .ok (some s)) :
    ∃ fields : List Field, fields.Sublist s.fields ∧
      convert o' ddl =
        if fields = [] then .error (.fieldless s.name) else .ok (some { s with fields }) := by
  obtain ⟨hl, rfl⟩ := eq_of_convert_eq_ok hs
  have hn : Statement.name o ddl.lines ≠ [] := by
    intro hn
    rw [convert_eq, if_neg hl, if_pos hn] at hs
    cases hs
  refine ⟨Statement.fields o' ddl.lines, Statement.fields_sublist fun c _ he => he.mono h, ?_⟩
  rw [convert_eq, if_neg hl, Statement.name_congr hp, if_neg hn]

/-- **A refused conversion stays refused**, for the same reason. -/
theorem convert_eq_error_of_ignored_subset {gap : Draft.Gap}
    (hp : o'.tablePrefix = o.tablePrefix) (h : o.ignored ⊆ o'.ignored)
    (he : convert o ddl = .error gap) : convert o' ddl = .error gap := by
  have hsub := @Statement.fields_sublist o o' ddl.lines fun c _ he => he.mono h
  rw [convert_eq] at he ⊢
  rw [Statement.name_congr hp]
  split_ifs at he with hl hn hf
  · rw [if_neg hl, if_pos hn, he]
  · rw [hf] at hsub
    rw [if_neg hl, if_neg hn, if_pos (List.sublist_nil.1 hsub), he]

end Fields

section Conversion

/-- **Conversions with more columns to leave out.** Whether there is a statement at all does not
depend on them. A refused conversion is refused in the same words with more of them. If both give a
text, the texts have the same first two lines, and the fields of the one are among those of the
other, in the same order, each list numbered from one, as long as 32 bits are enough for the
numbers. If only the text with fewer of them is there, it is the fields that the other lacks. So the
entries count as a set. -/
theorem conversion_of_ignored_subset (tablePrefix ddl : Text) {few many : List Text}
    (h : few ⊆ many) :
    let o : Options := ⟨tablePrefix, few⟩
    let o' : Options := ⟨tablePrefix, many⟩
    (conversionReport o' ddl = .ok none ↔ conversionReport o ddl = .ok none) ∧
    (∀ message, conversionReport o ddl = .error message →
      conversionReport o' ddl = .error message) ∧
    (∀ text text', conversionReport o ddl = .ok (some text) →
      conversionReport o' ddl = .ok (some text') →
      ∃ s s' : Struct, convert o ddl = .ok (some s) ∧ convert o' ddl = .ok (some s') ∧
        s'.fields.Sublist s.fields ∧
        (∃ first second : Text,
          Text.pieces lineBreak text = [first, second] ++ Field.lines s.fields ++ [['}']] ∧
          Text.pieces lineBreak text' = [first, second] ++ Field.lines s'.fields ++ [['}']]) ∧
        (s.fields.length < UInt32.size →
          Field.lines s.fields = ((s.fields.zipIdx 1).map fun p => p.1.line p.2) ∧
          Field.lines s'.fields = ((s'.fields.zipIdx 1).map fun p => p.1.line p.2))) ∧
    (∀ text message, conversionReport o ddl = .ok (some text) →
      conversionReport o' ddl = .error message →
      ∃ s : Struct, convert o ddl = .ok (some s) ∧
        message = "struct \x60".toList ++ s.name ++ "\x60 has no fields".toList) ∧
    (many ⊆ few → conversionReport o' ddl = conversionReport o ddl) := by
  intro o o'
  have hp : o'.tablePrefix = o.tablePrefix := rfl
  have hsub : o.ignored ⊆ o'.ignored := h
  refine ⟨?_, ?_, ?_, ?_, ?_⟩
  · rw [conversionReport_eq_ok_none_iff, conversionReport_eq_ok_none_iff]
  · intro message he
    obtain ⟨gap, hgap, rfl⟩ := exists_of_conversionReport_eq_error he
    rw [conversionReport, convert_eq_error_of_ignored_subset hp hsub hgap]
  · intro text text' ht ht'
    obtain ⟨s, hs, rfl⟩ := exists_of_conversionReport_eq_some ht
    obtain ⟨s', hs', rfl⟩ := exists_of_conversionReport_eq_some ht'
    obtain ⟨fields, hfields, hleft⟩ := convert_of_ignored_subset hp hsub hs
    rw [hs'] at hleft
    split_ifs at hleft
    obtain rfl := Option.some.inj (Except.ok.inj hleft)
    exact ⟨s, _, hs, hs', hfields,
      ⟨_, _, pieces_render_of_convert hs, pieces_render_of_convert hs'⟩, fun hfew =>
        ⟨Field.lines_of_few hfew,
          Field.lines_of_few (Nat.lt_of_le_of_lt hfields.length_le hfew)⟩⟩
  · intro text message ht he
    obtain ⟨s, hs, rfl⟩ := exists_of_conversionReport_eq_some ht
    obtain ⟨gap, hgap, rfl⟩ := exists_of_conversionReport_eq_error he
    obtain ⟨fields, -, hleft⟩ := convert_of_ignored_subset hp hsub hs
    rw [hgap] at hleft
    split_ifs at hleft
    obtain rfl := Except.error.inj hleft
    exact ⟨s, hs, rfl⟩
  · intro hsup
    refine conversionReport_of_excludes_iff hp ?_
    intro c hc
    exact ⟨fun he => he.mono hsup, fun he => he.mono hsub⟩

/-- Of four columns the second is left out, and then the first by its identifier and the last by its
name as well, so that the third passes from the second place to the first. -/
theorem conversion_of_ignored_subset_first :
    let few : List Text := ["b_b".toList]
    let many : List Text := ["dD".toList, "b_b".toList, "a_a".toList, "b_b".toList]
    let ddl : Text := "CREATE TABLE \x60t\x60\n\x60a_a\x60 int\n\x60b_b\x60 int".toList ++
      "\n\x60c_c\x60 bigint\n\x60d_d\x60 int".toList
    let text : Text := "//\r\nstruct T\x7b\r\n    1:optional i32 aA //\r\n".toList ++
      "    2:optional i64 cC //\r\n    3:optional i32 dD //\r\n\x7d".toList
    let text' : Text := "//\r\nstruct T\x7b\r\n    1:optional i64 cC //\r\n\x7d".toList
    few ⊆ many ∧ conversionReport ⟨[], few⟩ ddl = .ok (some text) ∧
    conversionReport ⟨[], many⟩ ddl = .ok (some text') ∧
    ∃ s s' : Struct, convert ⟨[], few⟩ ddl = .ok (some s) ∧
      convert ⟨[], many⟩ ddl = .ok (some s') ∧ s'.fields.Sublist s.fields := by
  intro few many ddl text text'
  have h : few ⊆ many := by decide
  have ht : conversionReport ⟨[], few⟩ ddl = .ok (some text) := by decide +kernel
  have ht' : conversionReport ⟨[], many⟩ ddl = .ok (some text') := by decide +kernel
  obtain ⟨-, -, hboth, -⟩ := conversion_of_ignored_subset [] ddl h
  obtain ⟨s, s', hs, hs', hfields, -⟩ := hboth text text' ht ht'
  exact ⟨h, ht, ht', s, s', hs, hs', hfields⟩

/-- With all of them left out there is no text. -/
example :
    conversionReport ⟨[], ["a".toList, "bB".toList]⟩
        "CREATE TABLE \x60t\x60\n\x60a\x60 int\n\x60b_b\x60 int".toList =
      .error "struct \x60T\x60 has no fields".toList := by
  decide +kernel

end Conversion

end TableThrift
