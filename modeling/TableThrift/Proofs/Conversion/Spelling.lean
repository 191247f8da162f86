import TableThrift.Proofs.Conversion.Columns

/-!
# The two spellings of a column to leave out

A column is left out under its identifier as well as under the name of its field. The name in camel
case leaves out at least what the identifier leaves out, as camel case does not change it again. It
leaves out no other column if the names of all fields would be different, and then either spelling
gives the same outcome.

## Main results

* `Options.ignores_iff_exists`: a column is left out because of one entry
* `Options.toCamelCase_eq_of_ignores`: an entry and the columns that it leaves out agree in camel
  case
* `Options.ignores_toCamelCase_iff`: what an entry in camel case leaves out
* `Options.ignores_toCamelCase_iff_of_nodup`: the same with distinct names
* `conversion_of_respelled`: either spelling in a conversion
-/

namespace TableThrift

namespace Options

variable {o : Options} {c : Column} {entry : Text} {before after : List Text}

/-! ## Single entries -/

section Entry

theorem ignores_singleton_iff :
    Options.ignores { ignored := [entry] } c = true ↔
      entry = c.identifier ∨ entry = Text.toCamelCase c.identifier := by
  rw [ignores_iff, Excludes]
  simp only [List.mem_singleton, exists_eq_left]

/-- A column is left out exactly if a single entry leaves it out. -/
theorem ignores_iff_exists :
    o.ignores c = true ↔
      ∃ entry ∈ o.ignored, Options.ignores { ignored := [entry] } c = true := by
  simp only [ignores_singleton_iff]
  exact ignores_iff

/-- In camel case an entry is the name of every column that it leaves out. -/
theorem toCamelCase_eq_of_ignores
    (h : Options.ignores { ignored := [entry] } c = true) :
    Text.toCamelCase entry = Text.toCamelCase c.identifier := by
  rcases ignores_singleton_iff.1 h with rfl | rfl
  · rfl
  · exact Text.toCamelCase_toCamelCase c.identifier

/-- **What an entry in camel case leaves out**: all columns with this name. -/
theorem ignores_toCamelCase_iff :
    Options.ignores { ignored := [Text.toCamelCase entry] } c = true ↔
      Text.toCamelCase entry = Text.toCamelCase c.identifier := by
  constructor
  · intro h
    rw [← toCamelCase_eq_of_ignores h, Text.toCamelCase_toCamelCase]
  · intro h
    exact ignores_singleton_iff.2 (.inr h)

/-- Among columns with distinct names, the identifier of one of them leaves out the same columns in
camel case. -/
theorem ignores_toCamelCase_iff_of_nodup {columns : List Column}
    (hdistinct : (columns.map fun c => Text.toCamelCase c.identifier).Nodup)
    (hentry : ∃ c ∈ columns, c.identifier = entry) (hc : c ∈ columns) :
    Options.ignores { ignored := [Text.toCamelCase entry] } c = true ↔
      Options.ignores { ignored := [entry] } c = true := by
  rw [ignores_toCamelCase_iff]
  constructor
  · intro h
    obtain ⟨d, hd, rfl⟩ := hentry
    -- The two columns share their name, so they are the same one.
    obtain rfl := List.inj_on_of_nodup_map hdistinct hd hc h
    exact ignores_singleton_iff.2 (.inl rfl)
  · exact toCamelCase_eq_of_ignores

end Entry

/-! ## Lists of entries -/

section Entries

theorem ignores_append_cons (h : o.ignored = before ++ entry :: after) :
    o.ignores c = true ↔ Options.ignores { ignored := before ++ after } c = true ∨
      Options.ignores { ignored := [entry] } c = true := by
  rw [ignores_iff_exists, ignores_iff_exists (o := { ignored := before ++ after }), h]
  constructor
  · rintro ⟨e, he, hc⟩
    rcases List.mem_append.1 he with he | he
    · exact .inl ⟨e, List.mem_append_left after he, hc⟩
    · rcases List.mem_cons.1 he with rfl | he
      · exact .inr hc
      · exact .inl ⟨e, List.mem_append_right before he, hc⟩
  · rintro (⟨e, he, hc⟩ | hc)
    · refine ⟨e, ?_, hc⟩
      rcases List.mem_append.1 he with he | he
      · exact List.mem_append_left _ he
      · exact List.mem_append_right _ (List.mem_cons_of_mem entry he)
    · exact ⟨entry, List.mem_append_right before List.mem_cons_self, hc⟩

end Entries

end Options

/-! ## Conversions -/

section Conversion

/-- **Either spelling leaves out the same column.** If the columns of a statement have distinct
names, the identifier of one of them may be replaced by its camel case among the columns to leave
out, and the conversion gives the same text or is refused in the same words. Otherwise the camel
case of an entry, which may be any text, still leaves out every column that is left out because of
the entry. -/
theorem conversion_of_respelled :
    (∀ (o : Options) (ddl : Text) (before after : List Text) (entry : Text),
      ((Statement.columns ddl.lines).map fun c => Text.toCamelCase c.identifier).Nodup →
      o.ignored = before ++ entry :: after →
      (∃ c ∈ Statement.columns ddl.lines, c.identifier = entry) →
      conversionReport { o with ignored := before ++ Text.toCamelCase entry :: after } ddl =
        conversionReport o ddl) ∧
    (∀ (o : Options) (c : Column), o.ignores c = true ↔
      ∃ entry ∈ o.ignored, Options.ignores { ignored := [entry] } c = true) ∧
    ∀ (entry : Text) (c : Column), Options.ignores { ignored := [entry] } c = true →
      Options.ignores { ignored := [Text.toCamelCase entry] } c = true := by
  refine ⟨?_, fun _ _ => Options.ignores_iff_exists, ?_⟩
  · intro o ddl before after entry hdistinct hignored hentry
    refine conversionReport_of_excludes_iff ?_ ?_
    · rfl
    intro c hc
    rw [← Options.ignores_iff, ← Options.ignores_iff, Options.ignores_append_cons rfl,
      Options.ignores_append_cons hignored,
      Options.ignores_toCamelCase_iff_of_nodup hdistinct hentry hc]
  · intro entry c h
    exact Options.ignores_toCamelCase_iff.2 (Options.toCamelCase_eq_of_ignores h)

/-- The second of three entries is replaced, and its column stays away. -/
theorem conversion_of_respelled_middle :
    let o : Options := { ignored := ["x".toList, "up_time".toList, "y".toList] }
    let o' : Options := { ignored := ["x".toList, "upTime".toList, "y".toList] }
    let ddl : Text :=
      "CREATE TABLE \x60t\x60\n\x60id\x60 bigint\n\x60up_time\x60 int\n\x60uptime\x60 int".toList
    let hit : Column := ⟨"up_time".toList, .optional, .i32, []⟩
    ((Statement.columns ddl.lines).map fun c => Text.toCamelCase c.identifier).Nodup ∧
    (∃ c ∈ Statement.columns ddl.lines, c.identifier = "up_time".toList) ∧
    conversionReport o' ddl = conversionReport o ddl ∧
    conversionReport o' ddl = .ok (some
      ("//\r\nstruct T\x7b\r\n    1:optional i64 id //\r\n".toList ++
        "    2:optional i32 uptime //\r\n\x7d".toList)) ∧
    Options.ignores { ignored := ["up_time".toList] } hit = true ∧
    Options.ignores { ignored := [Text.toCamelCase "up_time".toList] } hit = true := by
  intro o o' ddl hit
  obtain ⟨hreport, -, hleft⟩ := conversion_of_respelled
  have hdistinct :
      ((Statement.columns ddl.lines).map fun c => Text.toCamelCase c.identifier).Nodup := by
    decide +kernel
  have hentry : ∃ c ∈ Statement.columns ddl.lines, c.identifier = "up_time".toList := by
    decide +kernel
  have hhit : Options.ignores { ignored := ["up_time".toList] } hit = true := by decide
  have hsame := hreport o ddl ["x".toList] ["y".toList] "up_time".toList hdistinct rfl hentry
  exact ⟨hdistinct, hentry, hsame, by decide +kernel, hhit, hleft _ _ hhit⟩

/-- With a name for two columns the spelling matters: the camel case leaves out both. -/
example :
    let ddl : Text := "CREATE TABLE \x60t\x60\n\x60a_b\x60 int\n\x60aB\x60 bigint".toList
    conversionReport { ignored := ["a_b".toList] } ddl =
        .ok (some "//\r\nstruct T\x7b\r\n    1:optional i64 aB //\r\n\x7d".toList) ∧
      conversionReport { ignored := ["aB".toList] } ddl =
        .error "struct \x60T\x60 has no fields".toList := by
  decide +kernel

end Conversion

end TableThrift
