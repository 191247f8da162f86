import TableThrift.Ddl.Table
import TableThrift.Proofs.Ddl.Line

/-!
# Reading the line of a column

On the line of a column, backticks and quotes keep the identifier and the remark apart from the
words of the line, so that no word arises across them. The words by which a line is told are looked
for in the identifier and in the remark too. There they may make a remark of the table out of the
column, or change its type or its presence; nothing else in the two texts does.

## Main definitions

* `ColumnDefinition.middle`: the part of a line between identifier and remark
* `ColumnDefinition.Delimited`: a column whose texts hold no quotes that end them
* `ColumnDefinition.Mentions`: whether a word stands in the identifier or the remark of a column
* `ColumnDefinition.shownType`, `ColumnDefinition.shownPresence`: what the line of a column says of
  it
* `ColumnDefinition.Misleads`: whether the line of a column closes the table

## Main results

* `ColumnDefinition.infix_line_iff`: where a word can stand on the line of a column
* `ColumnDefinition.Delimited.closes_line_iff`: when the line of a column closes the table
* `ColumnDefinition.reading_of_line`: what the line of a column is read as
* `ColumnDefinition.exists_misread`: the two texts may change how a line is read
-/

namespace TableThrift

/-- The word of a column type holds no word of another one but `int`, which ends two of them. -/
theorem ColumnType.word_infix_word_iff (type type' : ColumnType) :
    type.word <:+: type'.word ↔
      type = type' ∨ type = .int ∧ (type' = .bigint ∨ type' = .tinyint) := by
  cases type <;> cases type' <;> decide +kernel

namespace ColumnDefinition

/-- The part of a line between the identifier and the quoted remark. -/
def middle (c : ColumnDefinition) : Text :=
  ' ' :: ((c.type.word ++ parenthesized c.width) ++
    ' ' :: (c.presence.clause ++ " COMMENT ".toList))

section Middle

variable {c : ColumnDefinition} {x : Char}

theorem mem_parenthesized {width : Option (List (Fin 10))} (h : x ∈ parenthesized width) :
    x.isDigit = true ∨ x ∈ "()".toList := by
  have hd : ∀ d : Fin 10, d.val.digitChar.isDigit = true := by decide
  cases width with
  | none => cases h
  | some digits =>
    simp only [parenthesized, List.mem_append, List.mem_map, List.mem_singleton] at h
    rcases h with (rfl | ⟨d, -, rfl⟩) | rfl
    · exact .inr (by decide)
    · exact .inl (hd d)
    · exact .inr (by decide)

theorem mem_clause {p : Presence} (h : x ∈ p.clause) : x.isLower = true ∨ x ∈ " NOTUL".toList := by
  have hp : p.clause.all (fun y => y.isLower || " NOTUL".toList.contains y) = true := by
    cases p <;> decide
  have hx := List.all_eq_true.1 hp x h
  rwa [Bool.or_eq_true, List.contains_iff_mem] at hx

/-- The characters between the identifier and the remark. -/
theorem mem_middle (h : x ∈ c.middle) :
    x.isLower = true ∨ x.isDigit = true ∨ x ∈ " ()NOTULCME".toList := by
  have hs : "()".toList ++ " NOTUL".toList ++ " COMMENT ".toList ⊆ " ()NOTULCME".toList := by
    decide
  simp only [middle, List.mem_cons, List.mem_append] at h
  rcases h with rfl | (h | h) | rfl | h | h
  · exact .inr (.inr (by decide))
  · exact .inl (ColumnType.isLower_of_mem_word h)
  · rcases mem_parenthesized h with h | h
    · exact .inr (.inl h)
    · exact .inr (.inr (hs (by simp only [List.mem_append, h, true_or])))
  · exact .inr (.inr (by decide))
  · rcases mem_clause h with h | h
    · exact .inl h
    · exact .inr (.inr (hs (by simp only [List.mem_append, h, true_or, or_true])))
  · exact .inr (.inr (hs (by simp only [List.mem_append, h, or_true])))

/-- The words between the type and the remark hold no word of a column type. -/
theorem word_not_infix_clause (type : ColumnType) (p : Presence) :
    ¬ type.word <:+: p.clause ++ " COMMENT ".toList := by
  cases type <;> cases p <;> decide +kernel

/-- A width adds no word of a column type to the word of the type. -/
theorem word_infix_parenthesized_iff (type type' : ColumnType) (width : Option (List (Fin 10))) :
    type.word <:+: type'.word ++ parenthesized width ↔ type.word <:+: type'.word := by
  cases width with
  | none => rw [parenthesized, List.append_nil]
  | some digits =>
    have hp : '(' ∉ type.word := ColumnType.not_mem_word (by decide)
    have hd : ∀ d : Fin 10, d.val.digitChar.isLower = false := by decide
    have hdigits : ¬ type.word <:+: digits.map (fun d => d.val.digitChar) ++ [')'] := by
      refine ColumnType.not_infix_word (List.any_eq_false.2 fun x hx => ?_)
      rcases List.mem_append.1 hx with hx | hx
      · obtain ⟨d, -, rfl⟩ := List.mem_map.1 hx
        rw [hd d]
        exact Bool.false_ne_true
      · rw [List.mem_singleton.1 hx]
        decide
    have ha : parenthesized (some digits) =
        '(' :: (digits.map (fun d => d.val.digitChar) ++ [')']) := rfl
    rw [ha, Text.infix_append_cons_iff hp, or_iff_left hdigits]

/-- The words of column types in the middle of a line are those in the word of its type. -/
theorem word_infix_middle_iff (type : ColumnType) :
    type.word <:+: c.middle ↔ type.word <:+: c.type.word := by
  have hs : ' ' ∉ type.word := ColumnType.not_mem_word (by decide)
  have hnil : ¬ type.word <:+: [] := fun h => ColumnType.word_ne_nil type (List.infix_nil.1 h)
  -- The spaces divide the middle into the type with its width and the words behind it.
  rw [middle, ← List.nil_append (' ' :: _), Text.infix_append_cons_iff hs, or_iff_right hnil,
    Text.infix_append_cons_iff hs, or_iff_left (word_not_infix_clause type c.presence),
    word_infix_parenthesized_iff]

/-- The middle of a line says that the column must have a value exactly if it must. -/
theorem required_infix_middle_iff :
    "NOT NUL".toList <:+: c.middle ↔ c.presence = .required := by
  cases hp : c.presence with
  | required =>
    refine iff_of_true ?_ rfl
    have hc : "NOT NUL".toList <:+: c.presence.clause := by
      rw [hp]
      exact ⟨[], "L".toList, by decide⟩
    refine hc.trans ?_
    exact ⟨' ' :: ((c.type.word ++ parenthesized c.width) ++ [' ']), " COMMENT ".toList, by
      simp [middle]⟩
  | optional =>
    refine iff_of_false ?_ (by decide)
    have hnull : c.presence.clause = "null".toList := by rw [hp]; rfl
    -- The letter `u` of the clause divides the search.
    have hm : c.middle = (' ' :: ((c.type.word ++ parenthesized c.width) ++ " n".toList)) ++
        'u' :: "ll COMMENT ".toList := by
      rw [middle, hnull]
      simp
    have hn : 'N' ∉ ' ' :: ((c.type.word ++ parenthesized c.width) ++ " n".toList) := by
      have hw : 'N' ∉ c.type.word := ColumnType.not_mem_word (by decide)
      have hd : 'N' ∉ parenthesized c.width := fun h => absurd (mem_parenthesized h) (by decide)
      simp [hw, hd]
    rw [hm, Text.infix_append_cons_iff (by decide)]
    rintro (h | h)
    · exact Text.not_infix_of_not_mem (c := 'N') (by decide) hn h
    · exact absurd h (by decide +kernel)

end Middle

/-! ## Words on the line -/

section Line

variable {c : ColumnDefinition} {word : Text} {x : Char}

/-- The line of a column around its backticks and quotes. -/
theorem line_eq (c : ColumnDefinition) :
    c.line = List.replicate c.indent ' ' ++ '\x60' ::
      (c.identifier ++ '\x60' :: (c.middle ++ '\'' :: (c.remark ++ '\'' :: [',']))) := by
  simp [line, middle]

/-- A word without quotes that is more than spaces and commas stands in the identifier, in the
remark or between them. -/
theorem infix_line_iff (hb : '\x60' ∉ word) (hq : '\'' ∉ word) (hx : x ∈ word) (hs : x ≠ ' ')
    (hc : x ≠ ',') :
    word <:+: c.line ↔ word <:+: c.identifier ∨ word <:+: c.middle ∨ word <:+: c.remark := by
  have hspaces : ¬ word <:+: List.replicate c.indent ' ' :=
    Text.not_infix_of_not_mem hx fun h => hs (List.eq_of_mem_replicate h)
  have hcomma : ¬ word <:+: [','] :=
    Text.not_infix_of_not_mem hx fun h => hc (List.mem_singleton.1 h)
  rw [line_eq, Text.infix_append_cons_iff hb, Text.infix_append_cons_iff hb,
    Text.infix_append_cons_iff hq, Text.infix_append_cons_iff hq, or_iff_right hspaces,
    or_iff_left hcomma]

/-- A column whose texts hold no quotes that end them. -/
structure Delimited (c : ColumnDefinition) : Prop where
  identifier_backtick : '\x60' ∉ c.identifier
  identifier_newline : '\n' ∉ c.identifier
  remark_backtick : '\x60' ∉ c.remark
  remark_quote : '\'' ∉ c.remark
  remark_newline : '\n' ∉ c.remark

instance : DecidablePred Delimited := fun c =>
  decidable_of_iff (('\x60' ∉ c.identifier ∧ '\n' ∉ c.identifier) ∧
      '\x60' ∉ c.remark ∧ '\'' ∉ c.remark ∧ '\n' ∉ c.remark)
    ⟨fun ⟨⟨hib, hin⟩, hrb, hrq, hrn⟩ => ⟨hib, hin, hrb, hrq, hrn⟩,
      fun h => ⟨⟨h.identifier_backtick, h.identifier_newline⟩, h.remark_backtick, h.remark_quote,
        h.remark_newline⟩⟩

/-- The line of a delimited column holds no newline. -/
theorem Delimited.newline_not_mem_line (h : c.Delimited) : '\n' ∉ c.line := by
  have hm : '\n' ∉ c.middle := fun hm => absurd (mem_middle hm) (by decide)
  rw [line_eq]
  simp [h.identifier_newline, h.remark_newline, hm]

/-- The outermost backticks on the line of a delimited column enclose its identifier. -/
theorem Delimited.identifier_line (h : c.Delimited) : Line.identifier c.line = c.identifier := by
  have hm : '\x60' ∉ c.middle := fun hm => absurd (mem_middle hm) (by decide)
  have hn := h.newline_not_mem_line
  rw [line_eq] at hn
  rw [Line.identifier, line_eq]
  refine Text.enclosed_append hn (fun hs => ?_) (by simp [hm, h.remark_backtick])
  exact absurd (List.eq_of_mem_replicate hs) (by decide)

/-- The last two quotes on the line of a delimited column enclose its remark. -/
theorem Delimited.columnRemark_line (h : c.Delimited) : Line.columnRemark c.line = c.remark := by
  -- The word `COMMENT` may stand in the identifier too, but no later than here.
  have hl : c.line = (List.replicate c.indent ' ' ++ '\x60' :: (c.identifier ++ '\x60' ::
      (' ' :: ((c.type.word ++ parenthesized c.width) ++ ' ' :: (c.presence.clause ++ [' ']))))) ++
      ("COMMENT".toList ++ ([' '] ++ '\'' :: (c.remark ++ '\'' :: [',']))) := by
    simp [line_eq, middle]
  have hn := h.newline_not_mem_line
  rw [hl] at hn
  rw [Line.columnRemark, hl]
  exact Text.enclosedAfter_append (by decide) hn h.remark_quote (by decide)

end Line

/-! ## What the two texts change -/

section Mentions

variable {c : ColumnDefinition} {word : Text}

/-- Whether a word stands in the identifier or in the remark of a column. -/
def Mentions (c : ColumnDefinition) (word : Text) : Prop :=
  word <:+: c.identifier ∨ word <:+: c.remark

instance (c : ColumnDefinition) : DecidablePred c.Mentions := fun _ =>
  inferInstanceAs (Decidable (_ ∨ _))

/-- The type that the line of a column shows: the first in search order that is the type of the
column or is mentioned. -/
def shownType (c : ColumnDefinition) : ColumnType :=
  (ColumnType.searchOrder.find? fun type => type = c.type ∨ c.Mentions type.word).getD c.type

/-- The presence that the line of a column shows. -/
def shownPresence (c : ColumnDefinition) : Presence :=
  if c.Mentions "NOT NUL".toList then .required else c.presence

/-- Whether the line of a column names an engine and quotes something. -/
def Misleads (c : ColumnDefinition) : Prop :=
  c.Mentions "ENGINE".toList ∧ (c.remark ≠ [] ∨ '\'' ∈ c.identifier)

instance : DecidablePred Misleads := fun _ => inferInstanceAs (Decidable (_ ∧ _))

/-- Only the identifier and the remark can name an engine. -/
theorem engine_infix_line_iff : "ENGINE".toList <:+: c.line ↔ c.Mentions "ENGINE".toList := by
  have hm : 'G' ∉ c.middle := fun hm => absurd (mem_middle hm) (by decide)
  rw [infix_line_iff (x := 'G') (by decide) (by decide) (by decide) (by decide) (by decide),
    or_iff_right (Text.not_infix_of_not_mem (by decide) hm), Mentions]

/-- The words of column types on a line are those in the word of its type and the mentioned ones. -/
theorem word_infix_line_iff (type : ColumnType) :
    type.word <:+: c.line ↔ type.word <:+: c.type.word ∨ c.Mentions type.word := by
  obtain ⟨x, hx⟩ := List.exists_mem_of_ne_nil type.word (ColumnType.word_ne_nil type)
  have hl := ColumnType.isLower_of_mem_word hx
  rw [infix_line_iff (ColumnType.not_mem_word (by decide)) (ColumnType.not_mem_word (by decide))
      hx (by rintro rfl; exact absurd hl (by decide)) (by rintro rfl; exact absurd hl (by decide)),
    word_infix_middle_iff, or_left_comm, Mentions]

theorem required_infix_line_iff :
    "NOT NUL".toList <:+: c.line ↔ c.presence = .required ∨ c.Mentions "NOT NUL".toList := by
  rw [infix_line_iff (x := 'N') (by decide) (by decide) (by decide) (by decide) (by decide),
    required_infix_middle_iff, or_left_comm, Mentions]

/-- The search for the type that a line shows finds one, at the latest the type of the column. -/
theorem find?_searchOrder_eq (c : ColumnDefinition) :
    (ColumnType.searchOrder.find? fun type => type = c.type ∨ c.Mentions type.word) =
      some c.shownType := by
  rw [shownType]
  cases hf : ColumnType.searchOrder.find? fun type => type = c.type ∨ c.Mentions type.word with
  | none =>
    -- Every type is searched for, that of the column among them.
    have hc := List.find?_eq_none.1 hf c.type (Line.mem_searchOrder c.type)
    exact absurd (decide_eq_true (.inl rfl)) hc
  | some type => rfl

/-- The line of a column has the type that it shows. -/
theorem baseType?_line (c : ColumnDefinition) :
    Line.baseType? c.line = some c.shownType.base := by
  have ho : ∀ type : ColumnType, Text.occurs type.word c.line =
      decide (type.word <:+: c.type.word ∨ c.Mentions type.word) := fun type =>
    Bool.eq_iff_iff.2 (by rw [Text.occurs_iff, word_infix_line_iff, decide_eq_true_iff])
  have hf : ColumnType.searchOrder.find? (fun type => Text.occurs type.word c.line) =
      ColumnType.searchOrder.find? fun type => type = c.type ∨ c.Mentions type.word := by
    simp only [ho, ColumnType.word_infix_word_iff]
    -- The word `int` in another word is not reached, as that word is looked for before.
    cases c.type <;> simp [ColumnType.searchOrder, List.find?_cons]
  rw [Line.baseType?, hf, find?_searchOrder_eq, Option.map_some]

/-- The line of a column has the presence that it shows. -/
theorem presence_line (c : ColumnDefinition) : Line.presence c.line = c.shownPresence := by
  unfold Line.presence shownPresence
  by_cases hm : c.Mentions "NOT NUL".toList
  · rw [if_pos hm, if_pos (Text.occurs_iff.2 (required_infix_line_iff.2 (.inr hm)))]
  · have hi := required_infix_line_iff.trans (or_iff_left hm)
    rw [if_neg hm]
    cases hp : c.presence with
    | required => rw [if_pos (Text.occurs_iff.2 (hi.2 hp))]
    | optional => rw [if_neg fun ho => by cases hp.symm.trans (hi.1 (Text.occurs_iff.1 ho))]

/-- The line of a delimited column closes the table exactly when it names an engine and quotes
something. -/
theorem Delimited.closes_line_iff (h : c.Delimited) : Line.Closes c.line ↔ c.Misleads := by
  have hn := h.newline_not_mem_line
  have hm : '\'' ∉ c.middle := fun hm => absurd (mem_middle hm) (by decide)
  rw [Line.Closes, engine_infix_line_iff, Misleads]
  refine and_congr_right fun _ => ?_
  by_cases hq : '\'' ∈ c.identifier
  · -- The first quote stands in the identifier, and encloses at least the backtick behind it.
    obtain ⟨u, v, hid, hu⟩ := List.eq_append_cons_of_mem hq
    have hl : c.line = (List.replicate c.indent ' ' ++ '\x60' :: u) ++ '\'' ::
        ((v ++ '\x60' :: (c.middle ++ '\'' :: c.remark)) ++ '\'' :: [',']) := by
      rw [line_eq, hid]
      simp
    have hbefore : '\'' ∉ List.replicate c.indent ' ' ++ '\x60' :: u := by
      simp [hu]
    rw [hl] at hn ⊢
    rw [Text.enclosed_append hn hbefore (by decide)]
    simp [hq]
  · -- The quotes of the remark are the only ones.
    have hl : c.line = (List.replicate c.indent ' ' ++ '\x60' :: (c.identifier ++ '\x60' ::
        c.middle)) ++ '\'' :: (c.remark ++ '\'' :: [',']) := by
      rw [line_eq]
      simp
    have hbefore : '\'' ∉ List.replicate c.indent ' ' ++ '\x60' :: (c.identifier ++ '\x60' ::
        c.middle) := by
      simp [hq, hm]
    rw [hl] at hn ⊢
    rw [Text.enclosed_append hn hbefore (by decide)]
    simp [hq]

/-- The line of a delimited column is read as a column of its identifier and remark, with what the
line shows, unless it names an engine and quotes something. -/
theorem Delimited.read_line (h : c.Delimited) (hm : ¬ c.Misleads) :
    Line.read c.line =
      .column ⟨c.identifier, c.shownPresence, c.shownType.base, c.remark⟩ := by
  rw [Line.read_of_not_closes fun hc => hm (h.closes_line_iff.1 hc), baseType?_line]
  simp only [h.identifier_line, presence_line, h.columnRemark_line]

end Mentions

section Reading

variable {c : ColumnDefinition}

/-- The words that tell the presence and the type of a column. -/
def clues : List Text := "NOT NUL".toList :: ColumnType.searchOrder.map ColumnType.word

/-- Columns of one type and presence that mention the same clues show the same. -/
theorem shown_congr {identifier remark : Text}
    (h : ∀ word ∈ clues, ({ c with identifier, remark }.Mentions word ↔ c.Mentions word)) :
    { c with identifier, remark }.shownType = c.shownType ∧
      { c with identifier, remark }.shownPresence = c.shownPresence := by
  have ht : ∀ type : ColumnType,
      { c with identifier, remark }.Mentions type.word ↔ c.Mentions type.word := fun type =>
    h _ (List.mem_cons_of_mem _ (List.mem_map_of_mem (Line.mem_searchOrder type)))
  have hp := h _ List.mem_cons_self
  simp only [shownType, shownPresence, ht, hp, and_self]

/-- **What the line of a column is read as.** It is read as a remark of the table exactly when the
identifier or the remark names an engine and the line quotes something. Otherwise it is read as a
column of that identifier and remark, of the first type in search order that is its own or is
mentioned in one of them, and required if it is or if they say so. Another identifier and another
remark that agree with them in this give the same reading. -/
theorem reading_of_line (h : c.Delimited) :
    ((∃ remark, Line.read c.line = .closing remark) ↔ c.Misleads) ∧
    (¬ c.Misleads → Line.read c.line =
      .column ⟨c.identifier, c.shownPresence, c.shownType.base, c.remark⟩) ∧
    ∀ identifier remark : Text, { c with identifier, remark }.Delimited →
      ({ c with identifier, remark }.Misleads ↔ c.Misleads) →
      (∀ word ∈ clues, ({ c with identifier, remark }.Mentions word ↔ c.Mentions word)) →
      ∀ presence type, Line.read c.line = .column ⟨c.identifier, presence, type, c.remark⟩ ↔
        Line.read { c with identifier, remark }.line =
          .column ⟨identifier, presence, type, remark⟩ := by
  refine ⟨?_, h.read_line, fun identifier remark h' hm hw presence type => ?_⟩
  · rw [← h.closes_line_iff]
    constructor
    · exact fun ⟨remark, hr⟩ => (Line.read_eq_closing_iff.1 hr).1
    · exact fun hc => ⟨_, Line.read_of_closes hc⟩
  · obtain ⟨ht, hp⟩ := shown_congr hw
    -- Either both lines close the table, or both are columns that show the same.
    by_cases hc : c.Misleads
    · rw [Line.read_of_closes (h.closes_line_iff.2 hc),
        Line.read_of_closes (h'.closes_line_iff.2 (hm.2 hc))]
      exact iff_of_false Line.noConfusion Line.noConfusion
    · rw [h.read_line hc, h'.read_line fun hc' => hc (hm.1 hc'), ht, hp]
      simp

/-- The word `int` in the identifier of a `varchar` column is not reached by the search. -/
theorem reading_of_line_point : ∃ c : ColumnDefinition, c.Delimited ∧
    c.line = "  \x60point\x60 varchar(8) null COMMENT 'not null',".toList ∧
    Line.read c.line = .column ⟨"point".toList, .optional, .string, "not null".toList⟩ ∧
    Line.read { c with identifier := "print".toList, remark := [] }.line =
      .column ⟨"print".toList, .optional, .string, []⟩ := by
  let c : ColumnDefinition :=
    ⟨2, "point".toList, .varchar, some [8], .optional, "not null".toList⟩
  obtain ⟨-, hr, hi⟩ := reading_of_line (c := c) (by decide)
  have hc : Line.read c.line = .column ⟨"point".toList, .optional, .string, "not null".toList⟩ := by
    have hp : c.shownPresence = .optional := by decide
    have ht : c.shownType = .varchar := by decide
    rw [hr (by decide), hp, ht]
    rfl
  exact ⟨c, by decide, by decide, hc,
    (hi "print".toList [] (by decide) (by decide) (by decide) .optional .string).1 hc⟩

/-- **A misread column**: an engine in the remark of a column makes it a remark of the table, a
type in its identifier changes its type, and `NOT NULL` in its remark makes it required. -/
theorem exists_misread :
    (¬ ∀ c : ColumnDefinition, c.Delimited → ∃ column, Line.read c.line = .column column) ∧
    (¬ ∀ (c : ColumnDefinition) (identifier : Text), c.Delimited → { c with identifier }.Delimited →
      Line.baseType? { c with identifier }.line = Line.baseType? c.line) ∧
    ¬ ∀ (c : ColumnDefinition) (remark : Text), c.Delimited → { c with remark }.Delimited →
      Line.presence { c with remark }.line = Line.presence c.line := by
  let c : ColumnDefinition := ⟨4, "count".toList, .int, none, .optional, "n".toList⟩
  have hc : c.Delimited := by decide
  refine ⟨fun h => ?_, fun h => ?_, fun h => ?_⟩
  · obtain ⟨column, hr⟩ := h { c with remark := "ENGINE".toList } (by decide)
    have he : Line.read { c with remark := "ENGINE".toList }.line = .closing "ENGINE".toList := by
      decide
    cases he.symm.trans hr
  · exact absurd (h c "bigint_count".toList hc (by decide)) (by decide)
  · exact absurd (h c "NOT NULL".toList hc (by decide)) (by decide)

end Reading

end ColumnDefinition

end TableThrift
