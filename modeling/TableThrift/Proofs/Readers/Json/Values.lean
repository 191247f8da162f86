import TableThrift.Proofs.Readers.Json.Strings
import TableThrift.Readers.Json.Value

/-!
# Skipping values of any nesting

A value that nobody asks for is skipped with a stack of the brackets around it. The stack is the
same behind the value as in front of it, so the text of a value counts for nothing, however deep it
is nested.

## Main definitions

* `Json.Follows`: what may stand behind a value
* `Json.Skipped`: what skipping a part of a value comes to

## Main results

* `Json.skipUnsigned_append`: a number is skipped to its end
* `Json.skipped_of_wellFormed`, `Json.skipValue_append`: a value is skipped to its end
* `Json.next_separator`, `Json.next_closing`: the items between brackets one by one
-/

namespace TableThrift.Json

/-! ## Blanks and what stands behind them -/

section Blanks

variable {b t rest : Text}

theorem skipBlanks_append (hb : Blank b) : skipBlanks (b ++ t) = skipBlanks t :=
  List.dropWhile_append_of_pos hb

theorem skipBlanks_cons {c : Char} (hc : isBlank c = false) : skipBlanks (c :: t) = c :: t :=
  List.dropWhile_cons_of_neg (by simp [hc])

/-- The first character that is no blank. -/
theorem skipBlanks_append_cons {c : Char} (hb : Blank b) (hc : isBlank c = false) :
    skipBlanks (b ++ c :: t) = c :: t :=
  (skipBlanks_append hb).trans (skipBlanks_cons hc)

theorem skipBlanks_blank (hb : Blank b) : skipBlanks b = [] := by
  simpa [skipBlanks] using skipBlanks_append (t := []) hb

theorem expectColon_append (hb : Blank b) : expectColon (b ++ ':' :: t) = .ok t := by
  rw [expectColon, skipBlanks_append_cons hb rfl]
  rfl

theorem Separator.blank (hs : Separator true b) : Blank b := by
  cases hs with
  | first hb => exact hb

/-- Between two items there is a comma with blanks around it. -/
theorem skipBlanks_separator {s : Text} (hs : Separator false s) (t : Text) :
    ∃ b, Blank b ∧ skipBlanks (s ++ t) = ',' :: (b ++ t) := by
  cases hs with
  | comma hb hc =>
    refine ⟨_, hc, ?_⟩
    rw [List.append_assoc, List.cons_append, skipBlanks_append_cons hb rfl]

/-- What may stand behind a value: the end of the text, a blank, a comma or a closing bracket. A
number could not be told from a longer one otherwise. -/
def Follows (t : Text) : Prop :=
  ∀ c ∈ t.head?, isBlank c = true ∨ c = ',' ∨ c = ']' ∨ c = '}'

theorem Follows.append (hb : Blank b) (ht : Follows t) : Follows (b ++ t) := by
  cases b with
  | nil => exact ht
  | cons c b =>
    rintro d ⟨⟩
    exact .inl (hb c List.mem_cons_self)

/-- A text that starts with neither a blank nor a closing bracket, as every item does. -/
def StartsItem (t : Text) : Prop := ∃ c u, t = c :: u ∧ isBlank c = false ∧ c ≠ ']' ∧ c ≠ '}'

theorem isBlank_closing (bracket : Bracket) : isBlank bracket.closing = false := by
  cases bracket <;> rfl

theorem comma_ne_closing (bracket : Bracket) : ',' ≠ bracket.closing := by
  cases bracket <;> decide

theorem StartsItem.closing (ht : StartsItem t) (bracket : Bracket) :
    ∃ c u, t = c :: u ∧ isBlank c = false ∧ c ≠ bracket.closing := by
  obtain ⟨c, u, rfl, hc, hsequence, hobject⟩ := ht
  refine ⟨c, u, rfl, hc, ?_⟩
  cases bracket
  · exact hsequence
  · exact hobject

theorem StartsItem.append (ht : StartsItem t) : StartsItem (t ++ rest) := by
  obtain ⟨c, u, rfl, hc⟩ := ht
  exact ⟨c, u ++ rest, rfl, hc⟩

end Blanks

/-! ## Numbers -/

section Numbers

variable {ds f p w rest : Text}

theorem startsWithDigit_of_follows (h : Follows rest) : startsWithDigit rest = false := by
  cases rest with
  | nil => rfl
  | cons c t =>
    rcases h c rfl with h | rfl | rfl | rfl
    · simp only [isBlank, Bool.or_eq_true, beq_iff_eq] at h
      rcases h with ((rfl | rfl) | rfl) | rfl <;> rfl
    all_goals rfl

theorem Digits.cons (h : Digits ds) : ∃ c t, ds = c :: t ∧ isDigit c = true := by
  obtain ⟨hne, hd⟩ := h
  cases ds with
  | nil => exact absurd rfl hne
  | cons c t => exact ⟨c, t, rfl, hd c List.mem_cons_self⟩

theorem expectDigits_append (hd : Digits ds) (hr : startsWithDigit rest = false) :
    expectDigits (ds ++ rest) = .ok rest := by
  obtain ⟨c, t, rfl, hc⟩ := hd.cons
  have hrest : rest.dropWhile isDigit = rest := by
    cases rest with
    | nil => rfl
    | cons e u => exact List.dropWhile_cons_of_neg (by simpa [startsWithDigit] using hr)
  rw [expectDigits, skipDigits, List.dropWhile_append_of_pos hd.2, hrest]
  simp [startsWithDigit, hc]

theorem startsWithDigit_power (hp : Power p) (hr : Follows rest) :
    startsWithDigit (p ++ rest) = false := by
  cases hp with
  | absent => exact startsWithDigit_of_follows hr
  | digits he => rcases he with rfl | rfl <;> rfl

theorem startsWithDigit_fraction (hf : Fraction f) (hp : Power p) (hr : Follows rest) :
    startsWithDigit (f ++ (p ++ rest)) = false := by
  cases hf with
  | absent =>
    rw [List.nil_append]
    exact startsWithDigit_power hp hr
  | digits => rfl

theorem skipExponent_append (hp : Power p) (hr : Follows rest) :
    skipExponent (p ++ rest) = .ok rest := by
  cases hp with
  | absent =>
    -- What follows a value starts with no letter.
    rw [List.nil_append, skipExponent.eq_7]
    all_goals
      rintro t rfl
      simp [Follows, isBlank] at hr
  | digits he hs hd =>
    have hread := expectDigits_append hd (startsWithDigit_of_follows hr)
    obtain ⟨c, t, rfl, hc⟩ := hd.cons
    -- A digit is no sign: the reader does not take it for one.
    have hsign : c ≠ '+' ∧ c ≠ '-' := by
      constructor <;> rintro rfl <;> simp [isDigit, digit?] at hc
    rcases he with rfl | rfl <;> rcases hs with rfl | rfl | rfl <;>
      simp_all [skipExponent]

theorem skipFraction_append (hf : Fraction f) (hp : Power p) (hr : Follows rest) :
    skipFraction (f ++ (p ++ rest)) = .ok rest := by
  have hexp := skipExponent_append hp hr
  cases hf with
  | absent =>
    -- Without a point the reader goes on to the exponent.
    rw [List.nil_append, skipFraction.eq_2, hexp]
    rintro t ht
    cases hp with
    | absent =>
      rw [List.nil_append] at ht
      subst ht
      simp [Follows, isBlank] at hr
    | digits he => rcases he with rfl | rfl <;> simp at ht
  | digits hd =>
    have hread := expectDigits_append hd (startsWithDigit_power hp hr)
    simp [skipFraction, hread, hexp]

/-- **A number without its sign is skipped to its end.** -/
theorem skipUnsigned_append (hw : Whole w) (hf : Fraction f) (hp : Power p) (hr : Follows rest) :
    skipUnsigned (w ++ (f ++ (p ++ rest))) = .ok rest := by
  have hstop := startsWithDigit_fraction hf hp hr
  have hread := skipFraction_append hf hp hr
  cases hw with
  | zero => simp [skipUnsigned, hstop, hread]
  | digits hc hd =>
    rw [skipUnsigned.eq_2, expectDigits_append hd hstop]
    · exact hread
    · rintro t ht
      simp only [List.cons_append, List.cons.injEq] at ht
      exact hc ht.1

end Numbers

/-! ## Scalars -/

section Scalars

variable {t rest : Text}

/-- A text that is skipped to its end as a value without brackets. -/
def SkippedScalar (t : Text) : Prop :=
  ∃ c u, t = c :: u ∧ isBlank c = false ∧ c ∉ ['[', '{', ']', '}'] ∧
    ∀ rest, Follows rest → skipScalar c (u ++ rest) = .ok rest

theorem expectWord_append (word : Text) : expectWord word (word ++ t) = .ok t := by
  induction word with
  | nil => rfl
  | cons c word ih => rw [List.cons_append, expectWord, if_pos rfl, ih]

theorem skippedScalar_word (ht : t ∈ ["null".toList, "true".toList, "false".toList]) :
    SkippedScalar t := by
  simp only [List.mem_cons, List.not_mem_nil, or_false] at ht
  rcases ht with rfl | rfl | rfl
  · exact ⟨'n', "ull".toList, rfl, rfl, by decide, fun _ _ => expectWord_append "ull".toList⟩
  · exact ⟨'t', "rue".toList, rfl, rfl, by decide, fun _ _ => expectWord_append "rue".toList⟩
  · exact ⟨'f', "alse".toList, rfl, rfl, by decide, fun _ _ => expectWord_append "alse".toList⟩

theorem skippedScalar_literal (ht : Literal t) : SkippedScalar t := by
  obtain ⟨u, rfl, hread⟩ := ht.skipString_append
  exact ⟨'"', u, rfl, rfl, by decide, fun rest _ => hread rest⟩

theorem Whole.cons {w : Text} (hw : Whole w) : ∃ c u, w = c :: u ∧ isDigit c = true := by
  cases hw with
  | zero => exact ⟨_, _, rfl, rfl⟩
  | digits _ hd => exact ⟨_, _, rfl, hd.2 _ List.mem_cons_self⟩

theorem skippedScalar_numeral (ht : Numeral t) : SkippedScalar t := by
  cases ht with
  | @mk sign whole fraction power hs hw hf hp =>
    have hread rest (hr : Follows rest) :
        skipUnsigned (whole ++ (fraction ++ power) ++ rest) = .ok rest := by
      simpa using skipUnsigned_append hw hf hp hr
    rcases hs with rfl | rfl
    · obtain ⟨c, u, rfl, hc⟩ := hw.cons
      -- The reader asks for digits last, after all these characters.
      have hclass : isBlank c = false ∧ c ∉ ['[', '{', ']', '}', '"', 'n', 't', 'f', '-'] := by
        constructor
        · by_contra hb
          simp only [isBlank, Bool.not_eq_false, Bool.or_eq_true, beq_iff_eq] at hb
          rcases hb with ((rfl | rfl) | rfl) | rfl <;> cases hc
        · intro hmem
          simp only [List.mem_cons, List.not_mem_nil, or_false] at hmem
          rcases hmem with rfl | rfl | rfl | rfl | rfl | rfl | rfl | rfl | rfl <;> cases hc
      refine ⟨c, u ++ (fraction ++ power), rfl, hclass.1, by simp_all, fun rest hr => ?_⟩
      have := hread rest hr
      simp_all [skipScalar]
    · refine ⟨'-', whole ++ (fraction ++ power), rfl, rfl, by decide, fun rest hr => ?_⟩
      have := hread rest hr
      simp_all [skipScalar]

theorem SkippedScalar.startsItem (ht : SkippedScalar t) : StartsItem t := by
  obtain ⟨c, u, rfl, hb, hc, -⟩ := ht
  simp only [List.mem_cons, List.not_mem_nil, or_false, not_or] at hc
  exact ⟨c, u, rfl, hb, hc.2.2.1, hc.2.2.2⟩

end Scalars

/-! ## Steps of the reader -/

section Steps

variable {bracket : Bracket} {enclosing outer : List Bracket} {isFirst : Bool}
variable {b s t u rest : Text} {c : Char}

/-! The reader asks for the first character behind blanks and goes on from there. -/

theorem skip_value (h : skipBlanks t = c :: u) :
    skip .value enclosing t =
      if c = '[' then skip .opened (.sequence :: enclosing) u
      else if c = '{' then skip .opened (.object :: enclosing) u
      else (skipScalar c u).bind (skip .closed enclosing) := by
  rw [skip.eq_def]
  simp only
  split
  · simp_all
  · next d v hd =>
    obtain ⟨rfl, rfl⟩ : d = c ∧ v = u := by simpa [hd] using h
    split
    · rfl
    split
    · rfl
    split <;> simp_all [Except.bind]

theorem skip_opened (h : skipBlanks t = c :: u) :
    skip .opened (bracket :: outer) t =
      if c = bracket.closing then skip .closed outer u
      else skip .item (bracket :: outer) (c :: u) := by
  rw [skip.eq_def]
  simp only
  split <;> simp_all

theorem skip_closed (h : skipBlanks t = c :: u) :
    skip .closed (bracket :: outer) t =
      if c = ',' then skip .item (bracket :: outer) u
      else if c = bracket.closing then skip .closed outer u
      else .error .malformed := by
  rw [skip.eq_def]
  simp only
  split <;> simp_all

theorem skip_item_sequence :
    skip .item (.sequence :: outer) t = skip .value (.sequence :: outer) t := by
  rw [skip.eq_def]

theorem skip_item_object (h : skipKey t = .ok u) :
    skip .item (.object :: outer) t = skip .value (.object :: outer) u := by
  rw [skip.eq_def]
  simp only
  split <;> simp_all

/-- Blanks in front of a value do not count. -/
theorem skip_value_append (hb : Blank b) (ht : StartsItem t) :
    skip .value enclosing (b ++ t) = skip .value enclosing t := by
  obtain ⟨c, u, rfl, hc, -⟩ := ht
  rw [skip_value (skipBlanks_cons hc), skip_value (skipBlanks_append_cons hb hc)]

/-- A key is skipped with the blanks around it and its colon. -/
theorem skipKey_append {b' k : Text} (hb : Blank b) (hk : Literal k) (hb' : Blank b') :
    skipKey (b ++ (k ++ (b' ++ ':' :: t))) = .ok t := by
  obtain ⟨u, rfl, hread⟩ := hk.skipString_append
  rw [List.cons_append, skipKey, skipBlanks_append_cons hb rfl]
  simp only [hread, expectColon_append hb']

/-- What stands in front of a value in its bracket is skipped, with blanks before it. -/
theorem skip_item_append {k : Text} (hb : Blank b) (hk : Keyed bracket k) (ht : StartsItem t) :
    skip .item (bracket :: outer) (b ++ (k ++ t)) = skip .value (bracket :: outer) t := by
  cases hk with
  | sequence => rw [skip_item_sequence, List.nil_append, skip_value_append hb ht]
  | object hk hb' hc =>
    simp only [List.append_assoc, List.cons_append]
    rw [skip_item_object (skipKey_append hb hk hb'), skip_value_append hc ht]

theorem Keyed.startsItem {k : Text} (hk : Keyed bracket k) (ht : StartsItem t) :
    StartsItem (k ++ t) := by
  cases hk with
  | sequence => exact ht
  | object hk _ _ =>
    obtain ⟨u, rfl, -⟩ := hk.skipString_append
    exact ⟨'"', _, rfl, rfl, by decide, by decide⟩

/-- Where the reader stands in front of an item or of the closing bracket. -/
def stageOf (isFirst : Bool) : Stage := if isFirst then .opened else .closed

/-- From behind an opening bracket or an item the reader comes to the next value. -/
theorem skip_separator {k : Text} (hs : Separator isFirst s) (hk : Keyed bracket k)
    (ht : StartsItem t) :
    skip (stageOf isFirst) (bracket :: outer) (s ++ (k ++ t)) =
      skip .value (bracket :: outer) t := by
  cases isFirst with
  | true =>
    obtain ⟨c, u, hcu, hc, hne⟩ := (hk.startsItem ht).closing bracket
    have hstart : skipBlanks (s ++ (k ++ t)) = c :: u := by
      rw [hcu, skipBlanks_append_cons hs.blank hc]
    have hitem : skip .item (bracket :: outer) ([] ++ (k ++ t)) =
        skip .value (bracket :: outer) t := skip_item_append nofun hk ht
    -- Behind an opening bracket the closing one is asked for first, and no item starts with it.
    simp only [stageOf, if_true]
    rw [skip_opened hstart, if_neg hne, ← hcu]
    exact hitem
  | false =>
    obtain ⟨b, hb, hcomma⟩ := skipBlanks_separator hs (k ++ t)
    simp only [stageOf, Bool.false_eq_true, if_false]
    rw [skip_closed hcomma, if_pos rfl, skip_item_append hb hk ht]

theorem skip_closing (hb : Blank b) :
    skip (stageOf isFirst) (bracket :: outer) (b ++ bracket.closing :: rest) =
      skip .closed outer rest := by
  have hclosing : skipBlanks (b ++ bracket.closing :: rest) = bracket.closing :: rest :=
    skipBlanks_append_cons hb (isBlank_closing bracket)
  cases isFirst
  · simp only [stageOf, Bool.false_eq_true, if_false]
    rw [skip_closed hclosing, if_neg (comma_ne_closing bracket).symm, if_pos rfl]
  · simp only [stageOf, if_true]
    rw [skip_opened hclosing, if_pos rfl]

end Steps

/-! ## Whole values -/

section Whole

variable {part : Part} {bracket : Bracket} {isFirst : Bool} {t rest : Text}

theorem SkippedScalar.skip_value {enclosing : List Bracket} (ht : SkippedScalar t)
    (hr : Follows rest) :
    skip .value enclosing (t ++ rest) = skip .closed enclosing rest := by
  obtain ⟨c, u, rfl, hb, hc, hread⟩ := ht
  simp only [List.mem_cons, List.not_mem_nil, or_false, not_or] at hc
  rw [List.cons_append, Json.skip_value (skipBlanks_cons hb), if_neg hc.1, if_neg hc.2.1,
    hread rest hr]
  rfl

theorem follows_closing (hb : Blank t) : Follows (t ++ bracket.closing :: rest) := by
  refine Follows.append hb ?_
  rintro c ⟨⟩
  cases bracket <;> simp [Bracket.closing]

theorem follows_separator {s : Text} (hs : Separator false s) : Follows (s ++ rest) := by
  cases hs with
  | comma hb hc =>
    rw [List.append_assoc]
    refine Follows.append hb ?_
    rintro c ⟨⟩
    simp

theorem WellFormed.follows (ht : WellFormed (.items bracket false) t) :
    Follows (t ++ bracket.closing :: rest) := by
  cases ht with
  | nil hb => exact follows_closing hb
  | cons hs hk hv ht =>
    rw [List.append_assoc]
    exact follows_separator hs

theorem WellFormed.startsItem (ht : WellFormed .value t) : StartsItem t := by
  cases ht with
  | word ht => exact (skippedScalar_word ht).startsItem
  | numeral ht => exact (skippedScalar_numeral ht).startsItem
  | literal ht => exact (skippedScalar_literal ht).startsItem
  | @enclosed bracket t ht =>
    refine ⟨bracket.opening, t ++ [bracket.closing], rfl, ?_⟩
    cases bracket <;> decide

/-- What skipping a part of a value comes to: the brackets around it are on the stack in front of
it and behind it. -/
def Skipped : Part → Text → Prop
  | .value, t => ∀ enclosing rest, Follows rest →
      skip .value enclosing (t ++ rest) = skip .closed enclosing rest
  | .items bracket isFirst, t => ∀ outer rest,
      skip (stageOf isFirst) (bracket :: outer) (t ++ bracket.closing :: rest) =
        skip .closed outer rest

/-- **A value is skipped whatever its nesting**, and so are the items inside its brackets. -/
theorem skipped_of_wellFormed (h : WellFormed part t) : Skipped part t := by
  -- The stack is left general: the items of a bracket are read with the bracket on top of it.
  induction h with
  | word ht => exact fun _ _ hr => (skippedScalar_word ht).skip_value hr
  | numeral ht => exact fun _ _ hr => (skippedScalar_numeral ht).skip_value hr
  | literal ht => exact fun _ _ hr => (skippedScalar_literal ht).skip_value hr
  | @enclosed bracket t ht ih =>
    intro enclosing rest _
    have hopening : skipBlanks (bracket.opening :: t ++ [bracket.closing] ++ rest) =
        bracket.opening :: (t ++ bracket.closing :: rest) := by
      simpa using skipBlanks_cons (t := t ++ bracket.closing :: rest)
        (by cases bracket <;> rfl : isBlank bracket.opening = false)
    have hitems := ih enclosing rest
    rw [Json.skip_value hopening]
    cases bracket <;> simpa [Bracket.opening, stageOf] using hitems
  | nil hb => exact fun outer rest => skip_closing hb
  | @cons bracket isFirst s k v t hs hk hv ht ihv iht =>
    intro outer rest
    have hstart : StartsItem (v ++ (t ++ bracket.closing :: rest)) := hv.startsItem.append
    calc skip (stageOf isFirst) (bracket :: outer) (s ++ (k ++ (v ++ t)) ++ bracket.closing :: rest)
        = skip .value (bracket :: outer) (v ++ (t ++ bracket.closing :: rest)) := by
          simpa using skip_separator hs hk hstart
      _ = skip .closed (bracket :: outer) (t ++ bracket.closing :: rest) := ihv _ _ ht.follows
      _ = skip .closed outer rest := iht outer rest

theorem skipValue_append {b : Text} (hb : Blank b) (ht : WellFormed .value t) (hr : Follows rest) :
    skipValue (b ++ (t ++ rest)) = .ok rest := by
  rw [skipValue, skip_value_append hb ht.startsItem.append, skipped_of_wellFormed ht [] rest hr,
    skip.eq_def]

end Whole

/-! ## Items one by one -/

section Items

variable {α : Type} {Item : α → Text → Prop} {as : List α}
variable {isFirst : Bool} {s t u rest : Text} (bracket : Bracket)

theorem next_separator (hs : Separator isFirst s) (ht : StartsItem t) :
    next bracket.closing isFirst (s ++ t) = .ok (.item t) := by
  obtain ⟨c, u, rfl, hc, hne⟩ := ht.closing bracket
  cases isFirst with
  | true => simp [next, skipBlanks_append_cons hs.blank hc, hne]
  | false =>
    obtain ⟨b, hb, hcomma⟩ := skipBlanks_separator hs (c :: u)
    simp [next, hcomma, comma_ne_closing, skipBlanks_append_cons hb hc, hne]

theorem next_closing (hb : Blank t) :
    next bracket.closing isFirst (t ++ bracket.closing :: rest) = .ok (.closed rest) := by
  simp [next, skipBlanks_append_cons hb (isBlank_closing bracket)]

theorem Listed.follows (hu : Listed Item false as u) : Follows (u ++ bracket.closing :: rest) := by
  cases hu with
  | nil hb => exact follows_closing hb
  | cons hs ht hu =>
    rw [List.append_assoc]
    exact follows_separator hs

end Items

end TableThrift.Json
