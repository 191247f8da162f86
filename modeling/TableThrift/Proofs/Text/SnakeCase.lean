import TableThrift.Proofs.Text.CamelCase

/-!
# Identifiers that camel case keeps apart

An identifier in snake case consists of words joined by single underscores, and each word is a
lower-case letter followed by lower-case letters and digits. Camel case puts a capital where an
underscore was and none elsewhere, so the identifier can be read back from it.

## Main definitions

* `Text.IsWord`, `Text.IsSnakeCase`: words, and identifiers made of them
* `Text.toSnakeCase`: an underscore and a small letter for every capital

## Main results

* `Text.isSnakeCase_iff`: an identifier is in snake case if all its pieces are words
* `Text.toSnakeCase_toCamelCase`: the identifier, read back from its camel case
* `Text.toCamelCase_injOn`: camel case keeps such identifiers apart
-/

namespace TableThrift.Text

/-- A word: a lower-case letter, and then lower-case letters and digits, all of them ASCII. -/
def IsWord : Text → Prop
  | [] => False
  | c :: cs => c.isLower = true ∧ ∀ d ∈ cs, d.isLower = true ∨ d.isDigit = true

instance : DecidablePred IsWord
  | [] => instDecidableFalse
  | _ :: cs => @instDecidableAnd _ _ _
      (List.decidableBAll (fun d => d.isLower = true ∨ d.isDigit = true) cs)

/-- An identifier in snake case: one word or more, joined by single underscores. -/
inductive IsSnakeCase : Text → Prop where
  | word {w : Text} (hw : IsWord w) : IsSnakeCase w
  | join {w t : Text} (hw : IsWord w) (ht : IsSnakeCase t) : IsSnakeCase (w ++ '_' :: t)

/-- Every capital becomes an underscore and the small letter. -/
def toSnakeCase (t : Text) : Text :=
  t.flatMap fun c => if c.isUpper then ['_', c.toLower] else [c]

/-! ## Words -/

section Word

variable {c : Char} {w : Text}

/-- A small letter is no capital, and has one, which is its upper-case form. -/
theorem capital_of_isLower (h : c.isLower = true) :
    ¬ c.isUpper = true ∧ c.toUpper.isUpper = true ∧ c.toUpper.toLower = c ∧
      upper c = [c.toUpper] := by
  -- Small letters are among the first 128 characters, which are looked at one by one.
  have hall : ∀ n < 128, let c := Char.ofNat n
      c.isLower = true → ¬ c.isUpper = true ∧ c.toUpper.isUpper = true ∧ c.toUpper.toLower = c ∧
        upper c = [c.toUpper] := by decide +kernel
  have hle : c.val ≤ 'z'.val := of_decide_eq_true (Bool.and_eq_true_iff.1 h).2
  have hlt : c.toNat < 128 := (UInt32.le_iff_toNat_le.1 hle).trans_lt (by decide)
  have hc := hall c.toNat hlt
  rw [Char.ofNat_toNat] at hc
  exact hc h

theorem IsWord.underscore_not_mem (h : IsWord w) : '_' ∉ w := by
  cases w with
  | nil => exact absurd h id
  | cons d ds =>
    obtain ⟨hd, hds⟩ := h
    intro hm
    rcases List.mem_cons.1 hm with rfl | hm
    · exact absurd hd (by decide)
    · exact absurd (hds '_' hm) (by decide)

/-- A word has no capitals. -/
theorem IsWord.not_isUpper (h : IsWord w) (hc : c ∈ w) : ¬ c.isUpper = true := by
  -- Digits come before the capitals.
  have hdigit : c.isDigit = true → ¬ c.isUpper = true := by
    intro hdigit hupper
    have hle : c.val ≤ '9'.val := of_decide_eq_true (Bool.and_eq_true_iff.1 hdigit).2
    have hge : 'A'.val ≤ c.val := (of_decide_eq_true hupper).1
    exact absurd (UInt32.le_trans hge hle) (by decide)
  cases w with
  | nil => exact absurd h id
  | cons d ds =>
    obtain ⟨hd, hds⟩ := h
    rcases List.mem_cons.1 hc with rfl | hc
    · exact (capital_of_isLower hd).1
    · rcases hds c hc with hlower | hc
      · exact (capital_of_isLower hlower).1
      · exact hdigit hc

theorem IsWord.toSnakeCase_eq (h : IsWord w) : toSnakeCase w = w := by
  have hsmall : ∀ c ∈ w, (if c.isUpper then ['_', c.toLower] else [c]) = [c] := by
    intro c hc
    exact if_neg (h.not_isUpper hc)
  rw [toSnakeCase, List.flatMap_congr hsmall, List.flatMap_singleton']

/-- In snake case a capital in front is an underscore in front. -/
theorem toSnakeCase_capitalize_cons (h : c.isLower = true) (t : Text) :
    toSnakeCase (capitalize (c :: t)) = '_' :: toSnakeCase (c :: t) := by
  obtain ⟨hsmall, hcapital, hback, hupper⟩ := capital_of_isLower h
  rw [capitalize_cons, hupper, List.singleton_append, toSnakeCase, toSnakeCase,
    List.flatMap_cons, List.flatMap_cons, if_pos hcapital, if_neg hsmall, hback]
  rfl

end Word

/-! ## Identifiers -/

section Identifier

variable {t t' : Text}

/-- Words joined by underscores are an identifier in snake case. -/
theorem isSnakeCase_intercalate {words : List Text} (hne : words ≠ [])
    (h : ∀ w ∈ words, IsWord w) : IsSnakeCase (List.intercalate ['_'] words) := by
  induction words with
  | nil => exact absurd rfl hne
  | cons w words ih =>
    have hw := h w List.mem_cons_self
    cases words with
    | nil =>
      rw [List.intercalate_singleton]
      exact .word hw
    | cons w' words =>
      rw [List.intercalate_cons_cons, List.append_assoc]
      exact .join hw (ih (List.cons_ne_nil w' words) fun v hv => h v (List.mem_cons_of_mem w hv))

/-- An identifier is in snake case exactly if all its pieces between underscores are words. -/
theorem isSnakeCase_iff : IsSnakeCase t ↔ ∀ w ∈ split '_' t, IsWord w := by
  constructor
  · intro h
    induction h with
    | word hw =>
      rw [split_of_not_mem hw.underscore_not_mem, List.forall_mem_singleton]
      exact hw
    | join hw _ ih =>
      rw [split_append_cons hw.underscore_not_mem, List.forall_mem_cons]
      exact ⟨hw, ih⟩
  · intro h
    rw [← intercalate_split '_' t]
    exact isSnakeCase_intercalate (split_ne_nil '_' t) h

instance : DecidablePred IsSnakeCase := fun _ => decidable_of_iff _ isSnakeCase_iff.symm

/-- Camel case of such an identifier begins with a small letter. -/
theorem IsSnakeCase.exists_toCamelCase_eq_cons (h : IsSnakeCase t) :
    ∃ c cs, toCamelCase t = c :: cs ∧ c.isLower = true := by
  -- The first word stays as it is, whatever follows it.
  have hword {w : Text} (hw : IsWord w) (rest : Text) :
      ∃ c cs, toCamelCase w ++ rest = c :: cs ∧ c.isLower = true := by
    rw [toCamelCase_of_not_mem hw.underscore_not_mem]
    cases w with
    | nil => exact absurd hw id
    | cons c cs => exact ⟨c, cs ++ rest, rfl, hw.1⟩
  cases h with
  | word hw =>
    rw [← List.append_nil (toCamelCase t)]
    exact hword hw []
  | join hw ht =>
    rw [toCamelCase_append_cons]
    exact hword hw _

/-- **An identifier in snake case can be read back** from its camel case. -/
theorem toSnakeCase_toCamelCase (h : IsSnakeCase t) : toSnakeCase (toCamelCase t) = t := by
  induction h with
  | word hw => rw [toCamelCase_of_not_mem hw.underscore_not_mem, hw.toSnakeCase_eq]
  | @join w t hw ht ih =>
    obtain ⟨c, cs, hcamel, hc⟩ := ht.exists_toCamelCase_eq_cons
    -- The capital that `t` begins with brings back the underscore.
    have hcapital : toSnakeCase (capitalize (toCamelCase t)) = '_' :: t := by
      rw [hcamel, toSnakeCase_capitalize_cons hc, ← hcamel, ih]
    have happend (u v : Text) : toSnakeCase (u ++ v) = toSnakeCase u ++ toSnakeCase v :=
      List.flatMap_append
    rw [toCamelCase_append_cons, happend, hcapital, toCamelCase_of_not_mem hw.underscore_not_mem,
      hw.toSnakeCase_eq]

/-- **Camel case keeps identifiers in snake case apart.** -/
theorem toCamelCase_injOn (h : IsSnakeCase t) (h' : IsSnakeCase t')
    (he : toCamelCase t = toCamelCase t') : t = t' := by
  rw [← toSnakeCase_toCamelCase h, he, toSnakeCase_toCamelCase h']

/-- A word must not begin with a digit: here the underscore leaves no trace. -/
example : toCamelCase "a_1".toList = toCamelCase "a1".toList := by decide

end Identifier

end TableThrift.Text
