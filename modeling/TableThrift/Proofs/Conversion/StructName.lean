import TableThrift.Conversion
import TableThrift.Proofs.Text.CamelCase
import TableThrift.Proofs.Text.Enclosed

/-!
# The name that a line gives to a struct

A line gives the name of its identifier without the first occurrence of the prefix, in camel case
and with a capital. The name is normal: it holds neither an underscore nor a newline, and neither
camel case nor a capital changes it. It is empty exactly if only underscores are left of the
identifier.

## Main definitions

* `Text.WithoutFirst`: a text without the first occurrence of a word

## Main results

* `Text.withoutFirst_iff`: erasing a word erases its first occurrence
* `newline_not_mem_structName`, `underscore_not_mem_structName`: characters that a name lacks
* `structName_eq_nil_iff`: when a line gives no name
* `structName_of_withoutFirst`: the name of a line
-/

namespace TableThrift

/-! ## The first occurrence of a word -/

namespace Text

/-- A text without the first occurrence of a word. It is the text itself if the word is empty or
does not occur, else what stands before and behind the occurrence with the least in front of it. -/
inductive WithoutFirst (word t : Text) : Text → Prop where
  | absent (h : word = [] ∨ ¬ word <:+: t) : WithoutFirst word t t
  | present {u v : Text} (hword : word ≠ []) (ht : u ++ word ++ v = t)
    (hfirst : ∀ u' v', u' ++ word ++ v' = t → u.length ≤ u'.length) :
    WithoutFirst word t (u ++ v)

section WithoutFirst

variable {word t s : Text}

theorem withoutFirst_eraseFirst (word t : Text) : WithoutFirst word t (eraseFirst word t) := by
  unfold eraseFirst
  split
  · next u v h =>
    obtain ⟨ht, hfirst⟩ := cut?_eq_some_iff.1 h
    by_cases hword : word = []
    · -- Nothing is erased with an empty word.
      subst hword
      have htext : u ++ v = t := by rw [← ht, List.append_nil]
      rw [htext]
      exact .absent (.inl rfl)
    · exact .present hword ht hfirst
  · next h => exact .absent (.inr (cut?_eq_none_iff.1 h))

/-- **Erasing a word** erases its first occurrence. -/
theorem withoutFirst_iff : WithoutFirst word t s ↔ s = eraseFirst word t := by
  constructor
  · intro h
    unfold eraseFirst
    cases h with
    | absent h =>
      rcases h with rfl | h
      · have hcut : cut? [] t = some ([], t) := cut?_word_append [] t
        rw [hcut]
        rfl
      · rw [cut?_eq_none_iff.2 h]
    | present _ ht hfirst => rw [cut?_eq_some_iff.2 ⟨ht, hfirst⟩]
  · rintro rfl
    exact withoutFirst_eraseFirst word t

end WithoutFirst

end Text

/-! ## Names -/

section Name

variable (line tablePrefix : Text)

/-- No name holds a newline, even if the line does. -/
theorem newline_not_mem_structName : '\n' ∉ structName line tablePrefix := by
  have he : '\n' ∉ Text.eraseFirst tablePrefix (Line.identifier line) := fun hm =>
    Text.newline_not_mem_enclosed _ line (Text.eraseFirst_subset _ _ hm)
  exact Text.not_mem_capitalize (.inl (by decide)) (Text.not_mem_toCamelCase (.inl (by decide)) he)

theorem underscore_not_mem_structName : '_' ∉ structName line tablePrefix :=
  Text.not_mem_capitalize (.inr rfl) (Text.underscore_not_mem_toCamelCase _)

/-- A line gives no name exactly if only underscores are left of its identifier. -/
theorem structName_eq_nil_iff :
    structName line tablePrefix = [] ↔
      ∀ c ∈ Text.eraseFirst tablePrefix (Line.identifier line), c = '_' := by
  rw [structName, structNameOf, Text.capitalize_eq_nil_iff, Text.toCamelCase_eq_nil_iff]

/-- **The name of a line.** What is left of its identifier without the first occurrence of the
prefix is a single text, and the name is that text in camel case with a capital. It holds no
underscore and no newline, neither camel case nor a capital changes it, and it is empty exactly if
only underscores are left. -/
theorem structName_of_withoutFirst :
    ∃ rest, (∀ t, Text.WithoutFirst tablePrefix (Line.identifier line) t ↔ t = rest) ∧
      structName line tablePrefix = Text.capitalize (Text.toCamelCase rest) ∧
      '_' ∉ structName line tablePrefix ∧ '\n' ∉ structName line tablePrefix ∧
      Text.toCamelCase (structName line tablePrefix) = structName line tablePrefix ∧
      Text.capitalize (structName line tablePrefix) = structName line tablePrefix ∧
      (structName line tablePrefix = [] ↔ ∀ c ∈ rest, c = '_') := by
  refine ⟨Text.eraseFirst tablePrefix (Line.identifier line), fun _ => Text.withoutFirst_iff, rfl,
    underscore_not_mem_structName line tablePrefix, newline_not_mem_structName line tablePrefix,
    ?_, ?_, structName_eq_nil_iff line tablePrefix⟩
  · exact Text.toCamelCase_of_not_mem (underscore_not_mem_structName line tablePrefix)
  · exact Text.capitalize_capitalize _

/-- The first of two overlapping occurrences is erased, and what it joins is one run of
underscores. -/
example : structName "CREATE TABLE \x60x_t_t_ta\x60".toList "_t_t".toList = "XTa".toList ∧
    structName "CREATE TABLE \x60__t\x60".toList "t".toList = [] := by
  decide +kernel

end Name

end TableThrift
