import TableThrift.Proofs.Text.Lines
import TableThrift.Text.Case

/-!
# Characters of capitals

Upper-casing may turn one character into several, but none of them is a control character, a
digit, a punctuation mark before the letters or an underscore. Such a character stands in a
capitalized text or in camel case only if it stood in the text. No character is lost either, so that
nothing is left in camel case only of underscores.

## Main results

* `Text.not_mem_upper`: what an upper-case form cannot hold
* `Text.not_mem_capitalize`, `Text.not_mem_toCamelCase`: the same for texts
* `Text.underscore_not_mem_toCamelCase`: camel case has no underscores
* `Text.toCamelCase_eq_nil_iff`: what camel case leaves nothing of
-/

namespace TableThrift.Text

/-! ## The tables -/

section Tables

/-- The code points of every expansion are characters from `A` on and no underscores. -/
theorem code_of_mem_caseExpansions :
    ∀ e ∈ caseExpansions, ∀ n ∈ e.2, 0x41 ≤ n ∧ n ≠ 0x5F ∧ n < 0xD800 := by decide

/-- The images of every run are code points from `A` on and no underscores, all of them below the
surrogates or all of them above. -/
theorem image_of_mem_caseRuns :
    ∀ r ∈ caseRuns, 0x41 ≤ r.image ∧ (r.image + (r.last - r.first) < 0x5F ∨ 0x5F < r.image) ∧
      (r.image + (r.last - r.first) < 0xD800 ∨
        0xDFFF < r.image ∧ r.image + (r.last - r.first) < 0x110000) := by decide +kernel

end Tables

/-! ## Upper-case forms -/

section Upper

variable {c d : Char} {t : Text}

theorem toNat_ofNat {n : Nat} (h : n.isValidChar) : (Char.ofNat n).toNat = n := by
  rw [Char.ofNat, dif_pos h]
  rfl

/-- **What an upper-case form cannot hold**: characters before `A`, and underscores, unless they
are the character itself. -/
theorem not_mem_upper (hd : d.toNat < 0x41 ∨ d = '_') (h : d ≠ c) : d ∉ upper c := by
  have hd' : d.toNat < 0x41 ∨ d.toNat = 0x5F := hd.imp_right fun he => by rw [he]; rfl
  unfold upper
  split
  · next codes he =>
    intro hm
    obtain ⟨n, hn, rfl⟩ := List.mem_map.1 hm
    obtain ⟨hlow, hne, hhigh⟩ := code_of_mem_caseExpansions _ (List.mem_of_find?_eq_some he) n hn
    rw [toNat_ofNat (.inl hhigh)] at hd'
    omega
  · split
    · next run hr =>
      intro hm
      obtain rfl := List.mem_singleton.1 hm
      obtain ⟨hlow, hne, hvalid⟩ := image_of_mem_caseRuns _ (List.mem_of_find?_eq_some hr)
      have hc := List.find?_some hr
      simp only [CaseRun.covers, Bool.and_eq_true, decide_eq_true_eq] at hc
      have hv : (run.upper c.toNat).isValidChar := by
        unfold CaseRun.upper Nat.isValidChar
        omega
      rw [toNat_ofNat hv, CaseRun.upper] at hd'
      omega
    · exact fun hm => h (List.mem_singleton.1 hm)

theorem not_mem_capitalize (hd : d.toNat < 0x41 ∨ d = '_') (h : d ∉ t) : d ∉ capitalize t := by
  cases t with
  | nil => exact h
  | cons c cs =>
    rw [List.mem_cons, not_or] at h
    rw [capitalize_cons, List.mem_append, not_or]
    exact ⟨not_mem_upper hd h.1, h.2⟩

/-- What no piece between underscores holds does not stand in camel case. -/
theorem not_mem_toCamelCase_of_split (hd : d.toNat < 0x41 ∨ d = '_')
    (h : ∀ s ∈ split '_' t, d ∉ s) : d ∉ toCamelCase t := by
  obtain ⟨first, others, hs⟩ := exists_split_eq_cons '_' t
  rw [hs] at h
  rw [toCamelCase_of_split hs, List.mem_append, List.mem_flatMap, not_or]
  refine ⟨h first List.mem_cons_self, ?_⟩
  rintro ⟨s, hm, hd'⟩
  exact not_mem_capitalize hd (h s (List.mem_cons_of_mem first hm)) hd'

theorem not_mem_toCamelCase (hd : d.toNat < 0x41 ∨ d = '_') (h : d ∉ t) :
    d ∉ toCamelCase t := by
  -- Every piece has only characters of the text.
  apply not_mem_toCamelCase_of_split hd
  intro s hs hm
  exact h ((infix_of_mem_split hs).subset hm)

/-- Camel case holds no underscore, as no piece between underscores does. -/
theorem underscore_not_mem_toCamelCase (t : Text) : '_' ∉ toCamelCase t :=
  not_mem_toCamelCase_of_split (.inr rfl) fun _ => not_mem_of_mem_split

end Upper

/-! ## Texts that vanish -/

section Empty

variable {t : Text}

theorem upper_ne_nil (c : Char) : upper c ≠ [] := by
  have hcodes : ∀ e ∈ caseExpansions, e.2 ≠ [] := by decide
  unfold upper
  split
  · next codes he =>
    exact fun hm => hcodes _ (List.mem_of_find?_eq_some he) (List.map_eq_nil_iff.1 hm)
  · split
    · exact List.cons_ne_nil _ _
    · exact List.cons_ne_nil _ _

theorem capitalize_eq_nil_iff : capitalize t = [] ↔ t = [] := by
  cases t with
  | nil => exact Iff.rfl
  | cons c cs => simp [capitalize_cons, upper_ne_nil]

/-- All pieces of a text are empty exactly if it consists of separators. -/
theorem forall_mem_split_eq_nil_iff {sep : Char} :
    (∀ s ∈ split sep t, s = []) ↔ ∀ c ∈ t, c = sep := by
  induction t with
  | nil => simp
  | cons c cs ih =>
    by_cases hc : c = sep
    · subst hc
      simp [ih]
    · -- The character stands in the first piece.
      obtain ⟨s, ss, hs⟩ := exists_split_eq_cons sep cs
      rw [split_cons_of_ne hc, hs]
      simp [hc]

/-- **Camel case leaves nothing** exactly of a text of underscores. -/
theorem toCamelCase_eq_nil_iff : toCamelCase t = [] ↔ ∀ c ∈ t, c = '_' := by
  obtain ⟨first, others, hs⟩ := exists_split_eq_cons '_' t
  rw [← forall_mem_split_eq_nil_iff, toCamelCase_of_split hs, hs]
  simp only [List.append_eq_nil_iff, List.flatMap_eq_nil_iff, capitalize_eq_nil_iff,
    List.forall_mem_cons]

end Empty

end TableThrift.Text
