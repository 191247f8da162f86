import Mathlib.Data.List.Infix
import TableThrift.Text.Basic

/-!
# Where a word is found

A word cannot reach over a character that it does not hold, so a separator divides the search for
it. A cut is found by its word: where the last character of the word stands nowhere earlier, the
cut is there.

## Main results

* `Text.infix_append_cons_iff`: a word without the separator occurs on one side of it
* `Text.cut?_eq_none_iff`: there is no cut exactly when the word does not occur
* `Text.cut?_eq_some_iff`: the cut is at the first occurrence
* `Text.cut?_append`, `Text.cut?_append_of_not_infix`, `Text.cutLast?_append_cons`: a cut at a given
  place
* `Text.suffix_of_cut?`: what follows any occurrence also stands behind the first
* `Text.pieces_intercalate`: the pieces of joined texts
-/

namespace TableThrift.Text

/-! ## Occurrences -/

section Occurrence

variable {word t u v : Text} {c : Char}

/-- A word that does not hold a separator occurs before or after it. -/
theorem infix_append_cons_iff (h : c ∉ word) :
    word <:+: u ++ c :: v ↔ word <:+: u ∨ word <:+: v := by
  rw [List.infix_append_iff]
  constructor
  · rintro (hu | hv | ⟨l, r, rfl, hl, hr⟩)
    · exact .inl hu
    · rcases List.infix_cons_iff.1 hv with hp | hv
      · cases word with
        | nil => exact .inl List.nil_infix
        | cons d ds =>
          obtain ⟨rfl, -⟩ := List.cons_prefix_cons.1 hp
          exact absurd List.mem_cons_self h
      · exact .inr hv
    · -- A part of the word behind `u` would begin with the separator.
      cases r with
      | nil => exact .inl (by simpa using hl.isInfix)
      | cons d ds =>
        obtain ⟨rfl, -⟩ := List.cons_prefix_cons.1 hr
        exact absurd (List.mem_append_right l List.mem_cons_self) h
  · rintro (hu | hv)
    · exact .inl hu
    · exact .inr (.inl (List.infix_cons hv))

/-- A word does not occur in a text that lacks one of its characters. -/
theorem not_infix_of_not_mem (hc : c ∈ word) (h : c ∉ t) : ¬ word <:+: t :=
  fun hw => h (hw.mem hc)

end Occurrence

/-! ## Cuts -/

section Cut

variable {word t u v : Text} {c : Char}

/-- There is no cut exactly when the word does not occur. -/
theorem cut?_eq_none_iff : cut? word t = none ↔ ¬ word <:+: t := by
  rw [← occurs_iff, occurs, Option.isSome_iff_ne_none, Decidable.not_not]

theorem cut?_word_append (word t : Text) : cut? word (word ++ t) = some ([], t) := by
  cases h : word ++ t with
  | nil =>
    obtain ⟨rfl, rfl⟩ := List.append_eq_nil_iff.1 h
    rfl
  | cons d ds =>
    have hp : word.isPrefixOf (d :: ds) = true :=
      List.isPrefixOf_iff_prefix.2 (h ▸ List.prefix_append word t)
    rw [cut?, if_pos hp, ← h, List.drop_left]

/-- The cut of a word whose last character stands nowhere earlier, neither before the word nor in
the rest of it. -/
theorem cut?_append (start : Text) (hu : c ∉ u) (hs : c ∉ start) (v : Text) :
    cut? (start ++ [c]) (u ++ (start ++ [c] ++ v)) = some (u, v) := by
  induction u with
  | nil => exact cut?_word_append _ _
  | cons d ds ih =>
    have hp : ¬ (start ++ [c]).isPrefixOf (d :: (ds ++ (start ++ [c] ++ v))) = true := by
      intro hp
      -- The word would lie in front of its own last character.
      have hw : start ++ [c] <+: d :: ds ++ start := by
        refine List.prefix_of_prefix_length_le (List.isPrefixOf_iff_prefix.1 hp)
          ⟨[c] ++ v, by simp⟩ ?_
        simp only [List.length_append, List.length_cons, List.length_nil]
        omega
      rcases List.mem_append.1 (hw.subset (List.mem_append_right start List.mem_cons_self)) with
        hd | hd
      · exact hu hd
      · exact hs hd
    rw [List.cons_append, cut?, if_neg hp, ih fun hm => hu (List.mem_cons_of_mem d hm)]
    rfl

/-- The cut of a word whose first character comes only once in it, behind a text that does not hold
the word. -/
theorem cut?_append_of_not_infix {rest : Text} (hc : c ∉ rest) (hu : ¬ c :: rest <:+: u)
    (v : Text) : cut? (c :: rest) (u ++ (c :: rest ++ v)) = some (u, v) := by
  induction u with
  | nil => exact cut?_word_append _ _
  | cons d ds ih =>
    have hp : ¬ (c :: rest).isPrefixOf (d :: (ds ++ (c :: rest ++ v))) = true := by
      intro hp
      obtain ⟨rfl, hr⟩ := List.cons_prefix_cons.1 (List.isPrefixOf_iff_prefix.1 hp)
      -- What follows `d` either ends in `ds` or takes in the first character of the word behind it.
      rcases List.prefix_or_prefix_of_prefix hr (List.prefix_append ds _) with hd | hd
      · exact hu (List.cons_prefix_cons.2 ⟨rfl, hd⟩).isInfix
      · obtain ⟨w, rfl⟩ := hd
        cases w with
        | nil => exact hu (by rw [List.append_nil])
        | cons e es =>
          obtain ⟨rfl, -⟩ := List.cons_prefix_cons.1 ((List.prefix_append_right_inj ds).1 hr)
          exact hc (List.mem_append_right ds List.mem_cons_self)
    have hds : ¬ c :: rest <:+: ds := fun h => hu (List.infix_cons h)
    rw [List.cons_append, cut?, if_neg hp, ih hds]
    rfl

/-- The cut at the first occurrence of a character. -/
theorem cut?_append_cons (h : c ∉ u) (v : Text) : cut? [c] (u ++ c :: v) = some (u, v) :=
  cut?_append [] h List.not_mem_nil v

/-- The cut at the last occurrence of a character. -/
theorem cutLast?_append_cons (u : Text) (h : c ∉ v) :
    cutLast? [c] (u ++ c :: v) = some (u, v) := by
  have hr : (u ++ c :: v).reverse = v.reverse ++ c :: u.reverse := by simp
  rw [cutLast?, hr, List.reverse_singleton, cut?_append_cons (by simpa using h)]
  simp

/-- A character that occurs has a last occurrence. -/
theorem eq_append_cons_last (h : c ∈ t) : ∃ u v, t = u ++ c :: v ∧ c ∉ v := by
  obtain ⟨u, v, ht, hu⟩ := List.eq_append_cons_of_mem (List.mem_reverse.2 h)
  refine ⟨v.reverse, u.reverse, ?_, by simpa using hu⟩
  rw [← List.reverse_reverse t, ht]
  simp

theorem cutLast?_singleton_eq_none (h : c ∉ t) : cutLast? [c] t = none := by
  rw [cutLast?, List.reverse_singleton, cut?_eq_none_iff.2
    (not_infix_of_not_mem List.mem_cons_self fun hm => h (List.mem_reverse.1 hm))]
  rfl

theorem cutLast?_singleton_eq_none_iff : cutLast? [c] t = none ↔ c ∉ t := by
  constructor
  · intro h hm
    obtain ⟨u, v, rfl, hv⟩ := eq_append_cons_last hm
    rw [cutLast?_append_cons u hv] at h
    cases h
  · exact cutLast?_singleton_eq_none

theorem cut?_singleton_eq_none (h : c ∉ t) : cut? [c] t = none :=
  cut?_eq_none_iff.2 (not_infix_of_not_mem List.mem_cons_self h)

/-- No occurrence of a word is further to the left than the cut. -/
theorem length_le_of_cut? {before after : Text} (h : cut? word t = some (before, after))
    (ht : u ++ word ++ v = t) : before.length ≤ u.length := by
  induction t generalizing before u with
  | nil =>
    have hb := append_of_cut? h
    rw [List.append_assoc, List.append_eq_nil_iff] at hb
    rw [hb.1]
    exact Nat.zero_le _
  | cons c cs ih =>
    rw [cut?] at h
    split at h
    · obtain ⟨rfl, -⟩ := Prod.mk.inj (Option.some.inj h)
      exact Nat.zero_le _
    · next hp =>
      obtain ⟨⟨d, r⟩, hd, hr⟩ := Option.map_eq_some_iff.1 h
      obtain ⟨rfl, rfl⟩ := Prod.mk.inj hr
      cases u with
      | nil => exact absurd (List.isPrefixOf_iff_prefix.2 ⟨v, ht⟩) hp
      | cons d' u => exact Nat.succ_le_succ (ih hd (List.cons.inj ht).2)

/-- **The cut is at the first occurrence.** -/
theorem cut?_eq_some_iff {before after : Text} :
    cut? word t = some (before, after) ↔
      before ++ word ++ after = t ∧ ∀ u v, u ++ word ++ v = t → before.length ≤ u.length := by
  constructor
  · exact fun h => ⟨append_of_cut? h, fun u v => length_le_of_cut? h⟩
  · rintro ⟨ht, hfirst⟩
    cases h : cut? word t with
    | none => exact absurd ⟨before, after, ht⟩ (cut?_eq_none_iff.1 h)
    | some found =>
      -- Both are the first occurrence, so they stand at the same place.
      have hle := length_le_of_cut? h ht
      have hge := hfirst _ _ (append_of_cut? h)
      have hsame := (append_of_cut? h).trans ht.symm
      rw [List.append_assoc, List.append_assoc] at hsame
      obtain ⟨hb, ha⟩ := List.append_inj hsame (Nat.le_antisymm hle hge)
      rw [← hb, ← List.append_cancel_left ha]

/-- What follows an occurrence of a word also ends what follows its first occurrence. -/
theorem suffix_of_cut? {before after : Text} (hw : word ≠ [])
    (h : cut? word (u ++ (word ++ v)) = some (before, after)) : v <:+ after := by
  induction u generalizing before with
  | nil =>
    rw [List.nil_append, cut?_word_append] at h
    obtain ⟨-, rfl⟩ := Prod.mk.inj (Option.some.inj h)
    exact List.suffix_rfl
  | cons d ds ih =>
    rw [List.cons_append, cut?] at h
    split at h
    · obtain ⟨-, rfl⟩ := Prod.mk.inj (Option.some.inj h)
      -- The first occurrence begins at `d`, at least as far from `v` as the given one.
      refine List.suffix_of_suffix_length_le ⟨d :: (ds ++ word), by simp⟩
        (List.drop_suffix _ _) ?_
      simp only [List.length_drop, List.length_cons, List.length_append]
      have := List.length_pos_iff.2 hw
      omega
    · obtain ⟨p, hp, hq⟩ := Option.map_eq_some_iff.1 h
      obtain ⟨-, rfl⟩ := Prod.mk.inj hq
      exact ih hp

/-- What a cut leaves on either side is a part of the text. -/
theorem infix_of_cut? {before after : Text} (h : cut? word t = some (before, after)) :
    before <:+: t ∧ after <:+: t := by
  rw [← append_of_cut? h, List.append_assoc]
  exact ⟨(List.prefix_append _ _).isInfix, (List.suffix_append _ _).isInfix.trans
    (List.suffix_append _ _).isInfix⟩

theorem infix_of_cutLast? {before after : Text} (h : cutLast? word t = some (before, after)) :
    before <:+: t ∧ after <:+: t := by
  rw [← append_of_cutLast? h, List.append_assoc]
  exact ⟨(List.prefix_append _ _).isInfix, (List.suffix_append _ _).isInfix.trans
    (List.suffix_append _ _).isInfix⟩

/-- Erasing a word adds no character. -/
theorem eraseFirst_subset (word t : Text) : eraseFirst word t ⊆ t := by
  unfold eraseFirst
  split
  · next before after h =>
    obtain ⟨hb, ha⟩ := infix_of_cut? h
    exact List.append_subset.2 ⟨hb.subset, ha.subset⟩
  · exact List.Subset.refl t

end Cut

/-! ## Pieces -/

section Pieces

variable {word t : Text}

theorem pieces_of_cut?_eq_none (h : cut? word t = none) : pieces word t = [t] := by
  rw [pieces]
  split
  · rfl
  · split
    · rfl
    · next h' => rw [h] at h'; cases h'

theorem pieces_of_cut? {before after : Text} (hw : word ≠ [])
    (h : cut? word t = some (before, after)) : pieces word t = before :: pieces word after := by
  rw [pieces, dif_neg hw]
  split
  · next h' => rw [h] at h'; cases h'
  · next h' =>
    rw [h] at h'
    obtain ⟨rfl, rfl⟩ := Prod.mk.inj (Option.some.inj h')
    rfl

/-- Texts joined by a word are the pieces again, if none of them holds the last character of the
word. -/
theorem pieces_intercalate (start : Text) {c : Char} (hs : c ∉ start) {ts : List Text}
    (hne : ts ≠ []) (h : ∀ t ∈ ts, c ∉ t) :
    pieces (start ++ [c]) (List.intercalate (start ++ [c]) ts) = ts := by
  induction ts with
  | nil => exact absurd rfl hne
  | cons t ts ih =>
    have ht : c ∉ t := h t List.mem_cons_self
    cases ts with
    | nil =>
      rw [List.intercalate_singleton]
      exact pieces_of_cut?_eq_none
        (cut?_eq_none_iff.2 (not_infix_of_not_mem (c := c) (by simp) ht))
    | cons t' ts =>
      rw [List.intercalate_cons_cons, List.append_assoc,
        pieces_of_cut? (by simp) (cut?_append start ht hs _),
        ih (by simp) fun s hm => h s (List.mem_cons_of_mem t hm)]

end Pieces

end TableThrift.Text
