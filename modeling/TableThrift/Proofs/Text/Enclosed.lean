import TableThrift.Proofs.Text.Lines
import TableThrift.Proofs.Text.Cut
import TableThrift.Text.Case
import TableThrift.Text.Enclosed

/-!
# What quotes enclose

On a line, the quotes decide by themselves: the outermost ones enclose what stands between them,
the last two what stands there, whatever else the line holds.

## Main results

* `Text.outermost?_append`, `Text.lastEnclosed?_append`: the part between given quotes
* `Text.outermost?_cases`, `Text.lastEnclosed?_cases`: a text with two quotes, and one with fewer
* `Text.outermost?_append_of_not_mem`: what stands behind the last quote does not matter
* `Text.enclosed_append`, `Text.enclosedAfter_append`: the same parts on a line
* `Text.enclosed_eq_nil`: a line without quotes
* `Text.enclosed_dropReturn`: a line with a carriage return at its end
* `Text.enclosed_subset`, `Text.enclosedAfter_subset`: an enclosed part has the characters of its
  text
* `Text.newline_not_mem_enclosed`: an enclosed part has no newlines
-/

namespace TableThrift.Text

variable {quote : Char} {word t u v w : Text}

/-! ## Segments -/

section Segment

/-- The part between two quotes, with no quote before the first or after the second. -/
theorem outermost?_append (hu : quote ∉ u) (hw : quote ∉ w) :
    outermost? quote (u ++ quote :: (v ++ quote :: w)) = some v := by
  rw [outermost?, cut?_append_cons hu, Option.bind_some, cutLast?_append_cons v hw]
  rfl

/-- The part between two quotes, with no quote in it or after the second. -/
theorem lastEnclosed?_append (hv : quote ∉ v) (hw : quote ∉ w) :
    lastEnclosed? quote (u ++ quote :: (v ++ quote :: w)) = some v := by
  have ha : u ++ quote :: (v ++ quote :: w) = (u ++ quote :: v) ++ quote :: w := by simp
  rw [lastEnclosed?, ha, cutLast?_append_cons _ hw, Option.bind_some, cutLast?_append_cons u hv]
  rfl

theorem outermost?_eq_none (h : quote ∉ t) : outermost? quote t = none := by
  rw [outermost?, cut?_singleton_eq_none h]
  rfl

/-- A single quote encloses nothing. -/
theorem outermost?_append_cons (hu : quote ∉ u) (hv : quote ∉ v) :
    outermost? quote (u ++ quote :: v) = none := by
  rw [outermost?, cut?_append_cons hu, Option.bind_some, cutLast?_singleton_eq_none hv]
  rfl

theorem lastEnclosed?_eq_none (h : quote ∉ t) : lastEnclosed? quote t = none := by
  rw [lastEnclosed?, cutLast?_singleton_eq_none h]
  rfl

/-- A single quote encloses nothing. -/
theorem lastEnclosed?_append_cons (hu : quote ∉ u) (hv : quote ∉ v) :
    lastEnclosed? quote (u ++ quote :: v) = none := by
  rw [lastEnclosed?, cutLast?_append_cons u hv, Option.bind_some, cutLast?_singleton_eq_none hu]
  rfl

/-- A text without quotes behind a segment does not change what the outermost quotes enclose. -/
theorem outermost?_append_of_not_mem (hw : quote ∉ w) :
    outermost? quote (u ++ w) = outermost? quote u := by
  have hnot {t : Text} (ht : quote ∉ t) : quote ∉ t ++ w := by simp [ht, hw]
  by_cases hu : quote ∈ u
  · obtain ⟨a, b, rfl, ha⟩ := List.eq_append_cons_of_mem hu
    rw [List.append_assoc, List.cons_append]
    by_cases hb : quote ∈ b
    · -- The last quote of `b` closes the part in both.
      obtain ⟨v, d, rfl, hd⟩ := eq_append_cons_last hb
      rw [List.append_assoc, List.cons_append, outermost?_append ha (hnot hd),
        outermost?_append ha hd]
    · rw [outermost?_append_cons ha (hnot hb), outermost?_append_cons ha hb]
  · rw [outermost?_eq_none (hnot hu), outermost?_eq_none hu]

/-- A text has fewer than two quotes, or the outermost ones enclose a part of it. -/
theorem outermost?_cases (quote : Char) (t : Text) :
    (t.count quote < 2 ∧ outermost? quote t = none) ∨
      ∃ u v w, t = u ++ quote :: (v ++ quote :: w) ∧ quote ∉ u ∧ quote ∉ w ∧
        outermost? quote t = some v := by
  by_cases ht : quote ∈ t
  · obtain ⟨u, r, rfl, hu⟩ := List.eq_append_cons_of_mem ht
    by_cases hr : quote ∈ r
    · obtain ⟨v, w, rfl, hw⟩ := eq_append_cons_last hr
      exact .inr ⟨u, v, w, rfl, hu, hw, outermost?_append hu hw⟩
    · refine .inl ⟨?_, outermost?_append_cons hu hr⟩
      simp [List.count_eq_zero.2 hu, List.count_eq_zero.2 hr]
  · exact .inl ⟨by simp [List.count_eq_zero.2 ht], outermost?_eq_none ht⟩

/-- A text has fewer than two quotes, or the last two enclose a part of it. -/
theorem lastEnclosed?_cases (quote : Char) (t : Text) :
    (t.count quote < 2 ∧ lastEnclosed? quote t = none) ∨
      ∃ u v w, t = u ++ quote :: (v ++ quote :: w) ∧ quote ∉ v ∧ quote ∉ w ∧
        lastEnclosed? quote t = some v := by
  by_cases ht : quote ∈ t
  · obtain ⟨r, w, rfl, hw⟩ := eq_append_cons_last ht
    by_cases hr : quote ∈ r
    · obtain ⟨u, v, rfl, hv⟩ := eq_append_cons_last hr
      rw [List.append_assoc, List.cons_append]
      exact .inr ⟨u, v, w, rfl, hv, hw, lastEnclosed?_append hv hw⟩
    · refine .inl ⟨?_, lastEnclosed?_append_cons hr hw⟩
      simp [List.count_eq_zero.2 hr, List.count_eq_zero.2 hw]
  · exact .inl ⟨by simp [List.count_eq_zero.2 ht], lastEnclosed?_eq_none ht⟩

theorem two_le_count (quote : Char) (u v w : Text) :
    2 ≤ (u ++ quote :: (v ++ quote :: w)).count quote := by
  simp only [List.count_append, List.count_cons_self]
  omega

theorem outermost?_eq_none_iff : outermost? quote t = none ↔ t.count quote < 2 := by
  rcases outermost?_cases quote t with ⟨hc, hn⟩ | ⟨u, v, w, rfl, -, -, hs⟩
  · simp [hc, hn]
  · rw [hs]
    exact iff_of_false (Option.some_ne_none v) (Nat.not_lt.2 (two_le_count quote u v w))

theorem lastEnclosed?_eq_none_iff : lastEnclosed? quote t = none ↔ t.count quote < 2 := by
  rcases lastEnclosed?_cases quote t with ⟨hc, hn⟩ | ⟨u, v, w, rfl, -, -, hs⟩
  · simp [hc, hn]
  · rw [hs]
    exact iff_of_false (Option.some_ne_none v) (Nat.not_lt.2 (two_le_count quote u v w))

theorem infix_of_outermost? (h : outermost? quote t = some v) : v <:+: t := by
  obtain ⟨opened, ho, h⟩ := Option.bind_eq_some_iff.1 h
  obtain ⟨closed, hc, rfl⟩ := Option.map_eq_some_iff.1 h
  exact (infix_of_cutLast? hc).1.trans (infix_of_cut? ho).2

theorem infix_of_lastEnclosed? (h : lastEnclosed? quote t = some v) : v <:+: t := by
  obtain ⟨closed, hc, h⟩ := Option.bind_eq_some_iff.1 h
  obtain ⟨opened, ho, rfl⟩ := Option.map_eq_some_iff.1 h
  exact (infix_of_cutLast? ho).2.trans (infix_of_cutLast? hc).1

end Segment

/-! ## Lines -/

section Line

/-- On a line the outermost quotes decide. -/
theorem enclosed_of_not_mem (h : '\n' ∉ t) : enclosed quote t = (outermost? quote t).getD [] := by
  rw [enclosed, split_of_not_mem h, List.findSome?_singleton]

/-- On a line the last two quotes after the word decide. -/
theorem enclosedAfter_of_not_mem (h : '\n' ∉ t) :
    enclosedAfter word quote t =
      ((cut? word t).bind fun found => lastEnclosed? quote found.2).getD [] := by
  rw [enclosedAfter, split_of_not_mem h, List.findSome?_singleton]

/-- The part of a line between its outermost quotes. -/
theorem enclosed_append (hn : '\n' ∉ u ++ quote :: (v ++ quote :: w)) (hu : quote ∉ u)
    (hw : quote ∉ w) : enclosed quote (u ++ quote :: (v ++ quote :: w)) = v := by
  rw [enclosed_of_not_mem hn, outermost?_append hu hw]
  rfl

/-- The part of a line between its last two quotes, if the word stands somewhere before them. -/
theorem enclosedAfter_append {rest : Text} (hword : word ≠ [])
    (hn : '\n' ∉ u ++ (word ++ (rest ++ quote :: (v ++ quote :: w)))) (hv : quote ∉ v)
    (hw : quote ∉ w) :
    enclosedAfter word quote (u ++ (word ++ (rest ++ quote :: (v ++ quote :: w)))) = v := by
  rw [enclosedAfter_of_not_mem hn]
  cases hc : cut? word (u ++ (word ++ (rest ++ quote :: (v ++ quote :: w)))) with
  | none => exact absurd (List.infix_append' u word _) (cut?_eq_none_iff.1 hc)
  | some found =>
    -- The word may occur earlier, but the two quotes end the line all the same.
    obtain ⟨extra, he⟩ := suffix_of_cut? hword hc
    rw [Option.bind_some, ← he, ← List.append_assoc, lastEnclosed?_append hv hw]
    rfl

/-- A carriage return at the end of a line is not enclosed. -/
theorem enclosed_dropReturn (hn : '\n' ∉ t) (hq : quote ≠ '\r') :
    enclosed quote (dropReturn t) = enclosed quote t := by
  have hd : '\n' ∉ dropReturn t := fun hm => hn ((isPrefix_dropReturn t).subset hm)
  rw [enclosed_of_not_mem hd, enclosed_of_not_mem hn]
  by_cases hr : t.getLast? = some '\r'
  · obtain ⟨u, rfl⟩ := List.getLast?_eq_some_iff.1 hr
    rw [dropReturn_append_return, outermost?_append_of_not_mem (by simpa using hq)]
  · rw [dropReturn_of_ne hr]

theorem enclosed_eq_nil (hn : '\n' ∉ t) (h : quote ∉ t) : enclosed quote t = [] := by
  rw [enclosed_of_not_mem hn, outermost?_eq_none h]
  rfl

end Line

/-! ## Characters -/

section Characters

/-- An enclosed part has the characters of its text. -/
theorem enclosed_subset (quote : Char) (t : Text) : enclosed quote t ⊆ t := by
  unfold enclosed
  cases h : (t.split '\n').findSome? (outermost? quote) with
  | none => exact List.nil_subset t
  | some part =>
    obtain ⟨segment, hs, hp⟩ := List.exists_of_findSome?_eq_some h
    exact ((infix_of_outermost? hp).trans (infix_of_mem_split hs)).subset

/-- An enclosed part lies in one segment, so it holds no newline. -/
theorem newline_not_mem_enclosed (quote : Char) (t : Text) : '\n' ∉ enclosed quote t := by
  unfold enclosed
  cases h : (t.split '\n').findSome? (outermost? quote) with
  | none => exact List.not_mem_nil
  | some part =>
    obtain ⟨segment, hs, hp⟩ := List.exists_of_findSome?_eq_some h
    intro hn
    exact not_mem_of_mem_split hs ((infix_of_outermost? hp).subset hn)

theorem enclosedAfter_subset (word : Text) (quote : Char) (t : Text) :
    enclosedAfter word quote t ⊆ t := by
  unfold enclosedAfter
  cases h : (t.split '\n').findSome? fun segment =>
      (cut? word segment).bind fun found => lastEnclosed? quote found.2 with
  | none => exact List.nil_subset t
  | some part =>
    obtain ⟨segment, hs, hp⟩ := List.exists_of_findSome?_eq_some h
    obtain ⟨found, hf, hp⟩ := Option.bind_eq_some_iff.1 hp
    exact ((infix_of_lastEnclosed? hp).trans ((infix_of_cut? hf).2.trans
      (infix_of_mem_split hs))).subset

end Characters

end TableThrift.Text
