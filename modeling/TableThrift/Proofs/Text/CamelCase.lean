import Mathlib.Data.List.Nodup
import Mathlib.Data.List.Pairwise
import TableThrift.Proofs.Text.Case

/-!
# Camel case of joined texts

Camel case of two texts joined by an underscore is that of the first text, followed by that of the
second one with a capital. If the second text begins with underscores, its first letter becomes a
capital on both sides, but twice on one of them. This does not matter, because no upper-case form
begins with a character that has an upper-case form other than itself.

## Main definitions

* `Text.UpperForm`: the upper-case mapping as a relation

## Main results

* `Text.upperForm_iff`: the upper-case form of a character is the one of the mapping
* `Text.exists_upper_eq_cons`: the first character of an upper-case form is its own upper-case form
* `Text.capitalize_capitalize`, `Text.toCamelCase_toCamelCase`: a second time changes nothing
* `Text.capitalize_toCamelCase`: camel case with a capital, piece by piece
* `Text.toCamelCase_append_cons`: camel case of joined texts
* `Text.camelCase_laws`: these laws together
-/

namespace TableThrift.Text

/-! ## The upper-case mapping -/

/-- The upper-case mapping. A character may have a form of several characters; else the run that it
belongs to gives its form; else it is its own form. -/
inductive UpperForm (c : Char) : Text → Prop where
  | expansion {codes : List Nat} (h : (c.toNat, codes) ∈ caseExpansions) :
    UpperForm c (codes.map Char.ofNat)
  | run {r : CaseRun} (he : ∀ e ∈ caseExpansions, e.1 ≠ c.toNat) (hr : r ∈ caseRuns)
    (hc : r.covers c.toNat = true) : UpperForm c [Char.ofNat (r.upper c.toNat)]
  | same (he : ∀ e ∈ caseExpansions, e.1 ≠ c.toNat)
    (hr : ∀ r ∈ caseRuns, r.covers c.toNat = false) : UpperForm c [c]

namespace CaseRun

variable {r s : CaseRun} {n : Nat}

theorem covers_iff : r.covers n = true ↔ r.first ≤ n ∧ n ≤ r.last ∧ (n - r.first) % r.step = 0 := by
  simp only [covers, Bool.and_eq_true, decide_eq_true_eq, beq_iff_eq, and_assoc]

/-- Whether a code point lies outside the images of a run. -/
def avoids (r : CaseRun) (n : Nat) : Bool :=
  Nat.blt n r.image || Nat.blt (r.image + (r.last - r.first)) n

/-- Whether no image of `r` belongs to `s`: the images lie before `s` or behind it, or there is an
image at every other code point at most, and `s` holds the code points between them. -/
def misses (r s : CaseRun) : Bool :=
  Nat.blt (r.image + (r.last - r.first)) s.first || Nat.blt s.last r.image ||
    (r.first == r.last || r.step == 2) && s.step == 2 && r.image % 2 != s.first % 2

/-- One of two runs lies before the other. -/
def Apart (r s : CaseRun) : Prop := r.last < s.first ∨ s.last < r.first

instance : Std.Symm Apart := ⟨fun _ _ h => h.symm⟩

theorem ne_of_avoids {m : Nat} (h : r.avoids m = true) (hc : r.covers n = true) :
    m ≠ r.upper n := by
  rw [avoids, Bool.or_eq_true, Nat.blt_eq, Nat.blt_eq] at h
  obtain ⟨hfirst, hlast, -⟩ := covers_iff.1 hc
  rw [upper]
  omega

theorem not_covers_of_misses (h : r.misses s = true) (hc : r.covers n = true) :
    s.covers (r.upper n) = false := by
  rw [← Bool.not_eq_true, covers_iff, upper]
  rintro ⟨hfirst, hlast, hstep⟩
  obtain ⟨hfirst', hlast', hstep'⟩ := covers_iff.1 hc
  simp only [misses, Bool.or_eq_true, Bool.and_eq_true, Nat.blt_eq, beq_iff_eq, bne_iff_ne] at h
  rcases h with (h | h) | ⟨⟨h | h, hs⟩, hparity⟩
  · omega
  · omega
  · -- The run has a single image, of the wrong parity.
    rw [hs] at hstep
    omega
  · rw [hs] at hstep
    rw [h] at hstep'
    omega

end CaseRun

section Mapping

variable {c : Char} {t : Text}

/-! ### Facts about the tables -/

/-- No two expansions belong to one character. -/
theorem isChain_caseExpansions : (caseExpansions.map Prod.fst).IsChain (· < ·) := by
  decide +kernel

/-- The runs follow one another and share no code point. -/
theorem isChain_caseRuns :
    caseRuns.IsChain fun r s => r.first ≤ r.last ∧ r.last < s.first := by decide +kernel

/-- No image of a run has an expansion. -/
theorem avoids_caseExpansions :
    (caseRuns.all fun r => caseExpansions.all fun e => r.avoids e.1) = true := by decide +kernel

/-- No image of a run belongs to a run. -/
theorem misses_caseRuns : (caseRuns.all fun r => caseRuns.all r.misses) = true := by
  decide +kernel

/-- Every expansion begins with a character that is its own upper-case form. -/
theorem upper_head_caseExpansions :
    ∀ e ∈ caseExpansions, ∃ n ∈ e.2.head?, upper (Char.ofNat n) = [Char.ofNat n] := by
  decide +kernel

/-! ### The mapping as a function -/

/-- A search finds the only member that it can find. -/
theorem find?_eq_some_of_unique {α : Type} {p : α → Bool} {l : List α} {a : α} (ha : a ∈ l)
    (hp : p a = true) (hunique : ∀ b ∈ l, p b = true → b = a) : l.find? p = some a := by
  obtain ⟨b, hb⟩ := Option.isSome_iff_exists.1 (List.find?_isSome.2 ⟨a, ha, hp⟩)
  rw [hb, hunique b (List.mem_of_find?_eq_some hb) (List.find?_some hb)]

theorem find?_caseExpansions {e : Nat × List Nat} (h : e ∈ caseExpansions) :
    caseExpansions.find? (·.1 == e.1) = some e := by
  have hkeys : (caseExpansions.map Prod.fst).Nodup :=
    isChain_caseExpansions.pairwise.imp Nat.ne_of_lt
  apply find?_eq_some_of_unique h (beq_self_eq_true e.1)
  intro e' he' hkey
  exact List.inj_on_of_nodup_map hkeys he' h (beq_iff_eq.1 hkey)

theorem find?_caseRuns {r : CaseRun} {n : Nat} (h : r ∈ caseRuns) (hc : r.covers n = true) :
    caseRuns.find? (·.covers n) = some r := by
  have htrans : IsTrans CaseRun fun r s => r.first ≤ r.last ∧ r.last < s.first :=
    ⟨fun r s u hrs hsu => ⟨hrs.1, by omega⟩⟩
  have hapart : caseRuns.Pairwise CaseRun.Apart :=
    isChain_caseRuns.pairwise.imp fun hrs => .inl hrs.2
  apply find?_eq_some_of_unique h hc
  intro s hs hcs
  by_contra hne
  -- Of two different runs one lies before the other.
  have hsr := hapart.forall hs h hne
  have hs := CaseRun.covers_iff.1 hcs
  have hr := CaseRun.covers_iff.1 hc
  unfold CaseRun.Apart at hsr
  omega

/-- The upper-case form of a character is a form of the mapping. -/
theorem upperForm_upper (c : Char) : UpperForm c (upper c) := by
  unfold upper
  split
  · next n codes he =>
    have hkey := List.find?_some he
    obtain rfl : n = c.toNat := beq_iff_eq.1 hkey
    exact .expansion (List.mem_of_find?_eq_some he)
  · next he =>
    have hkeys : ∀ e ∈ caseExpansions, e.1 ≠ c.toNat := by
      intro e hm hkey
      exact List.find?_eq_none.1 he e hm (beq_iff_eq.2 hkey)
    split
    · next r hr =>
      have hc := List.find?_some hr
      exact .run hkeys (List.mem_of_find?_eq_some hr) hc
    · next hr =>
      refine .same hkeys fun r hm => ?_
      exact Bool.eq_false_iff.2 (List.find?_eq_none.1 hr r hm)

theorem find?_caseExpansions_eq_none {n : Nat} (h : ∀ e ∈ caseExpansions, e.1 ≠ n) :
    caseExpansions.find? (·.1 == n) = none :=
  List.find?_eq_none.2 fun e hm hkey => h e hm (beq_iff_eq.1 hkey)

/-- **The upper-case form of a character** is the one that the mapping gives, and the mapping gives
no other. -/
theorem upperForm_iff : UpperForm c t ↔ upper c = t := by
  constructor
  · intro h
    unfold upper
    cases h with
    | expansion he => rw [find?_caseExpansions he]
    | run he hr hc => rw [find?_caseExpansions_eq_none he, find?_caseRuns hr hc]
    | same he hr =>
      rw [find?_caseExpansions_eq_none he, List.find?_eq_none.2 fun r hm => by simp [hr r hm]]
  · rintro rfl
    exact upperForm_upper c

/-- An image of a run is its own upper-case form. -/
theorem upper_image {r : CaseRun} {n : Nat} (hr : r ∈ caseRuns) (hc : r.covers n = true) :
    upper (Char.ofNat (r.upper n)) = [Char.ofNat (r.upper n)] := by
  obtain ⟨-, -, hvalid⟩ := image_of_mem_caseRuns r hr
  obtain ⟨hfirst, hlast, -⟩ := CaseRun.covers_iff.1 hc
  have hn : (Char.ofNat (r.upper n)).toNat = r.upper n := by
    apply toNat_ofNat
    unfold CaseRun.upper Nat.isValidChar
    omega
  apply upperForm_iff.1
  refine .same ?_ ?_
  · intro e he
    rw [hn]
    exact CaseRun.ne_of_avoids
      (List.all_eq_true.1 (List.all_eq_true.1 avoids_caseExpansions r hr) e he) hc
  · intro s hs
    rw [hn]
    exact CaseRun.not_covers_of_misses
      (List.all_eq_true.1 (List.all_eq_true.1 misses_caseRuns r hr) s hs) hc

/-- **The first character of an upper-case form** is its own upper-case form. -/
theorem exists_upper_eq_cons (c : Char) : ∃ d ds, upper c = d :: ds ∧ upper d = [d] := by
  have h := upperForm_upper c
  generalize hu : upper c = form at h
  cases h with
  | @expansion codes he =>
    obtain ⟨n, hn, hhead⟩ := upper_head_caseExpansions _ he
    obtain ⟨ns, rfl⟩ := List.head?_eq_some_iff.1 hn
    exact ⟨Char.ofNat n, ns.map Char.ofNat, rfl, hhead⟩
  | run he hr hc => exact ⟨_, [], rfl, upper_image hr hc⟩
  | same he hr => exact ⟨c, [], rfl, hu⟩

end Mapping

/-! ## Capitals -/

section Capitalize

variable {t : Text}

/-- Only the first of two joined texts is capitalized, unless it is empty. -/
theorem capitalize_append (h : t ≠ []) (u : Text) :
    capitalize (t ++ u) = capitalize t ++ u := by
  cases t with
  | nil => exact absurd rfl h
  | cons c cs => rw [List.cons_append, capitalize_cons, capitalize_cons, List.append_assoc]

/-- Capitalizing a text again changes nothing. -/
theorem capitalize_capitalize (t : Text) : capitalize (capitalize t) = capitalize t := by
  cases t with
  | nil => rfl
  | cons c cs =>
    obtain ⟨d, ds, hc, hd⟩ := exists_upper_eq_cons c
    rw [capitalize_cons, hc, List.cons_append, capitalize_cons, hd]
    rfl

/-- Capitalized texts in a row begin with a capital already. -/
theorem capitalize_flatMap_capitalize (ts : List Text) :
    capitalize (ts.flatMap capitalize) = ts.flatMap capitalize := by
  induction ts with
  | nil => rfl
  | cons t ts ih =>
    rw [List.flatMap_cons]
    by_cases ht : capitalize t = []
    · -- An empty text leaves the beginning to the next one.
      rw [ht, List.nil_append, ih]
    · rw [capitalize_append ht, capitalize_capitalize]

end Capitalize

/-! ## Camel case -/

section CamelCase

/-- **Camel case with a capital** capitalizes every piece. -/
theorem capitalize_toCamelCase (t : Text) :
    capitalize (toCamelCase t) = (split '_' t).flatMap capitalize := by
  obtain ⟨first, others, hs⟩ := exists_split_eq_cons '_' t
  rw [toCamelCase_of_split hs, hs, List.flatMap_cons]
  by_cases hf : first = []
  · subst hf
    exact capitalize_flatMap_capitalize others
  · exact capitalize_append hf _

/-- **Camel case of joined texts.** -/
theorem toCamelCase_append_cons (a b : Text) :
    toCamelCase (a ++ '_' :: b) = toCamelCase a ++ capitalize (toCamelCase b) := by
  obtain ⟨first, others, hs⟩ := exists_split_eq_cons '_' a
  -- The pieces of `b` all come behind the first one of `a`.
  have hjoined : split '_' (a ++ '_' :: b) = first :: (others ++ split '_' b) := by
    rw [split_append, hs]
    rfl
  rw [toCamelCase_of_split hjoined, List.flatMap_append, ← capitalize_toCamelCase,
    ← List.append_assoc, ← toCamelCase_of_split hs]

/-- Camel case of a text in camel case changes nothing. -/
theorem toCamelCase_toCamelCase (t : Text) : toCamelCase (toCamelCase t) = toCamelCase t :=
  toCamelCase_of_not_mem (underscore_not_mem_toCamelCase t)

/-- **The laws of camel case.** Camel case of two texts joined by an underscore is that of the first
and then that of the second with a capital, wherever else underscores stand. It has no underscores,
so a second time it changes nothing, and neither does a second capital. A capital is the upper-case
form that the mapping gives to the first character, and may be several characters. -/
theorem camelCase_laws (a b : Text) :
    toCamelCase (a ++ "_".toList ++ b) = toCamelCase a ++ capitalize (toCamelCase b) ∧
    '_' ∉ toCamelCase a ∧
    toCamelCase (toCamelCase a) = toCamelCase a ∧
    capitalize (capitalize a) = capitalize a ∧
    (∀ c form, UpperForm c form ↔ capitalize (c :: a) = form ++ a) ∧
    ∃ c, (capitalize [c]).length = 3 := by
  refine ⟨?_, underscore_not_mem_toCamelCase a, toCamelCase_toCamelCase a,
    capitalize_capitalize a, ?_, ?_⟩
  · rw [List.append_assoc]
    exact toCamelCase_append_cons a b
  · intro c form
    rw [upperForm_iff, capitalize_cons, List.append_cancel_right_eq]
  · exact ⟨'\u0390', by decide⟩

/-- Underscores in front, in the middle and at the end, with a letter that becomes two capitals. -/
example : toCamelCase "_a__\u00DFb_".toList = "ASSb".toList := by decide

end CamelCase

end TableThrift.Text
