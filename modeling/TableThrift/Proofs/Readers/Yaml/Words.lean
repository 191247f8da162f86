import Mathlib.Data.List.Basic
import TableThrift.Readers.Yaml.Layout
import TableThrift.Yaml.Printer

/-!
# Words without quotes

A bare word holds no character that means anything to YAML, so it is read as one plain scalar up to
the character that ends it.

## Main definitions

* `Yaml.StartsToken`: a text that has no space or comment in front

## Main results

* `Yaml.isAllowed_of_isBare`, `Yaml.ne_of_isBare`: the characters of a bare word
* `Yaml.plain_bareWord`, `Yaml.plain_bareWord_newline`: a bare word is read up to its end
* `Yaml.Position.after_bareWord`: the position behind a bare word
-/

namespace TableThrift.Yaml

/-! ## Characters -/

section Characters

variable {c : Char}

/-- What holds of every bare character is settled below 128. -/
theorem of_isBare {p : Char → Bool}
    (hall : ∀ n < 128, isBare (Char.ofNat n) = true → p (Char.ofNat n) = true)
    (h : isBare c = true) : p c = true := by
  have hbelow (last : Char) (hl : last.toNat < 128) (h : c.val ≤ last.val) : c.toNat < 128 :=
    Nat.lt_of_le_of_lt (UInt32.le_iff_toNat_le.1 h) hl
  have hlt : c.toNat < 128 := by
    rcases Bool.or_eq_true_iff.1 h with h | hunderscore
    · rcases Bool.or_eq_true_iff.1 h with h | hdigit
      · rcases Bool.or_eq_true_iff.1 h with hupper | hlower
        · exact hbelow 'Z' (by decide) (of_decide_eq_true hupper).2
        · exact hbelow 'z' (by decide) (of_decide_eq_true (Bool.and_eq_true_iff.1 hlower).2)
      · exact hbelow '9' (by decide) (of_decide_eq_true (Bool.and_eq_true_iff.1 hdigit).2)
    · rw [eq_of_beq hunderscore]
      decide
  have hc := hall c.toNat hlt
  rw [Char.ofNat_toNat] at hc
  exact hc h

theorem isAllowed_of_isBare (h : isBare c = true) : isAllowed c = true :=
  @of_isBare c isAllowed (by decide +kernel) h

theorem utf8Size_of_isBare (h : isBare c = true) : c.utf8Size = 1 :=
  eq_of_beq (@of_isBare c (fun c => c.utf8Size == 1) (by decide +kernel) h)

theorem isSpace_of_isBare (h : isBare c = true) : isSpace c = false := by
  simpa using @of_isBare c (fun c => !isSpace c) (by decide +kernel) h

theorem ne_of_isBare {d : Char} (hc : isBare c = true) (hd : isBare d = false) : c ≠ d := by
  rintro rfl
  rw [hc] at hd
  cases hd

/-- Bare characters are not in a list of others. -/
theorem not_mem_of_isBare {cs : Text} (hc : isBare c = true) (h : cs.any isBare = false) :
    c ∉ cs := fun hm => List.any_eq_false.1 h c hm hc

theorem isBreak_of_isSpace (h : isSpace c = false) : isBreak c = false :=
  (Bool.or_eq_false_iff.1 h).2

theorem isBlank_of_isSpace (h : isSpace c = false) : isBlank c = false :=
  (Bool.or_eq_false_iff.1 h).1

end Characters

/-! ## Texts in front of a token -/

section StartsToken

variable {t : Text}

/-- A text that has nothing in front that is passed over. -/
def StartsToken (t : Text) : Prop := ∀ c ∈ t.head?, isSpace c = false ∧ c ≠ '#' ∧ c ≠ '\ufeff'

theorem startsToken_nil : StartsToken [] := nofun

theorem startsToken_cons {c : Char} (h : isSpace c = false ∧ c ≠ '#' ∧ c ≠ '\ufeff') (t : Text) :
    StartsToken (c :: t) := by
  intro d hd
  rwa [← Option.mem_some_iff.1 hd]

theorem BareWord.startsToken_append {w : Text} (h : BareWord w) (t : Text) :
    StartsToken (w ++ t) := by
  obtain ⟨c, w, rfl⟩ := List.exists_cons_of_ne_nil h.1
  have hc := h.2 c List.mem_cons_self
  exact startsToken_cons
    ⟨isSpace_of_isBare hc, ne_of_isBare hc (by decide), ne_of_isBare hc (by decide)⟩ (w ++ t)

/-- Nothing is passed over in front of a token. -/
theorem StartsToken.skipSpace (h : StartsToken t) (inFlow tabs isFirst : Bool) :
    Layout.skipSpace inFlow tabs false isFirst t = (t, false) := by
  cases t with
  | nil => rfl
  | cons c t =>
    obtain ⟨hspace, hmark, hbom⟩ := h c rfl
    have hbreak := isBreak_of_isSpace hspace
    have hblank : c ≠ ' ' ∧ c ≠ '\t' := by simpa [isBlank] using isBlank_of_isSpace hspace
    simp [Layout.skipSpace, hbreak, hblank, hmark, hbom]

theorem StartsToken.skipSpace_space (h : StartsToken t) (inFlow tabs isFirst : Bool) :
    Layout.skipSpace inFlow tabs false isFirst (' ' :: t) = (t, false) := by
  rw [Layout.skipSpace]
  simp [h.skipSpace, isBreak]

theorem StartsToken.skipSpace_newline (h : StartsToken t) (inFlow tabs isFirst : Bool) :
    Layout.skipSpace inFlow tabs false isFirst ('\n' :: t) = (t, true) := by
  rw [Layout.skipSpace]
  simp [h.skipSpace, isBreak]

theorem length_skipSpace_le (inFlow tabs inComment isFirst : Bool) (t : Text) :
    (Layout.skipSpace inFlow tabs inComment isFirst t).1.length ≤ t.length := by
  induction t generalizing tabs inComment isFirst with
  | nil => exact Nat.le_refl _
  | cons c t ih =>
    rw [Layout.skipSpace]
    split_ifs
    · exact Nat.le_succ_of_le (ih _ _ _)
    · exact Nat.le_succ_of_le (ih _ _ _)
    · exact Nat.le_succ_of_le (ih _ _ _)
    · exact Nat.le_refl _

end StartsToken

/-! ## Plain scalars -/

section Plain

variable {inFlow : Bool} {least : Nat} {w t : Text}

/-- A bare word goes on up to where a word ends. -/
theorem plainWord_append (hw : ∀ c ∈ w, isBare c = true)
    (ht : plainWord inFlow t = some ([], t)) : plainWord inFlow (w ++ t) = some (w, t) := by
  induction w with
  | nil => exact ht
  | cons c w ih =>
    have hc := hw c List.mem_cons_self
    have hcolon : c ≠ ':' := ne_of_isBare hc (by decide)
    have hflow : c ∉ flowMarks := not_mem_of_isBare hc (by decide)
    rw [List.cons_append, plainWord, ih fun d hd => hw d (List.mem_cons_of_mem c hd)]
    simp [isSpace_of_isBare hc, hcolon, hflow]

/-- A bare word with the gap behind it. -/
theorem plain_append {g : Gap} {after : Text} (hw : BareWord w)
    (ht : plainWord inFlow t = some ([], t)) (hg : gap least t = some (g, after)) :
    plain inFlow least (w ++ t) =
      if !t.head?.any isSpace then some ⟨w, false, t⟩
      else if !inFlow && g.isBroken && decide (g.column < least) then some ⟨w, true, after⟩
      else (plainFrom inFlow least g after).map fun p => { p with text := w ++ p.text } := by
  have hread := plainWord_append hw.2 ht
  obtain ⟨c, w, rfl⟩ := List.exists_cons_of_ne_nil hw.1
  have hmark : c ≠ '#' := ne_of_isBare (hw.2 c List.mem_cons_self) (by decide)
  -- The word starts no comment, and only a new line could start a mark between documents.
  rw [plain, plainFrom, if_neg (by simp [Gap.isBroken, hmark])]
  split
  · simp_all
  · simp_all
  · next d v rest hd =>
    obtain ⟨hv, rfl⟩ := Prod.mk.inj (Option.some.inj (hd.symm.trans hread))
    obtain ⟨rfl, rfl⟩ := List.cons.inj hv
    split
    · simp_all
    · next g' after' hg' =>
      obtain ⟨rfl, rfl⟩ := Prod.mk.inj (Option.some.inj (hg'.symm.trans hg))
      rfl

/-- **A bare word is read up to its end** in its line. -/
theorem plain_bareWord (hw : BareWord w) (ht : plainWord inFlow t = some ([], t))
    (hs : ∀ c ∈ t.head?, isSpace c = false) : plain inFlow least (w ++ t) = some ⟨w, false, t⟩ := by
  have hgap : gap least t = some ({ blanks := [] }, t) := by
    cases t with
    | nil => rfl
    | cons c t =>
      have hc := hs c rfl
      simp [gap, isBlank_of_isSpace hc, isBreak_of_isSpace hc]
  rw [plain_append hw ht hgap]
  cases t with
  | nil => rfl
  | cons c t => simp [hs c rfl]

/-- **A bare word is read up to the end of its line** if the next line is not indented enough. -/
theorem plain_bareWord_newline (hw : BareWord w) (hl : 0 < least)
    (hs : ∀ c ∈ t.head?, isSpace c = false) :
    plain false least (w ++ '\n' :: t) = some ⟨w, true, t⟩ := by
  have hline : lineGap least 0 t = some ({ column := 0 }, t) := by
    cases t with
    | nil => rfl
    | cons c t =>
      have hc := hs c rfl
      rw [lineGap]
      · simp [isBlank_of_isSpace hc, isBreak_of_isSpace hc]
      · rintro _ rfl
        cases hc
  have hgap : gap least ('\n' :: t) = some ({ breaks := [['\n']], column := 0 }, t) := by
    simp [gap, isBlank, isBreak, lineGap, hline, breakText]
  rw [plain_append hw (by simp [plainWord, isSpace, isBreak]) hgap]
  simp [isSpace, isBreak, Gap.isBroken, hl]

end Plain

/-! ## Positions -/

section Position

variable {w : Text}

/-- **The position behind a bare word** is on the same line, a byte and a column further for each
character. -/
theorem Position.after_bareWord (hw : ∀ c ∈ w, isBare c = true) (p : Position) (t : Text) :
    p.after (w ++ t) = Position.after ⟨p.index + w.length, p.line, p.column + w.length⟩ t := by
  induction w generalizing p with
  | nil => rfl
  | cons c w ih =>
    have hc := hw c List.mem_cons_self
    rw [List.cons_append, after_cons (isBreak_of_isSpace (isSpace_of_isBare hc)),
      ih fun d hd => hw d (List.mem_cons_of_mem c hd), utf8Size_of_isBare hc]
    simp only [List.length_cons, Nat.add_assoc, Nat.add_comm 1]

end Position

end TableThrift.Yaml
