import Mathlib.Tactic.IntervalCases
import TableThrift.Json.Grammar
import TableThrift.Readers.Json.Quoted

/-!
# Reading strings in any spelling

A reader at a spelled string takes exactly the string and leaves what follows it, whatever that is:
the closing quote ends a string, so nothing has to be asked of the text behind it.

## Main results

* `Json.codeUnit_append`: four digits are read as their number
* `Json.character_append`: a character is read from each of its spellings
* `Json.Quoted.string_append`, `Json.Literal.skipString_append`: a string is read, or skipped, to
  its end
-/

namespace TableThrift

/-! ## Hexadecimal digits -/

namespace Text

theorem hexDigit?_digitChar {d : Nat} (h : d < 16) : hexDigit? (Nat.digitChar d) = some d := by
  interval_cases d <;> rfl

/-- The case of a letter does not matter for its value. -/
theorem hexDigit?_toLower (c : Char) : hexDigit? c.toLower = hexDigit? c := by
  by_cases h : c.toNat < 128
  · have all : ∀ n < 128, hexDigit? (Char.ofNat n).toLower = hexDigit? (Char.ofNat n) := by
      decide +kernel
    simpa using all c.toNat h
  · -- Only letters of ASCII have another case.
    have hsame : c.toLower = c := dif_neg fun hupper =>
      h (Nat.lt_of_le_of_lt (UInt32.le_iff_toNat_le.1 hupper.2) (by decide))
    rw [hsame]

theorem hexDigit?_eq_some {c : Char} {d : Nat} (hd : d < 16)
    (h : c.toLower = Nat.digitChar d) : hexDigit? c = some d := by
  rw [← hexDigit?_toLower, h, hexDigit?_digitChar hd]

theorem length_le_byteSize (t : Text) : t.length ≤ byteSize t := by
  have from_count (n : Nat) : n + t.length ≤ t.foldl (fun n c => n + c.utf8Size) n := by
    induction t generalizing n with
    | nil => simp
    | cons c t ih =>
      have := ih (n + c.utf8Size)
      have := c.utf8Size_pos
      simp only [List.length_cons, List.foldl_cons]
      omega
  simpa [byteSize] using from_count 0

end Text

namespace Json

/-! ## Code units -/

section Units

variable {n : Nat} {t rest : Text}

theorem isLeading_iff : isLeading n = true ↔ 0xD800 ≤ n ∧ n ≤ 0xDBFF := by simp [isLeading]

theorem isTrailing_iff : isTrailing n = true ↔ 0xDC00 ≤ n ∧ n ≤ 0xDFFF := by simp [isTrailing]

/-- The four digits of a code unit with their values. -/
theorem HexUnit.digits (hn : n < 0x10000) (h : HexUnit n t) :
    ∃ a b c d, t = [a, b, c, d] ∧ Text.hexDigit? a = some (n / 0x1000) ∧
      Text.hexDigit? b = some (n / 0x100 % 0x10) ∧ Text.hexDigit? c = some (n / 0x10 % 0x10) ∧
      Text.hexDigit? d = some (n % 0x10) := by
  have hlen : t.length = 4 := by simpa using congrArg List.length h
  obtain ⟨a, b, c, d, rfl⟩ : ∃ a b c d, t = [a, b, c, d] := by
    match t, hlen with
    | [a, b, c, d], _ => exact ⟨a, b, c, d, rfl⟩
  simp only [HexUnit, List.map_cons, List.map_nil, List.cons.injEq, and_true] at h
  obtain ⟨ha, hb, hc, hd⟩ := h
  exact ⟨a, b, c, d, rfl, Text.hexDigit?_eq_some (by omega) ha,
    Text.hexDigit?_eq_some (by omega) hb, Text.hexDigit?_eq_some (by omega) hc,
    Text.hexDigit?_eq_some (by omega) hd⟩

/-- **Four digits are read as their number.** -/
theorem codeUnit_append (hn : n < 0x10000) (h : HexUnit n t) :
    codeUnit (t ++ rest) = .ok (n, rest) := by
  obtain ⟨a, b, c, d, rfl, ha, hb, hc, hd⟩ := h.digits hn
  -- The reader counts bytes first, and every character has at least one.
  have hsize : ¬Text.byteSize [a, b, c, d] < 4 := by
    have := Text.length_le_byteSize [a, b, c, d]
    simp only [List.length_cons, List.length_nil] at this
    omega
  have hnumber : Text.hexNumber? [a, b, c, d] = some n := by
    simp only [Text.hexNumber?, List.foldl_cons, List.foldl_nil, ha, hb, hc, hd,
      Option.bind_eq_bind, Option.bind_some, Option.pure_def]
    congr 1
    omega
  simp [codeUnit, hsize, hnumber]

theorem trailingUnit_append (hn : isTrailing n = true) (h : HexUnit n t) :
    trailingUnit ('\\' :: 'u' :: (t ++ rest)) = .ok (n, rest) := by
  have hlt : n < 0x10000 := by
    have := isTrailing_iff.1 hn
    omega
  simp [trailingUnit, expectWord, codeUnit_append hlt h, hn]

end Units

/-! ## Characters -/

section Characters

variable {c : Char} {t rest : Text}

/-- No character is half of a surrogate pair. -/
theorem toNat_lt_or_lt (c : Char) :
    c.toNat < 0xD800 ∨ (0xDFFF < c.toNat ∧ c.toNat < 0x110000) := c.valid

theorem isTrailing_toNat (c : Char) : isTrailing c.toNat = false := by
  have := toNat_lt_or_lt c
  rw [← Bool.not_eq_true, isTrailing_iff]
  omega

theorem isLeading_toNat (c : Char) : isLeading c.toNat = false := by
  have := toNat_lt_or_lt c
  rw [← Bool.not_eq_true, isLeading_iff]
  omega

theorem isLeading_highUnit (hc : 0x10000 ≤ c.toNat) : isLeading (highUnit c) = true := by
  have := toNat_lt_or_lt c
  rw [isLeading_iff, highUnit]
  omega

theorem isTrailing_lowUnit (c : Char) : isTrailing (lowUnit c) = true := by
  rw [isTrailing_iff, lowUnit]
  omega

/-- The two code units of a character make it up again. -/
theorem ofPair_units (hc : 0x10000 ≤ c.toNat) : ofPair (highUnit c) (lowUnit c) = c := by
  have hsum : 0x10000 + (highUnit c - 0xD800) * 0x400 + (lowUnit c - 0xDC00) = c.toNat := by
    simp only [highUnit, lowUnit]
    omega
  rw [ofPair, hsum, Char.ofNat_toNat]

theorem unicodeEscape_unit (hc : c.toNat < 0x10000) (h : HexUnit c.toNat t) :
    unicodeEscape (t ++ rest) = .ok (c, rest) := by
  simp [unicodeEscape, codeUnit_append hc h, isTrailing_toNat, isLeading_toNat]

theorem unicodeEscape_pair {u : Text} (hc : 0x10000 ≤ c.toNat) (ht : HexUnit (highUnit c) t)
    (hu : HexUnit (lowUnit c) u) :
    unicodeEscape (t ++ '\\' :: 'u' :: (u ++ rest)) = .ok (c, rest) := by
  -- The first unit alone is no character, so the reader goes on to the second.
  have hhigh := isLeading_highUnit hc
  have hrange := isLeading_iff.1 hhigh
  have hlow : isTrailing (highUnit c) = false := by
    rw [← Bool.not_eq_true, isTrailing_iff]
    omega
  rw [unicodeEscape, codeUnit_append (by omega) ht]
  simp only [hlow, hhigh, if_true, Bool.false_eq_true, if_false,
    trailingUnit_append (isTrailing_lowUnit c) hu, ofPair_units hc]

theorem shortEscape?_of_mem {letter : Char} (h : (letter, c) ∈ shortEscapes) :
    letter ≠ 'u' ∧ shortEscape? letter = some c := by
  have all : ∀ p ∈ shortEscapes, p.1 ≠ 'u' ∧ shortEscape? p.1 = some p.2 := by decide
  exact all _ h

theorem Plain.isControl (h : Plain c) : isControl c = false := by
  simpa [Json.isControl] using h.2.2

/-- **A character is read from each of its spellings.** -/
theorem character_append (h : Spelling c t) : character (t ++ rest) = .ok (some c, rest) := by
  cases h with
  | plain hc =>
    simp [character, hc.1, hc.2.1, hc.isControl]
  | short hc =>
    obtain ⟨hu, hs⟩ := shortEscape?_of_mem hc
    simp [character, escape, hu, hs, Except.map]
  | unit hc ht =>
    simp [character, escape, unicodeEscape_unit hc ht, Except.map]
  | pair hc ht hu =>
    simp only [List.cons_append, List.append_assoc, character, escape]
    simp [unicodeEscape_pair hc ht hu, Except.map]

end Characters

/-! ## Strings -/

section Strings

variable {s rest : Text} {us : List Text}

theorem string_of_character {c : Char} {t : Text} (h : character t = .ok (some c, rest)) :
    string t = (string rest).map fun p => (c :: p.1, p.2) := by
  rw [string]
  split <;> simp_all

/-- The spellings of the characters of a string are read up to the closing quote. -/
theorem string_append_quote (h : List.Forall₂ Spelling s us) :
    string (us.flatten ++ '"' :: rest) = .ok (s, rest) := by
  induction h with
  | nil =>
    rw [List.flatten_nil, List.nil_append, string]
    simp [character]
  | cons hc _ ih =>
    rw [List.flatten_cons, List.append_assoc, string_of_character (character_append hc), ih]
    rfl

/-- One character or escape of a skipped string. -/
theorem skipString_mark {u t : Text} (h : Mark u) : skipString (u ++ t) = skipString t := by
  cases h with
  | plain hc =>
    rw [List.singleton_append, skipString.eq_def]
    simp [hc.1, hc.2.1, hc.isControl]
  | short hc =>
    obtain ⟨hu, hs⟩ := shortEscape?_of_mem hc
    rw [List.cons_append, skipString.eq_def]
    simp [hu, hs]
  | unit hn ht =>
    rw [List.cons_append, skipString.eq_def]
    simp only [List.cons_append, if_true, if_false, Char.reduceEq]
    split <;> simp_all [codeUnit_append hn ht]

/-- The characters and escapes of a string are skipped up to the closing quote. -/
theorem skipString_append_quote (h : ∀ u ∈ us, Mark u) :
    skipString (us.flatten ++ '"' :: rest) = .ok rest := by
  induction us with
  | nil =>
    rw [List.flatten_nil, List.nil_append, skipString.eq_def]
    simp
  | cons u us ih =>
    rw [List.flatten_cons, List.append_assoc, skipString_mark (h u List.mem_cons_self)]
    exact ih fun v hv => h v (List.mem_cons_of_mem u hv)

theorem spelling_plain (h : s.all (Plain ·) = true) :
    List.Forall₂ Spelling s (s.map fun c => [c]) := by
  induction s with
  | nil => exact .nil
  | cons c s ih =>
    rw [List.all_cons, Bool.and_eq_true, decide_eq_true_eq] at h
    exact .cons (.plain h.1) (ih h.2)

/-- A string of plain characters may be written as it is. -/
theorem quoted_plain (h : s.all (Plain ·) = true) : Quoted s ('"' :: s ++ ['"']) := by
  have hflat : (s.map fun c => [c]).flatten = s := by
    rw [← List.flatMap_def, List.flatMap_singleton']
  simpa only [hflat] using Quoted.mk (spelling_plain h)

/-- **A string is read from each of its spellings**, behind its opening quote. -/
theorem Quoted.string_append {t : Text} (h : Quoted s t) :
    ∃ u, t = '"' :: u ∧ ∀ rest, string (u ++ rest) = .ok (s, rest) := by
  cases h with
  | @mk us hs => exact ⟨us.flatten ++ ['"'], rfl, fun rest => by simp [string_append_quote hs]⟩

/-- **A string is skipped to its end**, behind its opening quote. -/
theorem Literal.skipString_append {t : Text} (h : Literal t) :
    ∃ u, t = '"' :: u ∧ ∀ rest, skipString (u ++ rest) = .ok rest := by
  cases h with
  | @mk us hs => exact ⟨us.flatten ++ ['"'], rfl, fun rest => by simp [skipString_append_quote hs]⟩

end Strings

end Json

end TableThrift
