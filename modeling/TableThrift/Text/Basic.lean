/-!
# Texts

A text is a list of characters. Everything the library reads or prints is built from two
operations on it: splitting at a separating character, and cutting around the first or the last
occurrence of a word.

## Main definitions

* `Text.split`: the pieces between the occurrences of a character
* `Text.cut?`, `Text.cutLast?`: what stands before and after an occurrence of a word
* `Text.occurs`, `Text.eraseFirst`: whether a word occurs, and the text without its first occurrence
* `Text.pieces`: the pieces between the occurrences of a word
* `Text.bytes`, `Text.ofBytes?`: the UTF-8 form of a text

## Main results

* `Text.intercalate_split`, `Text.not_mem_of_mem_split`: the pieces make up the text and are free
  of the separator
* `Text.append_of_cut?`, `Text.append_of_cutLast?`: a cut loses nothing
* `Text.occurs_iff`: a word occurs where it is an infix
* `Text.ofBytes?_bytes`: the bytes of a text read back
-/

namespace TableThrift

/-- A text: its characters in order. -/
abbrev Text := List Char

namespace Text

/-! ## Splitting at a character -/

section Split

/-- The pieces of a text between the occurrences of `sep`, one more than there are occurrences. -/
def split (sep : Char) : Text → List Text
  | [] => [[]]
  | c :: cs => if c = sep then [] :: split sep cs else (split sep cs).modifyHead (c :: ·)

@[simp] theorem split_nil (sep : Char) : split sep [] = [[]] := rfl

@[simp] theorem split_cons_self (sep : Char) (t : Text) :
    split sep (sep :: t) = [] :: split sep t := by simp [split]

theorem split_cons_of_ne {sep c : Char} (h : c ≠ sep) (t : Text) :
    split sep (c :: t) = (split sep t).modifyHead (c :: ·) := by simp [split, h]

theorem split_ne_nil (sep : Char) (t : Text) : split sep t ≠ [] := by
  induction t with
  | nil => simp
  | cons c cs ih =>
    by_cases h : c = sep
    · simp [split, h]
    · rw [split_cons_of_ne h]
      cases hs : split sep cs with
      | nil => exact absurd hs ih
      | cons => simp

theorem exists_split_eq_cons (sep : Char) (t : Text) :
    ∃ first others, split sep t = first :: others :=
  List.exists_cons_of_ne_nil (split_ne_nil sep t)

/-- The pieces, joined by the separator, are the text. -/
theorem intercalate_split (sep : Char) (t : Text) :
    List.intercalate [sep] (split sep t) = t := by
  induction t with
  | nil => simp [List.intercalate]
  | cons c cs ih =>
    obtain ⟨s, ss, hs⟩ := exists_split_eq_cons sep cs
    rw [hs] at ih
    by_cases h : c = sep
    · subst h
      rw [split_cons_self, hs]
      simp_all [List.intercalate, List.intersperse]
    · rw [split_cons_of_ne h, hs]
      cases ss <;> simp_all [List.intercalate, List.intersperse]

/-- No piece holds the separator. -/
theorem not_mem_of_mem_split {sep : Char} {t s : Text} (h : s ∈ split sep t) : sep ∉ s := by
  induction t generalizing s with
  | nil => simp_all
  | cons c cs ih =>
    by_cases hc : c = sep
    · subst hc
      rw [split_cons_self] at h
      rcases List.mem_cons.1 h with rfl | h
      · simp
      · exact ih h
    · obtain ⟨u, us, hs⟩ := exists_split_eq_cons sep cs
      rw [split_cons_of_ne hc, hs, List.modifyHead_cons] at h
      rcases List.mem_cons.1 h with rfl | h
      · have := ih (s := u) (by simp [hs])
        simp [this, Ne.symm hc]
      · exact ih (by simp [hs, h])

end Split

/-! ## Cutting around a word -/

section Cut

/-- What stands before and after the first occurrence of `word`. -/
def cut? (word : Text) : Text → Option (Text × Text)
  | [] => if word = [] then some ([], []) else none
  | c :: cs =>
    if word.isPrefixOf (c :: cs) then some ([], (c :: cs).drop word.length)
    else (cut? word cs).map fun p => (c :: p.1, p.2)

/-- What stands before and after the last occurrence of `word`. -/
def cutLast? (word t : Text) : Option (Text × Text) :=
  (cut? word.reverse t.reverse).map fun p => (p.2.reverse, p.1.reverse)

/-- Whether `word` occurs in a text. -/
def occurs (word t : Text) : Bool := (cut? word t).isSome

/-- The text without the first occurrence of `word`, wherever it stands. -/
def eraseFirst (word t : Text) : Text :=
  match cut? word t with
  | some (before, after) => before ++ after
  | none => t

/-- A cut loses nothing: the text is what stands before, the word, and what stands after. -/
theorem append_of_cut? {word t before after : Text} (h : cut? word t = some (before, after)) :
    before ++ word ++ after = t := by
  induction t generalizing before with
  | nil =>
    by_cases hw : word = [] <;> simp_all [cut?]
  | cons c cs ih =>
    rw [cut?] at h
    split at h
    · next hp =>
      obtain ⟨s, hs⟩ := List.isPrefixOf_iff_prefix.1 hp
      simp only [Option.some.injEq, Prod.mk.injEq] at h
      obtain ⟨rfl, rfl⟩ := h
      simp [← hs]
    · obtain ⟨⟨u, v⟩, hu, hp⟩ := Option.map_eq_some_iff.1 h
      simp only [Prod.mk.injEq] at hp
      obtain ⟨rfl, rfl⟩ := hp
      simpa using congrArg (c :: ·) (ih hu)

theorem append_of_cutLast? {word t before after : Text}
    (h : cutLast? word t = some (before, after)) : before ++ word ++ after = t := by
  obtain ⟨⟨u, v⟩, hu, hp⟩ := Option.map_eq_some_iff.1 h
  simp only [Prod.mk.injEq] at hp
  obtain ⟨rfl, rfl⟩ := hp
  have := congrArg List.reverse (append_of_cut? hu)
  simpa using this

/-- A word occurs in a text exactly when it is an infix of it. -/
theorem occurs_iff {word t : Text} : occurs word t = true ↔ word <:+: t := by
  constructor
  · intro h
    obtain ⟨⟨u, v⟩, hu⟩ := Option.isSome_iff_exists.1 h
    exact ⟨u, v, append_of_cut? hu⟩
  · intro h
    induction t with
    | nil =>
      obtain rfl := List.eq_nil_of_infix_nil h
      simp [occurs, cut?]
    | cons c cs ih =>
      unfold occurs cut?
      split
      · rfl
      · next hp =>
        rcases List.infix_cons_iff.1 h with h | h
        · exact absurd (List.isPrefixOf_iff_prefix.2 h) hp
        · simpa [occurs] using ih h

/-- What follows the first occurrence of a word is shorter, unless the word is empty. -/
theorem length_lt_of_cut? {word t before after : Text} (hw : word ≠ [])
    (h : cut? word t = some (before, after)) : after.length < t.length := by
  have := congrArg List.length (append_of_cut? h)
  have := List.length_pos_iff.2 hw
  simp only [List.length_append] at *
  omega

/-- The pieces of a text between the occurrences of `word`, found from the left; the whole text
when the word is empty. -/
def pieces (word t : Text) : List Text :=
  if _hw : word = [] then [t]
  else
    match _h : cut? word t with
    | none => [t]
    | some (before, after) => before :: pieces word after
termination_by t.length
decreasing_by exact length_lt_of_cut? _hw _h

end Cut

/-! ## Bytes -/

section Bytes

/-- The UTF-8 form of a text. -/
def bytes (t : Text) : ByteArray := (String.ofList t).toByteArray

/-- The text whose UTF-8 form is given; none if the bytes are not well-formed UTF-8. -/
def ofBytes? (b : ByteArray) : Option Text := b.utf8Decode?.map Array.toList

/-- The bytes of a text read back. -/
@[simp] theorem ofBytes?_bytes (t : Text) : ofBytes? t.bytes = some t := by
  simp [ofBytes?, bytes]

/-- The number of bytes of the UTF-8 form of a text. -/
def byteSize (t : Text) : Nat := t.foldl (fun n c => n + c.utf8Size) 0

end Bytes

end Text

end TableThrift
