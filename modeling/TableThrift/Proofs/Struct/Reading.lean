import TableThrift.Proofs.Struct.Layout
import TableThrift.Struct.Draft
import TableThrift.Struct.Reading

/-!
# The text of a struct reads back

Nothing is escaped in the text of a struct. Its parts are told apart all the same: a newline stands
only in a line break, a colon ends the number before it can come in a name, the words of a field
hold no space, and a name ends where a remark begins unless the name itself holds a beginning of a
remark.

## Main definitions

* `Field.Legible`, `Struct.Legible`, `Draft.Legible`: parts that can be told apart
* `Draft.Call.Legible`: a call that brings in no other parts
* `Draft.Readable`: calls that make a complete draft of such parts

## Main results

* `Reading.fieldOfLine?_line`: the line of a field reads back
* `Struct.Legible.ofText?_render`: the text of a struct reads back
* `Draft.Call.Legible.run`, `Draft.legible_ofCalls`: what calls keep
* `Draft.reading_of_calls`: the text of a draft reads back
-/

namespace TableThrift

/-! ## Parts that can be told apart -/

/-- A field that holds no newline and no beginning of a remark in its name. -/
structure Field.Legible (f : Field) : Prop where
  name_newline : '\n' ∉ f.name
  name_remark : ¬ " //".toList <:+: f.name
  remark_newline : '\n' ∉ f.remark

/-- A struct of such fields, with no newline in its name and its remark. -/
structure Struct.Legible (s : Struct) : Prop where
  name : '\n' ∉ s.name
  remark : '\n' ∉ s.remark
  fields : ∀ f ∈ s.fields, f.Legible

theorem Struct.Legible.singleLine {s : Struct} (h : s.Legible) : s.SingleLine :=
  ⟨h.name, h.remark, fun f hf => ⟨(h.fields f hf).name_newline, (h.fields f hf).remark_newline⟩⟩

/-! ## Lines -/

namespace Reading

section Line

variable {f : Field}

theorem remarkOfLine?_append (remark : Text) :
    remarkOfLine? ("//".toList ++ remark) = some remark := Text.after?_append _ _

theorem nameOfLine?_append (name : Text) :
    nameOfLine? ("struct ".toList ++ name ++ ['{']) = some name := by
  rw [nameOfLine?, List.append_assoc, Text.after?_append]
  simp

theorem space_not_mem_presence (p : Presence) : ' ' ∉ p.word := by cases p <;> decide

theorem space_not_mem_type (t : BaseType) : ' ' ∉ t.word := by cases t <;> decide

/-- The line of a field by the marks that end its parts. -/
theorem line_eq_marks (f : Field) (n : Nat) :
    f.line n = "    ".toList ++ (Nat.toDigits 10 n ++ ':' :: (f.presence.word ++ ' ' ::
      (f.type.word ++ ' ' :: (f.name ++ (" //".toList ++ f.remark))))) := by
  unfold Field.line
  simp only [List.append_assoc]
  rfl

/-- **The line of a field reads back** with its number. -/
theorem fieldOfLine?_line (h : f.Legible) (n : Nat) : fieldOfLine? (f.line n) = some (f, n) := by
  have hname : Text.cut? " //".toList (f.name ++ (" //".toList ++ f.remark)) =
      some (f.name, f.remark) :=
    Text.cut?_append_of_not_infix (by decide) h.name_remark f.remark
  have hnumber : ':' ∉ Nat.toDigits 10 n := Field.not_mem_toDigits (by decide) n
  -- Each mark is the first of its kind behind the one before it.
  rw [line_eq_marks, fieldOfLine?, Text.after?_append]
  simp only [Option.bind_eq_bind, Option.bind_some,
    Text.cut?_append_cons hnumber,
    Text.cut?_append_cons (space_not_mem_presence f.presence),
    Text.cut?_append_cons (space_not_mem_type f.type), hname, readNumber?_toDigits,
    Presence.ofWord?_word, BaseType.ofWord?_word]

/-- The lines of fields read back in order. -/
theorem mapM_fieldOfLine?_line {ps : List (Field × UInt32)} (h : ∀ p ∈ ps, p.1.Legible) :
    (ps.map fun p => p.1.line p.2.toNat).mapM fieldOfLine? =
      some (ps.map fun p => (p.1, p.2.toNat)) := by
  induction ps with
  | nil => rfl
  | cons p ps ih =>
    have hp := fieldOfLine?_line (h p List.mem_cons_self) p.2.toNat
    have hps := ih fun q hq => h q (List.mem_cons_of_mem p hq)
    rw [List.map_cons, List.mapM_cons, hp, hps]
    rfl

end Line

end Reading

/-! ## Structs -/

section Struct

variable {s : Struct}

/-- **The text of a struct reads back** with the numbers of its fields. -/
theorem Struct.Legible.ofText?_render (h : s.Legible) :
    Reading.ofText? s.render = some s.reading := by
  have hfields : ∀ p ∈ Field.numbered s.fields, p.1.Legible := fun p hp =>
    h.fields p.1 (Field.fst_mem_of_mem_numbered hp)
  rw [Reading.ofText?, h.singleLine.pieces_render, Struct.layout, Field.lines]
  simp only [List.cons_append, List.nil_append, Reading.ofLines?, Reading.remarkOfLine?_append,
    Reading.nameOfLine?_append, List.getLast?_concat, List.dropLast_concat,
    Reading.mapM_fieldOfLine?_line hfields, Option.bind_eq_bind, Option.bind_some, if_true]
  rfl

end Struct

/-! ## Drafts -/

namespace Draft

section Legible

variable {d : Draft} {c : Call} {calls : List Call}

/-- A draft whose parts can be told apart in its text. -/
structure Legible (d : Draft) : Prop where
  name : ∀ name ∈ d.name, '\n' ∉ name
  remark : ∀ remark ∈ d.remark, '\n' ∉ remark
  fields : ∀ f ∈ d.fields, f.Legible

/-- A call that brings in only such parts. -/
def Call.Legible : Call → Prop
  | .name t => '\n' ∉ t
  | .remark t => '\n' ∉ t
  | .add f => f.Legible
  | .finish => True

theorem legible_empty : Legible {} where
  name := nofun
  remark := nofun
  fields := nofun

/-- A call keeps a draft legible. -/
theorem Call.Legible.run (hc : c.Legible) (h : d.Legible) : (c.run d).Legible := by
  cases c with
  | name t =>
    refine ⟨?_, h.remark, h.fields⟩
    intro name hn
    -- An empty name clears the one before it.
    by_cases ht : t = []
    · rw [Call.run, named, if_pos ht] at hn
      cases hn
    · rw [Call.run, named, if_neg ht] at hn
      rwa [← Option.mem_some_iff.1 hn]
  | remark t =>
    refine ⟨h.name, ?_, h.fields⟩
    intro remark hr
    rwa [← Option.mem_some_iff.1 hr]
  | add f =>
    refine ⟨h.name, h.remark, ?_⟩
    intro g hg
    rcases List.mem_append.1 hg with hg | hg
    · exact h.fields g hg
    · rwa [List.mem_singleton.1 hg]
  | finish => exact h

/-- Calls that bring in only legible parts make a legible draft. -/
theorem legible_ofCalls (h : ∀ c ∈ calls, c.Legible) : (ofCalls calls).Legible := by
  -- The draft that the calls start from is left general.
  have hrun : ∀ d : Draft, d.Legible → (calls.foldl Call.run d).Legible := by
    induction calls with
    | nil => exact fun d hd => hd
    | cons c calls ih =>
      intro d hd
      exact ih (fun c' hc' => h c' (List.mem_cons_of_mem c hc')) _
        ((h c List.mem_cons_self).run hd)
  exact hrun {} legible_empty

/-- The struct of a legible draft is legible. -/
theorem Legible.of_finish {s : Struct} (h : d.Legible) (hs : d.finish = .ok s) : s.Legible := by
  obtain ⟨hn, -, hr, hf⟩ := finish_eq_ok_iff.1 hs
  refine ⟨h.name s.name hn, ?_, hf ▸ h.fields⟩
  rw [hr]
  cases hd : d.remark with
  | none => exact List.not_mem_nil
  | some remark => exact h.remark remark hd

end Legible

/-! ## Numbers -/

section Numbers

variable {d d' : Draft}

/-- The numbers of a draft are those that are read, so that the latter tell the former. -/
theorem numbered_injective (h : d.numbered.map (fun p => (p.1, p.2.toNat)) =
    d'.numbered.map (fun p => (p.1, p.2.toNat))) : d.numbered = d'.numbered := by
  refine List.map_injective_iff.2 ?_ h
  intro p q he
  obtain ⟨hfield, hnumber⟩ := Prod.mk.inj he
  exact Prod.ext hfield (UInt32.toNat_inj.1 hnumber)

end Numbers

/-! ## Calls -/

section Calls

variable {calls : List Call}

/-- Calls that make a complete draft of legible parts, with fewer fields than 32 bits can number. -/
structure Readable (calls : List Call) : Prop where
  legible : ∀ c ∈ calls, c.Legible
  named : (ofCalls calls).name ≠ none
  fielded : (ofCalls calls).fields ≠ []
  few : (ofCalls calls).fields.length < UInt32.size

/-- The text of such a draft and what is read from it. -/
theorem Readable.exists_text (h : Readable calls) :
    ∃ name text, (ofCalls calls).name = some name ∧ (ofCalls calls).text = .ok text ∧
      Reading.ofText? text = some ⟨name, (ofCalls calls).remark.getD [],
        (ofCalls calls).numbered.map fun p => (p.1, p.2.toNat)⟩ := by
  obtain ⟨name, hn⟩ := Option.ne_none_iff_exists'.1 h.named
  have hs : (ofCalls calls).finish =
      .ok ⟨name, (ofCalls calls).remark.getD [], (ofCalls calls).fields⟩ :=
    finish_eq_ok_iff.2 ⟨hn, h.fielded, rfl, rfl⟩
  have hl := (legible_ofCalls h.legible).of_finish hs
  refine ⟨name, _, hn, by rw [text, hs]; rfl, ?_⟩
  exact hl.ofText?_render

/-- **The text of a draft reads back.** It gives the name, the remark, and the fields with their
numbers. So drafts with the same text agree in all of these, whatever calls have made them. -/
theorem reading_of_calls (h : Readable calls) :
    ∃ name text, (ofCalls calls).name = some name ∧ (ofCalls calls).text = .ok text ∧
      Reading.ofText? text = some ⟨name, (ofCalls calls).remark.getD [],
        (ofCalls calls).numbered.map fun p => (p.1, p.2.toNat)⟩ ∧
      ∀ calls', Readable calls' → (ofCalls calls').text = .ok text →
        (ofCalls calls').name = some name ∧
        (ofCalls calls').remark.getD [] = (ofCalls calls).remark.getD [] ∧
        (ofCalls calls').numbered = (ofCalls calls).numbered := by
  obtain ⟨name, text, hn, ht, hr⟩ := h.exists_text
  refine ⟨name, text, hn, ht, hr, ?_⟩
  intro calls' h' he
  obtain ⟨name', text', hn', ht', hr'⟩ := h'.exists_text
  obtain rfl := Except.ok.inj (ht'.symm.trans he)
  obtain ⟨rfl, hremark, hfields⟩ := Reading.mk.inj (Option.some.inj (hr'.symm.trans hr))
  exact ⟨hn', hremark, numbered_injective hfields⟩

/-- Calls whose texts hold the marks of a struct: slashes, spaces, colons, braces and carriage
returns. The first name and the first remark do not stay. -/
theorem reading_of_calls_marks :
    let id : Field := ⟨.required, .i64, " a /".toList, "b //c\r".toList⟩
    let note : Field := ⟨.optional, .string, "//1: x".toList, []⟩
    let calls : List Call := [.name [], .add id, .remark "x".toList, .name "T\x7b\r".toList,
      .finish, .add note, .remark "\r".toList]
    Readable calls ∧ ∃ text, (ofCalls calls).text = .ok text ∧
      Reading.ofText? text = some ⟨"T\x7b\r".toList, "\r".toList, [(id, 1), (note, 2)]⟩ := by
  intro id note calls
  have h : Readable calls := by
    refine ⟨?_, by decide, by decide, by decide⟩
    have hid : id.Legible := ⟨by decide, by decide, by decide⟩
    have hnote : note.Legible := ⟨by decide, by decide, by decide⟩
    simp [calls, Call.Legible, hid, hnote]
  obtain ⟨name, text, hn, ht, hr, -⟩ := reading_of_calls h
  obtain rfl : "T\x7b\r".toList = name := Option.some.inj hn
  exact ⟨h, text, ht, hr⟩

end Calls

end Draft

end TableThrift
