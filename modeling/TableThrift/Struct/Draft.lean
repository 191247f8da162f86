import TableThrift.Struct.Printer

/-!
# Drafts of a struct

A draft collects the parts of a struct in any order. It becomes a struct once it has a name and
at least one field; a missing remark is empty.

## Main definitions

* `Draft`, `Draft.named`, `Draft.remarked`, `Draft.add`: a draft and the ways to extend it
* `Draft.Gap`, `Draft.finish`: what may be missing, and the struct if nothing is
* `Draft.text`: the text of a complete draft
* `Draft.nextNumber`, `Draft.numbered`: the numbers that a draft gives to its fields
* `Draft.Call`, `Draft.ofCalls`: a draft as what calls have made of it

## Main results

* `Draft.Gap.message_injective`: the wording of a gap tells which one it is
* `Draft.finish_eq_ok_iff`: a draft is complete exactly when it has a name and a field
* `Draft.numbered_add`: a new field comes last, under the next number
-/

namespace TableThrift

/-- The parts of a struct collected so far. -/
structure Draft where
  name : Option Text := none
  remark : Option Text := none
  fields : List Field := []
deriving DecidableEq, Repr

namespace Draft

/-- The draft under a new name; an empty name leaves it without one. -/
def named (d : Draft) (name : Text) : Draft :=
  { d with name := if name = [] then none else some name }

/-- The draft with a new remark. -/
def remarked (d : Draft) (remark : Text) : Draft := { d with remark := some remark }

/-- The draft with one more field, after those it has. -/
def add (d : Draft) (field : Field) : Draft := { d with fields := d.fields ++ [field] }

/-- What a draft lacks. -/
inductive Gap where
  /-- It has no name. -/
  | nameless
  /-- It has a name but no fields. -/
  | fieldless (name : Text)
deriving DecidableEq, Repr

/-- The wording of a gap. -/
def Gap.message : Gap → Text
  | nameless => "no table name could be derived".toList
  | fieldless name => "struct \x60".toList ++ name ++ "\x60 has no fields".toList

/-- The wording tells the gap. -/
theorem Gap.message_injective {gap gap' : Gap} (h : gap.message = gap'.message) : gap = gap' := by
  -- The two kinds of gaps are worded with different first letters.
  have hn : nameless.message.head? = some 'n' := rfl
  have hf (name : Text) : (fieldless name).message.head? = some 's' := rfl
  cases gap with
  | nameless =>
    cases gap' with
    | nameless => rfl
    | fieldless name =>
      rw [h, hf] at hn
      cases hn
  | fieldless name =>
    cases gap' with
    | nameless =>
      rw [← h, hf] at hn
      cases hn
    | fieldless name' =>
      unfold message at h
      rw [List.append_cancel_left (List.append_cancel_right h)]

/-- The struct of a complete draft. A missing name is reported before missing fields. -/
def finish (d : Draft) : Except Gap Struct :=
  match d.name with
  | none => .error .nameless
  | some name =>
    if d.fields = [] then .error (.fieldless name)
    else .ok ⟨name, d.remark.getD [], d.fields⟩

/-- A draft is complete exactly when it has a name and a field. -/
theorem finish_eq_ok_iff {d : Draft} {s : Struct} :
    d.finish = .ok s ↔
      d.name = some s.name ∧ d.fields ≠ [] ∧ s.remark = d.remark.getD [] ∧ s.fields = d.fields := by
  unfold finish
  cases hn : d.name with
  | none => simp
  | some name =>
    by_cases hf : d.fields = []
    · simp [hf]
    · cases s
      simp only [hf, if_false, Except.ok.injEq, Struct.mk.injEq, Option.some.injEq, ne_eq,
        not_false_eq_true, true_and]
      constructor
      · rintro ⟨rfl, rfl, rfl⟩
        exact ⟨rfl, rfl, rfl⟩
      · rintro ⟨rfl, rfl, rfl⟩
        exact ⟨rfl, rfl, rfl⟩

/-- The text of a complete draft. -/
def text (d : Draft) : Except Gap Text := d.finish.map Struct.render

/-! ## Numbers -/

section Numbers

/-- The number of the field that is added next. -/
def nextNumber (d : Draft) : UInt32 := Field.numberAfter d.fields.length

/-- The fields of a draft, each under the number that it got when it was added. -/
def numbered (d : Draft) : List (Field × UInt32) := Field.numbered d.fields

/-- A new field comes last, under the next number, and the others keep theirs. -/
theorem numbered_add (d : Draft) (field : Field) :
    (d.add field).numbered = d.numbered ++ [(field, d.nextNumber)] :=
  Field.numbered_concat d.fields field

end Numbers

/-! ## Calls -/

section Calls

/-- A call on a draft. -/
inductive Call where
  /-- Name the struct. -/
  | name (name : Text)
  /-- Put a remark above it. -/
  | remark (remark : Text)
  /-- Add a field. -/
  | add (field : Field)
  /-- Ask for the struct, which changes nothing. -/
  | finish
deriving DecidableEq, Repr

/-- The draft after a call. -/
def Call.run (d : Draft) : Call → Draft
  | .name t => d.named t
  | .remark t => d.remarked t
  | .add field => d.add field
  | .finish => d

/-- The draft after a list of calls, from an empty one on. -/
def ofCalls (calls : List Call) : Draft := calls.foldl Call.run {}

end Calls

end Draft

end TableThrift
