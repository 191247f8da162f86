import TableThrift.Proofs.Struct.Reading

/-!
# What calls make of a draft

After any calls a draft has the last name that they gave, unless it was empty, the last remark, and
all fields in their order. A field gets the number of its place when it is added and keeps it.
Asking for the struct changes nothing and can be done at any time; the answer depends on what the
calls so far have brought in.

## Main definitions

* `Draft.lastName?`, `Draft.lastRemark?`, `Draft.addedFields`: what a list of calls brings in
* `Draft.Reflects`: a draft has just that
* `Draft.report`: a draft as text

## Main results

* `Draft.Reflects.run`, `Draft.reflects_ofCalls`: one call, and all of them
* `Draft.numbered_prefix_of_run`, `Draft.numbered_prefix`: fields keep their numbers
* `Draft.report_eq_nameless_iff`, `Draft.report_eq_fieldless_iff`, `Draft.report_eq_ok_iff`: when a
  draft has a text, and which one
* `Draft.history_of_calls`: a draft between its calls
-/

namespace TableThrift.Draft

/-! ## What calls bring in -/

section Calls

/-- The name that a call gives. -/
def Call.name? : Call → Option Text
  | .name t => some t
  | _ => none

/-- The remark that a call gives. -/
def Call.remark? : Call → Option Text
  | .remark t => some t
  | _ => none

/-- The field that a call adds. -/
def Call.field? : Call → Option Field
  | .add field => some field
  | _ => none

/-- The last name that calls give; none if it is empty. -/
def lastName? (calls : List Call) : Option Text :=
  (calls.filterMap Call.name?).getLast?.filter (· ≠ [])

/-- The last remark that calls give. -/
def lastRemark? (calls : List Call) : Option Text := (calls.filterMap Call.remark?).getLast?

/-- The fields that calls add, in order. -/
def addedFields (calls : List Call) : List Field := calls.filterMap Call.field?

/-- A draft has what calls have brought in, and nothing else. -/
structure Reflects (d : Draft) (calls : List Call) : Prop where
  name : d.name = lastName? calls
  remark : d.remark = lastRemark? calls
  fields : d.fields = addedFields calls

variable {d : Draft} {calls : List Call}

theorem lastName?_concat (calls : List Call) (c : Call) :
    lastName? (calls ++ [c]) = match c.name? with
      | some t => if t = [] then none else some t
      | none => lastName? calls := by
  unfold lastName?
  cases hc : c.name? with
  | none => simp [hc]
  | some t => by_cases ht : t = [] <;> simp [hc, ht, Option.filter_some]

theorem lastRemark?_concat (calls : List Call) (c : Call) :
    lastRemark? (calls ++ [c]) = c.remark?.or (lastRemark? calls) := by
  unfold lastRemark?
  cases hc : c.remark? <;> simp [hc]

theorem addedFields_concat (calls : List Call) (c : Call) :
    addedFields (calls ++ [c]) = addedFields calls ++ c.field?.toList := by
  unfold addedFields
  cases hc : c.field? <;> simp [hc]

/-- One more call leaves a draft that reflects it, too. -/
theorem Reflects.run (h : d.Reflects calls) (c : Call) : (c.run d).Reflects (calls ++ [c]) := by
  refine ⟨?_, ?_, ?_⟩
  · rw [lastName?_concat, ← h.name]
    cases c <;> rfl
  · rw [lastRemark?_concat, ← h.remark]
    cases c <;> rfl
  · rw [addedFields_concat, ← h.fields]
    cases c with
    | add field => rfl
    | _ => exact (List.append_nil d.fields).symm

theorem ofCalls_append (past future : List Call) :
    ofCalls (past ++ future) = future.foldl Call.run (ofCalls past) := List.foldl_append

/-- **A draft reflects the calls that made it.** -/
theorem reflects_ofCalls (calls : List Call) : (ofCalls calls).Reflects calls := by
  induction calls using List.reverseRecOn with
  | nil => exact ⟨rfl, rfl, rfl⟩
  | append_singleton calls c ih =>
    rw [ofCalls_append]
    exact ih.run c

end Calls

/-! ## Numbers -/

section Numbers

/-- A call leaves the fields there are under their numbers. -/
theorem numbered_prefix_of_run (d : Draft) (c : Call) : d.numbered <+: (c.run d).numbered := by
  cases c with
  | name t => exact List.prefix_rfl
  | remark t => exact List.prefix_rfl
  | add field =>
    rw [Call.run, numbered_add]
    exact List.prefix_append _ _
  | finish => exact List.prefix_rfl

/-- **Later calls leave the fields there are under their numbers.** -/
theorem numbered_prefix (past future : List Call) :
    (ofCalls past).numbered <+: (ofCalls (past ++ future)).numbered := by
  induction future using List.reverseRecOn with
  | nil => rw [List.append_nil]
  | append_singleton future c ih =>
    rw [← List.append_assoc, ofCalls_append]
    exact ih.trans (numbered_prefix_of_run _ c)

end Numbers

/-! ## Text -/

section Report

variable {d : Draft}

/-- A draft as text: the text of the struct, or the wording of what the draft lacks. -/
def report (d : Draft) : Except Text Text := d.text.mapError Gap.message

theorem report_eq_error_iff {message : Text} :
    d.report = .error message ↔ ∃ gap, d.finish = .error gap ∧ gap.message = message := by
  unfold report text
  cases d.finish <;> simp [Except.map, Except.mapError]

/-- A draft asks for a name exactly when it has none, whatever its fields. -/
theorem report_eq_nameless_iff :
    d.report = .error "no table name could be derived".toList ↔ d.name = none := by
  rw [report_eq_error_iff]
  constructor
  · rintro ⟨gap, hgap, hm⟩
    obtain rfl : gap = .nameless := Gap.message_injective hm
    unfold finish at hgap
    split at hgap
    · assumption
    · split_ifs at hgap
      cases hgap
  · intro hn
    exact ⟨.nameless, by rw [finish, hn], rfl⟩

/-- A draft with a name asks for fields exactly when it has none. -/
theorem report_eq_fieldless_iff {name : Text} :
    d.report = .error ("struct \x60".toList ++ name ++ "\x60 has no fields".toList) ↔
      d.name = some name ∧ d.fields = [] := by
  rw [report_eq_error_iff]
  constructor
  · rintro ⟨gap, hgap, hm⟩
    obtain rfl : gap = .fieldless name := Gap.message_injective hm
    unfold finish at hgap
    split at hgap
    · cases hgap
    · next name' hn =>
      split_ifs at hgap with hf
      · cases hgap
        exact ⟨hn, hf⟩
  · rintro ⟨hn, hf⟩
    exact ⟨.fieldless name, by simp [finish, hn, hf], rfl⟩

/-- Otherwise a draft has the text of its parts, in which its fields stand under their numbers. -/
theorem report_eq_ok_iff {text : Text} :
    d.report = .ok text ↔ ∃ name, d.name = some name ∧ d.fields ≠ [] ∧
      text = List.intercalate lineBreak
        (["//".toList ++ d.remark.getD [], "struct ".toList ++ name ++ ['{']] ++
          d.numbered.map (fun p => p.1.line p.2.toNat) ++ [['}']]) := by
  have hreport : d.report = .ok text ↔ ∃ s, d.finish = .ok s ∧ s.render = text := by
    unfold report Draft.text
    cases d.finish <;> simp [Except.map, Except.mapError]
  rw [hreport]
  constructor
  · rintro ⟨s, hs, rfl⟩
    obtain ⟨hn, hf, hr, hfields⟩ := finish_eq_ok_iff.1 hs
    refine ⟨s.name, hn, hf, ?_⟩
    rw [← hr, numbered, ← hfields]
    rfl
  · rintro ⟨name, hn, hf, rfl⟩
    exact ⟨⟨name, d.remark.getD [], d.fields⟩, finish_eq_ok_iff.2 ⟨hn, hf, rfl, rfl⟩, rfl⟩

end Report

/-! ## A draft between its calls -/

section History

variable {calls : List Call}

/-- **A draft between its calls.** If all calls together add fewer fields than 32 bits can number,
then after each of them the draft has the last name, unless it is empty, and all fields so far under
the numbers from one on, which no later call changes. The next field gets the next number. Asking
for the struct changes nothing; without a name it is refused, then without fields, and otherwise it
gives the lines of the last remark, the name and the fields. -/
theorem history_of_calls (hfew : (addedFields calls).length < UInt32.size) :
    ∀ past future, calls = past ++ future →
      (ofCalls past).name = lastName? past ∧
      (ofCalls past).numbered.map (fun p => (p.1, p.2.toNat)) = (addedFields past).zipIdx 1 ∧
      (∀ field rest, future = .add field :: rest →
        (ofCalls (past ++ [.add field])).numbered =
          (ofCalls past).numbered ++ [(field, (ofCalls past).nextNumber)] ∧
        (ofCalls past).nextNumber.toNat = (addedFields past).length + 1) ∧
      (ofCalls past).numbered <+: (ofCalls calls).numbered ∧
      ofCalls (past ++ [.finish]) = ofCalls past ∧
      ((ofCalls past).report = .error "no table name could be derived".toList ↔
        lastName? past = none) ∧
      (∀ name, (ofCalls past).report =
          .error ("struct \x60".toList ++ name ++ "\x60 has no fields".toList) ↔
        lastName? past = some name ∧ addedFields past = []) ∧
      ∀ text, (ofCalls past).report = .ok text ↔
        ∃ name, lastName? past = some name ∧ addedFields past ≠ [] ∧
          text = List.intercalate lineBreak
            (["//".toList ++ (lastRemark? past).getD [], "struct ".toList ++ name ++ ['{']] ++
              (ofCalls past).numbered.map (fun p => p.1.line p.2.toNat) ++ [['}']]) := by
  rintro past future rfl
  obtain ⟨hn, hr, hf⟩ := reflects_ofCalls past
  have hadded : addedFields (past ++ future) = addedFields past ++ addedFields future :=
    List.filterMap_append
  have hpast : (ofCalls past).fields.length < UInt32.size := by
    rw [hadded, List.length_append] at hfew
    rw [hf]
    omega
  rw [← hn, ← hr, ← hf]
  refine ⟨rfl, Field.map_numbered hpast, ?_, numbered_prefix past future, ?_,
    report_eq_nameless_iff, fun _ => report_eq_fieldless_iff, fun _ => report_eq_ok_iff⟩
  · rintro field rest rfl
    rw [ofCalls_append]
    refine ⟨numbered_add _ field, Field.toNat_numberAfter ?_⟩
    -- The field to come is one of the fields that are counted.
    have hnext : addedFields (.add field :: rest) = field :: addedFields rest := rfl
    rw [hadded, hnext, ← hf, List.length_append, List.length_cons] at hfew
    omega
  · rw [ofCalls_append]
    rfl

/-- A name that comes before any field, goes again and is replaced, two remarks, and a field that
keeps its number all the while. -/
theorem history_of_calls_renamed :
    let a : Field := ⟨.required, .i64, "a".toList, []⟩
    let b : Field := ⟨.optional, .i32, "b".toList, "c".toList⟩
    let calls : List Call := [.name "T".toList, .finish, .add a, .remark "x".toList, .finish,
      .remark "y".toList, .name [], .finish, .name "U".toList, .add b]
    (addedFields calls).length < UInt32.size ∧
    (ofCalls (calls.take 1)).report = .error "struct \x60T\x60 has no fields".toList ∧
    (ofCalls (calls.take 7)).report = .error "no table name could be derived".toList ∧
    (ofCalls (calls.take 7)).numbered <+: (ofCalls calls).numbered ∧
    (ofCalls calls).report = .ok ("//y\r\nstruct U\x7b\r\n".toList ++
      "    1:required i64 a //\r\n    2:optional i32 b //c\r\n\x7d".toList) := by
  intro a b calls
  have hfew : (addedFields calls).length < UInt32.size := by decide
  have h := history_of_calls hfew
  obtain ⟨-, -, -, -, -, -, hfieldless, -⟩ := h (calls.take 1) (calls.drop 1) rfl
  obtain ⟨-, -, -, hprefix, -, hnameless, -⟩ := h (calls.take 7) (calls.drop 7) rfl
  obtain ⟨-, -, -, -, -, -, -, htext⟩ := h calls [] rfl
  exact ⟨hfew, (hfieldless "T".toList).2 (by decide), hnameless.2 (by decide), hprefix,
    (htext _).2 ⟨"U".toList, by decide, by decide, by decide +kernel⟩⟩

end History

end TableThrift.Draft
