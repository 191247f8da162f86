import TableThrift.Proofs.Options.Members
import TableThrift.Proofs.Readers.Json.Values
import TableThrift.Readers.Standard

/-!
# The reader of JSON keeps its laws

The reader of an object goes from member to member with the options that it has seen. What a member
does to them depends on its key and its value alone and not on how they are written, so the whole
reading is a fold over the members, and the options are those of the members.

## Main definitions

* `Options.Member.store`, `Options.Member.add`: what a member does to the options seen so far

## Main results

* `Options.member_append`, `Options.members_append`: one member, and all of them to the closing
  bracket
* `Options.toOption_foldlM_add`: what the members come to
* `Options.jsonLaws_standardReaders`: the reader of JSON keeps its laws
-/

namespace TableThrift.Options

open TableThrift.Json (Problem Blank Quoted Listed Bracketed Document WellFormed Follows StartsItem
  next)

/-! ## Values -/

section Values

variable {b t rest : Text}

theorem startsItem_quoted {s : Text} (ht : Quoted s t) : StartsItem t := by
  obtain ⟨u, rfl, -⟩ := ht.string_append
  exact ⟨'"', u, rfl, rfl, by decide, by decide⟩

theorem text_append {s : Text} (hb : Blank b) (ht : Quoted s t) :
    Json.text (b ++ (t ++ rest)) = .ok (s, rest) := by
  obtain ⟨u, rfl, hread⟩ := ht.string_append
  rw [List.cons_append, Json.text, Json.skipBlanks_append_cons hb rfl]
  simp [hread]

theorem items_closed {isFirst : Bool} (h : next ']' isFirst t = .ok (.closed rest)) :
    Json.items isFirst t = .ok ([], rest) := by
  rw [Json.items]
  split <;> simp_all

theorem items_item {isFirst : Bool} {start value : Text}
    (h : next ']' isFirst t = .ok (.item start)) (hv : Json.text start = .ok (value, rest)) :
    Json.items isFirst t = (Json.items false rest).map fun p => (value :: p.1, p.2) := by
  rw [Json.items]
  split
  · simp_all
  · simp_all
  · split <;> simp_all

/-- The strings of a sequence are read up to its closing bracket. -/
theorem items_append {isFirst : Bool} {g : List Text} (ht : Listed Quoted isFirst g t) :
    Json.items isFirst (t ++ ']' :: rest) = .ok (g, rest) := by
  induction ht with
  | nil hb => exact items_closed (Json.next_closing .sequence hb)
  | @cons isFirst s g a t u hs ht hu ih =>
    have hread : Json.text (t ++ (u ++ ']' :: rest)) = .ok (s, u ++ ']' :: rest) :=
      text_append (b := []) nofun ht
    rw [List.append_assoc, List.append_assoc, items_item
      (Json.next_separator .sequence hs (startsItem_quoted ht).append) hread, ih]
    rfl

theorem texts_append {g : List Text} (hb : Blank b) (ht : Bracketed .sequence Quoted g t) :
    Json.texts (b ++ (t ++ rest)) = .ok (g, rest) := by
  cases ht with
  | mk ht =>
    rw [List.append_assoc, List.cons_append, Json.texts, Json.skipBlanks_append_cons hb rfl]
    exact items_append ht

end Values

/-! ## Members -/

namespace Member

/-- The options seen after the value of the member. -/
def store (seen : Partial) : Member → Partial
  | tablePrefix value => { seen with tablePrefix := some value }
  | ignored values => { seen with ignored := some values }
  | other _ _ => seen

/-- The options seen after the member, whose key must be new. -/
def add (seen : Partial) (m : Member) : Except Problem Partial :=
  if m.key?.any seen.has then .error (.repeated m.word) else .ok (m.store seen)

theorem ofWord?_word (m : Member) : Key.ofWord? m.word = m.key? := by
  cases m with
  | tablePrefix _ => rfl
  | ignored _ => rfl
  | other word unknown =>
    simp [Key.ofWord?, Member.word, (unknown .tablePrefix).symm, (unknown .ignored).symm, key?]

end Member

section Members

variable {m : Member} {ms : List Member} {seen : Partial} {b t rest : Text} {isFirst : Bool}

theorem startsItem_value (ht : m.Value t) : StartsItem t := by
  cases m with
  | tablePrefix _ => exact startsItem_quoted ht
  | ignored _ =>
    cases ht with
    | mk => exact ⟨'[', _, rfl, rfl, by decide, by decide⟩
  | other _ _ => exact WellFormed.startsItem ht

/-- **The value of a member is stored under its key**, in any of its spellings. -/
theorem value_append (hb : Blank b) (ht : m.Value t) (hr : Follows rest) :
    Json.value seen m.key? (b ++ (t ++ rest)) = .ok (m.store seen, rest) := by
  cases m with
  | tablePrefix _ => simp [Member.key?, Json.value, text_append hb ht, Except.map, Member.store]
  | ignored _ => simp [Member.key?, Json.value, texts_append hb ht, Except.map, Member.store]
  | other _ _ =>
    simp [Member.key?, Json.value, Json.skipValue_append hb ht hr, Except.map, Member.store]

theorem startsItem_written (ht : m.Written t) : StartsItem t := by
  cases ht with
  | mk hk => exact (startsItem_quoted hk).append

/-- **A member does what its key and its value say**, in any of its spellings. -/
theorem member_append (ht : m.Written t) (hr : Follows rest) :
    Json.member seen (t ++ rest) = (m.add seen).map fun seen => (seen, rest) := by
  cases ht with
  | @mk k b c v hk hb hc hv =>
    obtain ⟨u, rfl, hread⟩ := hk.string_append
    simp only [List.cons_append, List.append_assoc]
    rw [Json.member]
    simp only [hread, m.ofWord?_word, Member.add]
    split
    · rfl
    · simp only [Json.expectColon_append hb, value_append hc hv hr]
      rfl

theorem members_closed (h : next '}' isFirst t = .ok (.closed rest)) :
    Json.members isFirst seen t = .ok (seen, rest) := by
  rw [Json.members]
  split <;> simp_all

theorem members_item {start : Text} (h : next '}' isFirst t = .ok (.item start)) :
    Json.members isFirst seen t =
      (Json.member seen start).bind fun p => Json.members false p.1 p.2 := by
  rw [Json.members]
  split
  · simp_all
  · simp_all
  · split <;> simp_all [Except.bind]

/-- **The members of an object are added one after the other**, up to the closing bracket or to the
first key that is not new. -/
theorem members_append (ht : Listed Member.Written isFirst ms t) :
    Json.members isFirst seen (t ++ '}' :: rest) =
      (ms.foldlM Member.add seen).map fun seen => (seen, rest) := by
  induction ht generalizing seen with
  | nil hb => exact members_closed (Json.next_closing .object hb)
  | @cons isFirst m ms a t u hs ht hu ih =>
    have hread : Json.member seen (t ++ (u ++ '}' :: rest)) =
        (m.add seen).map fun seen => (seen, u ++ '}' :: rest) :=
      member_append ht (hu.follows .object)
    rw [List.append_assoc, List.append_assoc,
      members_item (Json.next_separator .object hs (startsItem_written ht).append), hread,
      List.foldlM_cons]
    cases m.add seen with
    | error problem => rfl
    | ok seen => exact ih

end Members

/-! ## What the members come to -/

section Fold

variable {m : Member} {ms : List Member} {seen : Partial} {key : Key}

theorem has_store : (m.store seen).has key = (seen.has key || decide (m.key? = some key)) := by
  cases m <;> cases key <;> simp [Member.store, Member.key?, Partial.has]

/-- Members with new and different keys are all added. -/
theorem foldlM_add_ok (hn : (keys ms).Nodup) (hnew : ∀ key ∈ keys ms, seen.has key = false) :
    ms.foldlM Member.add seen =
      .ok ⟨(ms.findSome? Member.tablePrefix?).or seen.tablePrefix,
        (ms.findSome? Member.ignored?).or seen.ignored⟩ := by
  induction ms generalizing seen with
  | nil => rfl
  | cons m ms ih =>
    rw [keys_cons] at hn hnew
    -- The key of the first member is new, and no other member has it.
    obtain ⟨hm, hms, hne⟩ := List.nodup_append.1 hn
    have hadd : m.add seen = .ok (m.store seen) := by
      rw [Member.add, if_neg]
      cases hk : m.key? with
      | none => simp
      | some key => simp [hnew key (by simp [hk])]
    have hnew' : ∀ key ∈ keys ms, (m.store seen).has key = false := by
      intro key hkey
      have hother : m.key? ≠ some key := fun hk => hne key (by simp [hk]) key hkey rfl
      simp [has_store, hnew key (List.mem_append_right _ hkey), hother]
    rw [List.foldlM_cons, hadd]
    refine (ih hms hnew').trans ?_
    -- The value of the first member is the one that is found, since none comes after it.
    cases m with
    | tablePrefix value =>
      have hrest := findSome?_tablePrefix? fun hk =>
        hne .tablePrefix (by simp [Member.key?]) _ hk rfl
      simp [List.findSome?_cons, hrest, Member.store, Member.tablePrefix?, Member.ignored?]
    | ignored values =>
      have hrest := findSome?_ignored? fun hk => hne .ignored (by simp [Member.key?]) _ hk rfl
      simp [List.findSome?_cons, hrest, Member.store, Member.tablePrefix?, Member.ignored?]
    | other word unknown =>
      simp [List.findSome?_cons, Member.store, Member.tablePrefix?, Member.ignored?]

/-- A key that is not new, or that comes twice, is a problem. -/
theorem foldlM_add_error
    (h : ¬((keys ms).Nodup ∧ ∀ key ∈ keys ms, seen.has key = false)) :
    ∃ problem, ms.foldlM Member.add seen = .error problem := by
  induction ms generalizing seen with
  | nil => simp [keys] at h
  | cons m ms ih =>
    rw [keys_cons] at h
    by_cases hseen : m.key?.any seen.has = true
    · -- The first member has a key that is seen already.
      exact ⟨.repeated m.word, by rw [List.foldlM_cons, Member.add, if_pos hseen]; rfl⟩
    · -- It is added, and a problem is left for the others: a key that was seen before, or that is
      -- seen now because it is the first member's.
      have hrest : ¬((keys ms).Nodup ∧ ∀ key ∈ keys ms, (m.store seen).has key = false) := by
        rintro ⟨hn, hnew⟩
        have hboth : ∀ key ∈ keys ms, seen.has key = false ∧ m.key? ≠ some key := by
          simpa [has_store] using hnew
        refine h ⟨List.nodup_append.2 ⟨by cases m.key? <;> simp, hn, ?_⟩, ?_⟩
        · rintro key hkey _ hmem rfl
          exact (hboth key hmem).2 (Option.mem_toList.1 hkey)
        · intro key hkey
          rcases List.mem_append.1 hkey with hkey | hkey
          · rw [Option.mem_toList.1 hkey] at hseen
            simpa using hseen
          · exact (hboth key hkey).1
      rw [List.foldlM_cons, Member.add, if_neg hseen]
      exact ih hrest

/-- **What the members come to**: the options in them, if no option is named twice. -/
theorem toOption_foldlM_add (ms : List Member) :
    ((ms.foldlM Member.add {}).map Partial.complete).toOption = given? ms := by
  have hnew : ∀ key ∈ keys ms, Partial.has {} key = false := fun key _ => by cases key <;> rfl
  by_cases hn : (keys ms).Nodup
  · rw [foldlM_add_ok hn hnew, given?, if_pos hn]
    simp [Except.map, Except.toOption, Partial.complete, ofMembers]
  · obtain ⟨problem, herror⟩ := @foldlM_add_error ms {} fun h => hn h.1
    rw [herror, given?, if_neg hn]
    rfl

end Fold

/-! ## The forms of a file -/

section Forms

variable {ms : List Member} {isFirst : Bool} {b t rest : Text}

theorem either_object (hb : Blank b) (ht : Bracketed .object Member.Written ms t) :
    Json.either (b ++ (t ++ rest)) = (ms.foldlM Member.add {}).map fun seen => (seen, rest) := by
  cases ht with
  | mk ht =>
    rw [List.append_assoc, List.cons_append, Json.either, Json.skipBlanks_append_cons hb rfl]
    exact members_append ht

theorem sequenceEnd_append {seen : Partial} (hb : Blank b) :
    Json.sequenceEnd seen (b ++ ']' :: rest) = .ok (seen, rest) := by
  rw [Json.sequenceEnd, Json.skipBlanks_append_cons hb rfl]
  rfl

/-- What the reader of a sequence comes to next: the end of the values, or one more of them. -/
theorem next_of_listed (ht : Listed Member.Value isFirst ms t) (rest : Text) :
    (ms = [] ∧ next ']' isFirst (t ++ ']' :: rest) = .ok (.closed rest)) ∨
      ∃ m ms' v u, ms = m :: ms' ∧ m.Value v ∧ Listed Member.Value false ms' u ∧
        next ']' isFirst (t ++ ']' :: rest) = .ok (.item (v ++ (u ++ ']' :: rest))) := by
  cases ht with
  | nil hb => exact .inl ⟨rfl, Json.next_closing .sequence hb⟩
  | cons hs hv hu =>
    refine .inr ⟨_, _, _, _, rfl, hv, hu, ?_⟩
    rw [List.append_assoc, List.append_assoc]
    exact Json.next_separator .sequence hs (startsItem_value hv).append

/-- **The values of a sequence are stored under the keys in their order**, as far as there are
values. -/
theorem sequence_append {p : Text} {g : List Text} (hms : ms <+: [.tablePrefix p, .ignored g])
    (ht : Listed Member.Value true ms t) :
    Json.sequence (t ++ ']' :: rest) = .ok (ms.foldl Member.store {}, rest) := by
  rw [Json.sequence]
  rcases next_of_listed ht rest with ⟨rfl, hnext⟩ | ⟨m, ms, v, u, rfl, hv, hu, hnext⟩
  · rw [hnext]
    rfl
  obtain ⟨rfl, htail⟩ := List.cons_prefix_cons.1 hms
  have hfirst : Json.value {} (some .tablePrefix) (v ++ (u ++ ']' :: rest)) =
      .ok ((Member.tablePrefix p).store {}, u ++ ']' :: rest) :=
    value_append (b := []) nofun hv (hu.follows .sequence)
  simp only [hnext, hfirst]
  rcases next_of_listed hu rest with ⟨rfl, hnext⟩ | ⟨m, ms, w, x, rfl, hw, hx, hnext⟩
  · rw [hnext]
    rfl
  obtain ⟨rfl, hnone⟩ := List.cons_prefix_cons.1 htail
  have hsecond seen : Json.value seen (some .ignored) (w ++ (x ++ ']' :: rest)) =
      .ok ((Member.ignored g).store seen, x ++ ']' :: rest) :=
    value_append (b := []) nofun hw (hx.follows .sequence)
  simp only [hnext, hsecond]
  obtain rfl := List.prefix_nil.1 hnone
  cases hx with
  | nil hb => exact sequenceEnd_append hb

theorem either_sequence {p : Text} {g : List Text} (hms : ms <+: [.tablePrefix p, .ignored g])
    (hb : Blank b) (ht : Bracketed .sequence Member.Value ms t) :
    Json.either (b ++ (t ++ rest)) = .ok (ms.foldl Member.store {}, rest) := by
  cases ht with
  | mk ht =>
    rw [List.append_assoc, List.cons_append, Json.either, Json.skipBlanks_append_cons hb rfl]
    exact sequence_append hms ht

/-- The options of a whole text are those of its body. -/
theorem ofJson_append {c : Text} {r : Except Problem Partial} (hc : Blank c)
    (h : Json.either (b ++ (t ++ c)) = r.map fun seen => (seen, c)) :
    ofJson (b ++ (t ++ c)) = r.map Partial.complete := by
  rw [ofJson, h]
  cases r with
  | error problem => rfl
  | ok seen => simp [Except.map, Json.skipBlanks_blank hc]

theorem ofJson_object (ht : ObjectText ms t) :
    ofJson t = (ms.foldlM Member.add {}).map Partial.complete := by
  cases ht with
  | mk hb ht hc => exact ofJson_append hc (either_object hb ht)

theorem ofJson_sequence {p : Text} {g : List Text} (hms : ms <+: [.tablePrefix p, .ignored g])
    (ht : SequenceText ms t) : ofJson t = .ok (ofMembers ms) := by
  cases ht with
  | mk hb ht hc =>
    rw [ofJson_append (r := .ok (ms.foldl Member.store {})) hc (either_sequence hms hb ht)]
    rcases List.prefix_cons_iff.1 hms with rfl | ⟨ms, rfl, htail⟩
    · rfl
    rcases List.prefix_cons_iff.1 htail with rfl | ⟨ms, rfl, hnone⟩
    · rfl
    obtain rfl := List.prefix_nil.1 hnone
    rfl

end Forms

/-! ## The laws -/

theorem toOption_mapError {ε ε' α : Type} (f : ε → ε') (r : Except ε α) :
    (r.mapError f).toOption = r.toOption := by
  cases r <;> rfl

/-- **The reader of JSON keeps its laws.** -/
theorem jsonLaws_standardReaders : JsonLaws (standardReaders .json) given? where
  object ms text ht := by
    rw [standardReaders, toOption_mapError, ofJson_object ht, toOption_foldlM_add]
  sequence p g ms text hms ht := by
    rw [standardReaders, toOption_mapError, ofJson_sequence hms ht, given?,
      if_pos (nodup_keys_of_sequence hms)]
    rfl

end TableThrift.Options
