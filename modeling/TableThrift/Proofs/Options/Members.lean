import Mathlib.Data.List.Induction
import Mathlib.Data.List.Nodup
import TableThrift.Options.Reading

/-!
# What members come to

Members that are handed over one after the other come to the options in them, in whatever order, as
long as no option is named twice. This is all that the laws of filling leave open.

## Main definitions

* `Options.given?`: the options of members, if no option is named twice

## Main results

* `Options.ofMembers_concat`, `Options.nodup_keys_concat_iff`: one more member
* `Options.ofMembers_perm`: the order of members does not matter
* `Options.mapM_mapWords?`: words that are taken as they stand
* `Options.fillLaws_given?`, `Options.FillLaws.eq_given?`: the laws of filling leave one way to fill
-/

namespace TableThrift.Options

variable {ms ms' : List Member} {m : Member} {key : Key}

/-! ## Keys -/

section Keys

theorem keys_cons (m : Member) (ms : List Member) : keys (m :: ms) = m.key?.toList ++ keys ms := by
  cases h : m.key? <;> simp [keys, h]

/-- The keys with one more member. -/
theorem keys_concat (ms : List Member) (m : Member) :
    keys (ms ++ [m]) = keys ms ++ m.key?.toList := by
  have hlast : keys [m] = m.key?.toList := (keys_cons m []).trans (List.append_nil _)
  rw [← hlast]
  exact List.filterMap_append

theorem mem_keys (hm : m ∈ ms) (hk : m.key? = some key) : key ∈ keys ms :=
  List.mem_filterMap.2 ⟨m, hm, hk⟩

theorem findSome?_tablePrefix? (h : Key.tablePrefix ∉ keys ms) :
    ms.findSome? Member.tablePrefix? = none := by
  rw [List.findSome?_eq_none_iff]
  intro m hm
  cases m with
  | tablePrefix _ => exact absurd (mem_keys hm rfl) h
  | ignored _ => rfl
  | other _ _ => rfl

theorem findSome?_ignored? (h : Key.ignored ∉ keys ms) :
    ms.findSome? Member.ignored? = none := by
  rw [List.findSome?_eq_none_iff]
  intro m hm
  cases m with
  | tablePrefix _ => rfl
  | ignored _ => exact absurd (mem_keys hm rfl) h
  | other _ _ => rfl

/-- One more member sets its option, if its key is new. -/
theorem ofMembers_concat (hnew : ∀ key, m.key? = some key → key ∉ keys ms) :
    ofMembers (ms ++ [m]) = m.assign (ofMembers ms) := by
  simp only [ofMembers, List.findSome?_append]
  -- No member before the last one gives a value for its option.
  cases m with
  | tablePrefix value =>
    rw [findSome?_tablePrefix? (hnew _ rfl)]
    simp [Member.tablePrefix?, Member.ignored?, Member.assign]
  | ignored values =>
    rw [findSome?_ignored? (hnew _ rfl)]
    simp [Member.tablePrefix?, Member.ignored?, Member.assign]
  | other word unknown => simp [Member.tablePrefix?, Member.ignored?, Member.assign]

/-- No key comes twice with one more member, if none did before and its key is new. -/
theorem nodup_keys_concat_iff (ms : List Member) (m : Member) :
    (keys (ms ++ [m])).Nodup ↔ (keys ms).Nodup ∧ ∀ key, m.key? = some key → key ∉ keys ms := by
  rw [keys_concat]
  cases m.key? with
  | none => simp
  | some key =>
    rw [Option.toList_some, List.nodup_append_comm, List.singleton_append, List.nodup_cons,
      and_comm]
    simp

/-- The values of a sequence are those of different options. -/
theorem nodup_keys_of_sequence {p : Text} {g : List Text}
    (hms : ms <+: [.tablePrefix p, .ignored g]) : (keys ms).Nodup := by
  have hboth : (keys [.tablePrefix p, .ignored g]).Nodup := by simp [keys, Member.key?]
  exact (hms.sublist.filterMap Member.key?).nodup hboth

end Keys

/-! ## Orders -/

section Orders

/-- What is found under one key does not depend on the order, if no key comes twice. -/
theorem findSome?_perm {α : Type} {f : Member → Option α}
    (hf : ∀ m v, f m = some v → m.key? = some key) (hp : ms.Perm ms') (hn : (keys ms).Nodup) :
    ms.findSome? f = ms'.findSome? f := by
  induction hp with
  | nil => rfl
  | cons m _ ih =>
    rw [keys_cons] at hn
    rw [List.findSome?_cons, List.findSome?_cons, ih (List.nodup_append.1 hn).2.1]
  | swap m m' ms =>
    rw [keys_cons, keys_cons] at hn
    -- Both members cannot give a value, as they would have the same key.
    cases hm : f m with
    | none => simp [List.findSome?_cons, hm]
    | some v =>
      cases hm' : f m' with
      | none => simp [hm, hm']
      | some v' => simp [hf m v hm, hf m' v' hm'] at hn
  | trans hp _ ih ih' =>
    exact (ih hn).trans (ih' ((hp.filterMap Member.key?).nodup_iff.1 hn))

theorem ofMembers_perm (hp : ms.Perm ms') (hn : (keys ms).Nodup) :
    ofMembers ms = ofMembers ms' := by
  have hprefix : ∀ m v, Member.tablePrefix? m = some v → m.key? = some .tablePrefix := by
    rintro (_ | _ | _) v hv <;> trivial
  have hignored : ∀ m v, Member.ignored? m = some v → m.key? = some .ignored := by
    rintro (_ | _ | _) v hv <;> trivial
  rw [ofMembers, ofMembers, findSome?_perm hprefix hp hn, findSome?_perm hignored hp hn]

end Orders

/-! ## Words -/

section Words

variable {scalar? : Text → Option Text} {line t : Text}

theorem mapM_eq_self {α : Type} {f : α → Option α} {l : List α} (h : ∀ a ∈ l, f a = some a) :
    l.mapM f = some l := by
  induction l with
  | nil => rfl
  | cons a l ih =>
    obtain ⟨ha, hl⟩ := List.forall_mem_cons.1 h
    rw [List.mapM_cons, ha, ih hl]
    rfl

/-- The members of lines stay as they are if their words are taken as they stand there. -/
theorem mapM_mapWords? (hs : ∀ w, Yaml.BareWord w → scalar? w = some w) (h : LayoutText ms t) :
    ms.mapM (Member.mapWords? scalar?) = some ms := by
  induction h with
  | nil => rfl
  | @cons m ms line t hl _ ih =>
    have hm : m.mapWords? scalar? = some m := by
      cases hl with
      | tablePrefix hp => rw [Member.mapWords?, hs _ hp, Option.map_some]
      | ignored hg =>
        rw [Member.mapWords?, mapM_eq_self fun w hw => hs w (hg w hw), Option.map_some]
    rw [List.mapM_cons, hm, ih]
    rfl

end Words

/-! ## Filling -/

section Filling

/-- The options of members, if no option is named twice. -/
def given? (ms : List Member) : Option Options :=
  if (keys ms).Nodup then some (ofMembers ms) else none

theorem given?_concat_of_fresh (hnew : ∀ key, m.key? = some key → key ∉ keys ms) :
    given? (ms ++ [m]) = (given? ms).map m.assign := by
  have hnodup := nodup_keys_concat_iff ms m
  rw [given?, given?, ofMembers_concat hnew]
  by_cases hn : (keys ms).Nodup
  · rw [if_pos hn, if_pos (hnodup.2 ⟨hn, hnew⟩), Option.map_some]
  · rw [if_neg hn, if_neg fun hboth => hn (hnodup.1 hboth).1, Option.map_none]

theorem given?_concat_of_repeated (hk : m.key? = some key) (hmem : key ∈ keys ms) :
    given? (ms ++ [m]) = none := by
  rw [given?, if_neg fun hn => ((nodup_keys_concat_iff ms m).1 hn).2 key hk hmem]

theorem fillLaws_given? : FillLaws given? where
  nil := rfl
  fresh _ _ := given?_concat_of_fresh
  repeated _ _ _ := given?_concat_of_repeated

variable {fill? : List Member → Option Options}

/-- **The laws of filling leave one way to fill.** -/
theorem FillLaws.eq_given? (h : FillLaws fill?) (ms : List Member) : fill? ms = given? ms := by
  -- The members are looked at from the last one, as each law tells of one more of them.
  induction ms using List.reverseRecOn with
  | nil => exact h.nil
  | append_singleton ms m ih =>
    by_cases hnew : ∀ key, m.key? = some key → key ∉ keys ms
    · rw [h.fresh ms m hnew, ih, given?_concat_of_fresh hnew]
    · push Not at hnew
      obtain ⟨key, hk, hmem⟩ := hnew
      rw [h.repeated ms m key hk hmem, given?_concat_of_repeated hk hmem]

/-- Members with different keys come to the options in them. -/
theorem FillLaws.eq_some (h : FillLaws fill?) (hn : (keys ms).Nodup) :
    fill? ms = some (ofMembers ms) := by
  rw [h.eq_given?, given?, if_pos hn]

end Filling

end TableThrift.Options
