import TableThrift.Proofs.Ddl.Line
import TableThrift.Proofs.Text.Pattern

/-!
# The quoted parts of a line

What is read off a line is captured by three patterns. The identifier and the remark of a table are
enclosed by the outermost quotes of their kind, and the remark of a column by the last two quotes
of the line. A text of several lines is searched line by line, and the first one with enough quotes
decides.

## Main definitions

* `Text.FoundFirst`: what is found in the first segment that has a property
* `Text.Outermost`, `Text.LastTwo`: the part of a segment between its outermost quotes, and that
  between its last two
* `Text.Behind`: what follows the first occurrence of a word

## Main results

* `Text.foundFirst_findSome?`: the first segment where something is found
* `Line.captures`: what the patterns of a line capture
-/

namespace TableThrift

namespace Text

/-- A segment of a text that has a property that no segment before it has. -/
def IsFirstSegment (has : Text → Prop) (t segment : Text) : Prop :=
  ∃ before after, t.split '\n' = before ++ segment :: after ∧ has segment ∧
    ∀ s ∈ before, ¬ has s

/-- What is found in the first segment that has a property; empty if no segment has it. -/
structure FoundFirst (has : Text → Prop) (finds : Text → Text → Prop) (t part : Text) : Prop where
  found : ∀ segment, IsFirstSegment has t segment → finds segment part
  missing : (∀ segment ∈ t.split '\n', ¬ has segment) → part = []

/-- The part of a segment strictly between its first and its last quote. -/
def Outermost (quote : Char) (segment part : Text) : Prop :=
  ∃ u w, segment = u ++ quote :: (part ++ quote :: w) ∧ quote ∉ u ∧ quote ∉ w

/-- The part of a segment between its last two quotes. -/
def LastTwo (quote : Char) (segment part : Text) : Prop :=
  ∃ u w, segment = u ++ quote :: (part ++ quote :: w) ∧ quote ∉ part ∧ quote ∉ w

/-- What follows the first occurrence of a word in a segment. -/
def Behind (word segment rest : Text) : Prop :=
  ∃ before, before ++ word ++ rest = segment ∧
    ∀ u v, u ++ word ++ v = segment → before.length ≤ u.length

section Segments

variable {has : Text → Prop} {finds : Text → Text → Prop} {f : Text → Option Text} {quote : Char}
  {word segment part rest t : Text}

/-- A search that goes from segment to segment finds what the first segment with the property
gives. -/
theorem foundFirst_findSome? (hnone : ∀ s, f s = none ↔ ¬ has s)
    (hsome : ∀ s part, f s = some part → finds s part) (t : Text) :
    FoundFirst has finds t (((t.split '\n').findSome? f).getD []) := by
  constructor
  · rintro segment ⟨before, after, hsplit, hhas, hbefore⟩
    obtain ⟨part, hpart⟩ := Option.ne_none_iff_exists'.1 fun hn => (hnone segment).1 hn hhas
    have hfound : (t.split '\n').findSome? f = some part := by
      rw [hsplit, List.findSome?_eq_some_iff]
      exact ⟨before, segment, after, rfl, hpart, fun s hs => (hnone s).2 (hbefore s hs)⟩
    rw [hfound]
    exact hsome segment part hpart
  · intro hmissing
    rw [List.findSome?_eq_none_iff.2 fun s hs => (hnone s).2 (hmissing s hs)]
    rfl

theorem behind_iff :
    Behind word segment rest ↔ ∃ before, cut? word segment = some (before, rest) := by
  simp only [Behind, cut?_eq_some_iff]

/-- A segment encloses a part in its outermost quotes if it has two of them. -/
theorem outermost_of_outermost? (h : outermost? quote segment = some part) :
    Outermost quote segment part := by
  rcases outermost?_cases quote segment with ⟨-, hn⟩ | ⟨u, v, w, hs, hu, hw, hv⟩
  · rw [hn] at h
    cases h
  · obtain rfl := Option.some.inj (hv.symm.trans h)
    exact ⟨u, w, hs, hu, hw⟩

theorem lastTwo_of_lastEnclosed? (h : lastEnclosed? quote segment = some part) :
    LastTwo quote segment part := by
  rcases lastEnclosed?_cases quote segment with ⟨-, hn⟩ | ⟨u, v, w, hs, hv', hw, hv⟩
  · rw [hn] at h
    cases h
  · obtain rfl := Option.some.inj (hv.symm.trans h)
    exact ⟨u, w, hs, hv', hw⟩

/-- The last two quotes of what ends a segment are the last two of the segment. -/
theorem LastTwo.of_suffix (h : LastTwo quote rest part) (hs : rest <:+ segment) :
    LastTwo quote segment part := by
  obtain ⟨before, rfl⟩ := hs
  obtain ⟨u, w, rfl, hp, hw⟩ := h
  exact ⟨before ++ u, w, by rw [List.append_assoc], hp, hw⟩

/-- The outermost enclosed part is found in the first segment with two quotes. -/
theorem foundFirst_enclosed (quote : Char) (t : Text) :
    FoundFirst (2 ≤ ·.count quote) (Outermost quote) t (enclosed quote t) :=
  foundFirst_findSome? (fun s => by rw [outermost?_eq_none_iff, Nat.not_le])
    (fun _ _ => outermost_of_outermost?) t

/-- The last enclosed part behind a word is found in the first segment with two quotes behind the
word. -/
theorem foundFirst_enclosedAfter (word : Text) (quote : Char) (t : Text) :
    FoundFirst (fun s => ∃ rest, Behind word s rest ∧ 2 ≤ rest.count quote) (LastTwo quote) t
      (enclosedAfter word quote t) := by
  refine foundFirst_findSome? (fun s => ?_) (fun s part h => ?_) t
  · rw [Option.bind_eq_none_iff]
    simp only [lastEnclosed?_eq_none_iff, behind_iff]
    constructor
    · rintro h ⟨rest, ⟨before, hc⟩, htwo⟩
      exact absurd htwo (Nat.not_le.2 (h _ hc))
    · intro h cut hc
      exact Nat.not_le.1 fun htwo => h ⟨cut.2, ⟨cut.1, hc⟩, htwo⟩
  · obtain ⟨cut, hc, hpart⟩ := Option.bind_eq_some_iff.1 h
    refine (lastTwo_of_lastEnclosed? hpart).of_suffix ⟨cut.1 ++ word, append_of_cut? hc⟩

/-- The last enclosed part holds no quotes. -/
theorem not_mem_enclosedAfter (word : Text) (quote : Char) (t : Text) :
    quote ∉ enclosedAfter word quote t := by
  unfold enclosedAfter
  cases h : (t.split '\n').findSome? fun segment =>
      (cut? word segment).bind fun found => lastEnclosed? quote found.2 with
  | none => exact List.not_mem_nil
  | some part =>
    obtain ⟨segment, -, hp⟩ := List.exists_of_findSome?_eq_some h
    obtain ⟨found, -, hp⟩ := Option.bind_eq_some_iff.1 hp
    obtain ⟨u, w, -, hnot, -⟩ := lastTwo_of_lastEnclosed? hp
    exact hnot

end Segments

end Text

namespace Line

open Text (FoundFirst Outermost LastTwo Behind)

/-- **What the patterns of a line capture.** The identifier stands between the outermost backticks
of the first segment with two of them. The remark of a table stands between the outermost single
quotes of the first segment with two, as long as the line names an engine somewhere. The remark of a
column stands between the last two single quotes of the first segment in which two follow the first
`COMMENT`, so it holds none itself. Without such a segment each of them is empty. -/
theorem captures (line : Text) :
    (identifier line = (Pattern.between '\x60').capture line ∧
      FoundFirst (2 ≤ ·.count '\x60') (Outermost '\x60') line (identifier line)) ∧
    (closingRemark line =
        (if "ENGINE".toList <:+: line then (Pattern.between '\'').capture line else []) ∧
      ("ENGINE".toList <:+: line →
        FoundFirst (2 ≤ ·.count '\'') (Outermost '\'') line (closingRemark line))) ∧
    (columnRemark line = (Pattern.betweenAfter "COMMENT".toList '\'').capture line ∧
      FoundFirst (fun s => ∃ rest, Behind "COMMENT".toList s rest ∧ 2 ≤ rest.count '\'')
        (LastTwo '\'') line (columnRemark line) ∧
      '\'' ∉ columnRemark line) := by
  refine ⟨⟨?_, ?_⟩, ⟨?_, fun hengine => ?_⟩, ?_, ?_, ?_⟩
  · exact (Pattern.capture_between (by decide) line).symm
  · exact Text.foundFirst_enclosed '\x60' line
  · rw [closingRemark, Pattern.capture_between (by decide)]
    exact if_congr Text.occurs_iff rfl rfl
  · rw [Line.closingRemark_of_infix hengine]
    exact Text.foundFirst_enclosed '\'' line
  · exact (Pattern.capture_betweenAfter (by decide) (by decide) (by decide) line).symm
  · exact Text.foundFirst_enclosedAfter "COMMENT".toList '\'' line
  · exact Text.not_mem_enclosedAfter "COMMENT".toList '\'' line

/-- A text whose first segment has one quote of each kind, so that the second one decides. -/
theorem captures_second_segment :
    let second : Text := "ENGINE \x60b' 'c\x60 \x60 COMMENT 'd' 'e'".toList
    let line : Text := "a \x60 COMMENT '\n".toList ++ second ++ "\n\x60f\x60 'g'".toList
    "ENGINE".toList <:+: line ∧ Text.IsFirstSegment (2 ≤ ·.count '\'') line second ∧
      Outermost '\'' second (closingRemark line) ∧
      identifier line = "b' 'c\x60 ".toList ∧
      closingRemark line = " 'c\x60 \x60 COMMENT 'd' 'e".toList ∧
      columnRemark line = "e".toList := by
  intro second line
  have hengine : "ENGINE".toList <:+: line := by decide +kernel
  have hfirst : Text.IsFirstSegment (2 ≤ ·.count '\'') line second :=
    ⟨["a \x60 COMMENT '".toList], ["\x60f\x60 'g'".toList], by decide +kernel, by decide +kernel,
      by decide +kernel⟩
  obtain ⟨⟨hidentifier, -⟩, ⟨hclosing, hfound⟩, hremark, -⟩ := captures line
  exact ⟨hengine, hfirst, (hfound hengine).found second hfirst,
    hidentifier.trans (by decide +kernel), hclosing.trans (by decide +kernel),
    hremark.trans (by decide +kernel)⟩

end Line

end TableThrift
