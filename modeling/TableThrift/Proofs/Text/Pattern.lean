import TableThrift.Proofs.Text.Enclosed
import TableThrift.Text.Pattern

/-!
# What a pattern captures

A pattern without newlines is found within the segments of a text, and the first segment where it
is found decides. There, the pattern of a quoted part captures what the outermost quotes enclose,
as its run reaches to the last quote. Behind a word there are two runs: the first one reaches as
far as it can and leaves only the last two quotes to the second.

## Main results

* `Pattern.found_eq_flatMap_split`: a pattern is searched for segment by segment
* `Pattern.head?_fits_run`: how far a run reaches
* `Pattern.head?_found_word`: a word is searched for at its first occurrence alone
* `Pattern.capture_between`, `Pattern.capture_betweenAfter`: the patterns of quoted parts capture
  what quotes enclose
-/

namespace TableThrift.Pattern

variable {p : Pattern} {group word s t u v w : Text} {c quote : Char}

/-! ## Runs -/

section Runs

theorem runs_cons (hc : c ≠ '\n') (t : Text) :
    runs (c :: t) = (runs t).map (fun r => (c :: r.1, r.2)) ++ [([], c :: t)] := by
  rw [runs, if_neg hc]

/-- A run makes up the text together with what follows it. -/
theorem append_of_mem_runs {r : Text × Text} (h : r ∈ runs t) : r.1 ++ r.2 = t := by
  induction t generalizing r with
  | nil =>
    obtain rfl := List.mem_singleton.1 h
    rfl
  | cons c cs ih =>
    rw [runs] at h
    split at h
    · obtain rfl := List.mem_singleton.1 h
      rfl
    · rcases List.mem_append.1 h with h | h
      · obtain ⟨r, hr, rfl⟩ := List.mem_map.1 h
        exact congrArg (c :: ·) (ih hr)
      · obtain rfl := List.mem_singleton.1 h
        rfl

/-- The runs that reach over a given character, and those that end before it. -/
theorem runs_append_cons (hu : '\n' ∉ u) (hc : c ≠ '\n') (v : Text) :
    runs (u ++ c :: v) = (runs v).map (fun r => (u ++ c :: r.1, r.2)) ++
      (runs u).map fun r => (r.1, r.2 ++ c :: v) := by
  induction u with
  | nil => exact runs_cons hc v
  | cons d ds ih =>
    rw [List.mem_cons, not_or] at hu
    rw [List.cons_append, runs_cons (Ne.symm hu.1), ih hu.2, runs_cons (Ne.symm hu.1)]
    simp [Function.comp_def]

/-- No run reaches over a newline. -/
theorem runs_append_newline (hu : '\n' ∉ u) (v : Text) :
    runs (u ++ '\n' :: v) = (runs u).map fun r => (r.1, r.2 ++ '\n' :: v) := by
  induction u with
  | nil => rfl
  | cons d ds ih =>
    rw [List.mem_cons, not_or] at hu
    rw [List.cons_append, runs_cons (Ne.symm hu.1), ih hu.2, runs_cons (Ne.symm hu.1)]
    simp [Function.comp_def]

/-- Without a newline the longest run is the whole text. -/
theorem exists_runs_eq (ht : '\n' ∉ t) : ∃ shorter, runs t = (t, []) :: shorter := by
  induction t with
  | nil => exact ⟨[], rfl⟩
  | cons c cs ih =>
    rw [List.mem_cons, not_or] at ht
    obtain ⟨shorter, hs⟩ := ih ht.2
    rw [runs_cons (Ne.symm ht.1), hs]
    exact ⟨_, rfl⟩

end Runs

/-! ## Segments -/

section Segments

/-- A pattern without newlines that fits in front of a newline does not reach over it. -/
theorem fits_append_newline (hp : .char '\n' ∉ p) (hu : '\n' ∉ u) (v : Text) :
    fits group p (u ++ '\n' :: v) = fits group p u := by
  induction p generalizing group u with
  | nil => rfl
  | cons part p ih =>
    rw [List.mem_cons, not_or] at hp
    cases part with
    | char c =>
      cases u with
      | nil =>
        have hc : c ≠ '\n' := fun he => hp.1 (by rw [he])
        rw [List.nil_append, fits_char_cons, if_neg hc, fits_char_nil]
      | cons d ds =>
        rw [List.mem_cons, not_or] at hu
        rw [List.cons_append, fits_char_cons, fits_char_cons, ih hp.2 hu.2]
    | run captured =>
      rw [fits_run, fits_run, runs_append_newline hu, List.flatMap_map]
      refine List.flatMap_congr fun r hr => ih hp.2 fun hn => hu ?_
      rw [← append_of_mem_runs hr]
      exact List.mem_append_right r.1 hn

theorem found_cons (p : Pattern) (c : Char) (t : Text) :
    found p (c :: t) = fits [] p (c :: t) ++ found p t := by
  rw [found, List.tails_cons, List.flatMap_cons, found]

theorem found_nil (p : Pattern) : found p [] = fits [] p [] := List.append_nil _

theorem found_append_newline (hp : .char '\n' ∉ p) (hu : '\n' ∉ u) (v : Text) :
    found p (u ++ '\n' :: v) = found p u ++ found p v := by
  induction u with
  | nil =>
    rw [found_nil, List.nil_append, found_cons, ← List.nil_append ('\n' :: v),
      fits_append_newline hp List.not_mem_nil]
  | cons c cs ih =>
    have hcs : '\n' ∉ cs := fun hm => hu (List.mem_cons_of_mem c hm)
    rw [List.cons_append, found_cons, ih hcs, ← List.cons_append, fits_append_newline hp hu,
      found_cons, List.append_assoc]

/-- **A pattern without newlines is found in the segments of a text.** -/
theorem found_eq_flatMap_split (hp : .char '\n' ∉ p) (t : Text) :
    found p t = (t.split '\n').flatMap (found p) := by
  have hpieces : ∀ ts : List Text, ts ≠ [] → (∀ s ∈ ts, '\n' ∉ s) →
      found p (List.intercalate ['\n'] ts) = ts.flatMap (found p) := by
    intro ts hne hts
    induction ts with
    | nil => exact absurd rfl hne
    | cons s ts ih =>
      cases ts with
      | nil => rw [List.intercalate_singleton, List.flatMap_singleton]
      | cons s' ts =>
        rw [List.intercalate_cons_cons, List.append_assoc, List.singleton_append,
          found_append_newline hp (hts s List.mem_cons_self),
          ih (List.cons_ne_nil s' ts) fun r hr => hts r (List.mem_cons_of_mem s hr),
          @List.flatMap_cons _ _ s (s' :: ts)]
  have h := hpieces _ (Text.split_ne_nil '\n' t) fun s hs => Text.not_mem_of_mem_split hs
  rwa [Text.intercalate_split] at h

theorem findSome?_congr {α β : Type} {f g : α → Option β} {l : List α} (h : ∀ a ∈ l, f a = g a) :
    l.findSome? f = l.findSome? g := by
  induction l with
  | nil => rfl
  | cons a l ih =>
    rw [List.findSome?_cons, List.findSome?_cons, h a List.mem_cons_self,
      ih fun b hb => h b (List.mem_cons_of_mem a hb)]

/-- What a pattern captures in a text, by what it captures in a segment. -/
theorem capture_eq {f : Text → Option Text} (hp : .char '\n' ∉ p)
    (hf : ∀ s, '\n' ∉ s → (found p s).head? = f s) :
    capture p t = ((t.split '\n').findSome? f).getD [] := by
  rw [capture, found_eq_flatMap_split hp, List.head?_flatMap,
    findSome?_congr fun s hs => hf s (Text.not_mem_of_mem_split hs)]

end Segments

/-! ## Quotes -/

section Quotes

variable {captured : Bool}

theorem fits_char_eq_nil (h : c ∉ t) : fits group (.char c :: p) t = [] := by
  cases t with
  | nil => exact fits_char_nil group c p
  | cons d ds =>
    rw [List.mem_cons, not_or] at h
    rw [fits_char_cons, if_neg h.1]

/-- A run fits nowhere if what stands behind it does not. -/
theorem fits_run_eq_nil (h : ∀ group s, s <:+ t → fits group p s = []) :
    fits group (.run captured :: p) t = [] := by
  rw [fits_run, List.flatMap_eq_nil_iff]
  exact fun r hr => h _ r.2 ⟨r.1, append_of_mem_runs hr⟩

/-- Two quotes are needed around a run. -/
theorem fits_quotes_eq_nil (h : t.count quote < 2) :
    fits group [.char quote, .run captured, .char quote] t = [] := by
  cases t with
  | nil => exact fits_char_nil group quote _
  | cons d ds =>
    rw [fits_char_cons]
    split
    · next hd =>
      subst hd
      rw [List.count_cons_self] at h
      have hds : quote ∉ ds := List.count_eq_zero.1 (by omega)
      exact fits_run_eq_nil fun group s hs => fits_char_eq_nil fun hm => hds (hs.subset hm)
    · rfl

/-- A run reaches to a character if the rest of a pattern fits there and nowhere behind it. -/
theorem head?_fits_run (hn : '\n' ∉ u ++ c :: v) (hv : ∀ group s, s <:+ v → fits group p s = [])
    (hw : (fits (if captured then u else group) p (c :: v)).head? = some w) :
    (fits group (.run captured :: p) (u ++ c :: v)).head? = some w := by
  rw [List.mem_append, List.mem_cons, not_or, not_or] at hn
  have hlonger :
      (runs v).flatMap (fun r => fits (if captured then u ++ c :: r.1 else group) p r.2) = [] :=
    List.flatMap_eq_nil_iff.2 fun r hr => hv _ r.2 ⟨r.1, append_of_mem_runs hr⟩
  obtain ⟨shorter, hs⟩ := exists_runs_eq hn.1
  rw [fits_run, runs_append_cons hn.1 (Ne.symm hn.2.1), List.flatMap_append, List.flatMap_map,
    List.flatMap_map, hlonger, hs, List.nil_append, List.flatMap_cons, List.nil_append,
    List.head?_append, hw, Option.some_or]

/-- A captured run before a quote reaches to the last quote. -/
theorem head?_fits_quote (hn : '\n' ∉ t) :
    (fits group [.run true, .char quote] t).head? = (Text.cutLast? [quote] t).map Prod.fst := by
  by_cases hq : quote ∈ t
  · obtain ⟨u, v, rfl, hv⟩ := Text.eq_append_cons_last hq
    rw [Text.cutLast?_append_cons u hv]
    refine head?_fits_run hn (fun group s hs => fits_char_eq_nil fun hm => hv (hs.subset hm)) ?_
    rw [fits_char_cons, if_pos rfl, fits_nil]
    rfl
  · rw [Text.cutLast?_singleton_eq_none hq,
      fits_run_eq_nil fun group s hs => fits_char_eq_nil fun hm => hq (hs.subset hm)]
    rfl

/-- A run before a quoted one reaches to the last quote but one. -/
theorem head?_fits_quotes (hn : '\n' ∉ t) :
    (fits group [.run false, .char quote, .run true, .char quote] t).head? =
      Text.lastEnclosed? quote t := by
  rcases Text.lastEnclosed?_cases quote t with ⟨hc, hnone⟩ | ⟨u, v, w, rfl, hv, hw, hsome⟩
  · rw [hnone, fits_run_eq_nil fun group s hs =>
      fits_quotes_eq_nil ((hs.sublist.count_le quote).trans_lt hc)]
    rfl
  · rw [hsome]
    have hone : (v ++ quote :: w).count quote < 2 := by
      simp [List.count_eq_zero.2 hv, List.count_eq_zero.2 hw]
    refine head?_fits_run hn (fun group s hs =>
      fits_quotes_eq_nil ((hs.sublist.count_le quote).trans_lt hone)) ?_
    have hn' : '\n' ∉ v ++ quote :: w := fun hm =>
      hn (List.mem_append_right u (List.mem_cons_of_mem quote hm))
    rw [fits_char_cons, if_pos rfl, head?_fits_quote hn', Text.cutLast?_append_cons v hw]
    rfl

end Quotes

/-! ## Words -/

section Words

/-- The characters of a word fit where the word stands. -/
theorem fits_map_char (word : Text) (group : Text) (p : Pattern) (t : Text) :
    fits group (word.map .char ++ p) t =
      if word.isPrefixOf t then fits group p (t.drop word.length) else [] := by
  induction word generalizing t with
  | nil => simp
  | cons c cs ih =>
    cases t with
    | nil => simp
    | cons d ds =>
      rw [List.map_cons, List.cons_append, fits_char_cons, ih, List.isPrefixOf_cons_cons,
        List.length_cons, List.drop_succ_cons]
      by_cases hcd : c = d <;> simp [hcd]

/-- A pattern that begins with a word is found behind the first occurrence of the word, if it is
found behind no later one when it is not there. -/
theorem head?_found_word (hw : word ≠ [])
    (hp : ∀ s s', s' <:+ s → s <:+ t → fits [] p s = [] → fits [] p s' = []) :
    (found (word.map .char ++ p) t).head? =
      (Text.cut? word t).bind fun cut => (fits [] p cut.2).head? := by
  induction t with
  | nil =>
    have hword : word.isPrefixOf [] = false := by
      cases word with
      | nil => exact absurd rfl hw
      | cons c cs => rfl
    rw [found_nil, fits_map_char, hword, Text.cut?, if_neg hw]
    rfl
  | cons c cs ih =>
    have ih := ih fun s s' hs hcs => hp s s' hs (hcs.trans (List.suffix_cons c cs))
    rw [found_cons, List.head?_append, ih, fits_map_char]
    by_cases hprefix : word.isPrefixOf (c :: cs)
    · have hcut : Text.cut? word (c :: cs) = some ([], (c :: cs).drop word.length) := by
        rw [Text.cut?, if_pos hprefix]
      rw [if_pos hprefix, hcut, Option.bind_some]
      cases hfits : fits [] p ((c :: cs).drop word.length) with
      | cons x xs => rfl
      | nil =>
        -- What follows a later occurrence is a suffix of what follows this one.
        cases hlater : Text.cut? word cs with
        | none => rfl
        | some later =>
          have hcut' : Text.cut? word (c :: later.1 ++ (word ++ later.2)) =
              some ([], (c :: cs).drop word.length) := by
            rw [List.cons_append, ← List.append_assoc, Text.append_of_cut? hlater, hcut]
          rw [Option.bind_some,
            hp _ _ (Text.suffix_of_cut? hw hcut') (List.drop_suffix _ _) hfits]
          rfl
    · rw [if_neg hprefix, Text.cut?, if_neg hprefix, List.head?_nil, Option.none_or,
        Option.bind_map]
      rfl

end Words

/-! ## Quoted parts -/

section Capture

/-- The pattern of a quoted part captures what the outermost quotes of a segment enclose. -/
theorem capture_between (hq : quote ≠ '\n') (t : Text) :
    capture (between quote) t = Text.enclosed quote t := by
  refine capture_eq (by simp [between, Ne.symm hq]) fun s hs => ?_
  -- Without a quote behind one place there is none behind a later place.
  have hlater : ∀ r r' : Text, r' <:+ r → r <:+ s → fits [] [.run true, .char quote] r = [] →
      fits [] [.run true, .char quote] r' = [] := by
    intro r r' hr hrs h
    have hnr : '\n' ∉ r := fun hm => hs (hrs.subset hm)
    rw [← List.head?_eq_none_iff, head?_fits_quote hnr, Option.map_eq_none_iff,
      Text.cutLast?_singleton_eq_none_iff] at h
    rw [← List.head?_eq_none_iff, head?_fits_quote fun hm => hnr (hr.subset hm),
      Option.map_eq_none_iff, Text.cutLast?_singleton_eq_none_iff]
    exact fun hm => h (hr.subset hm)
  rw [show between quote = [quote].map .char ++ [.run true, .char quote] from rfl,
    head?_found_word (List.cons_ne_nil quote []) hlater, Text.outermost?]
  cases hc : Text.cut? [quote] s with
  | none => rfl
  | some opened =>
    have hn : '\n' ∉ opened.2 := fun hm => hs ((Text.infix_of_cut? hc).2.subset hm)
    rw [Option.bind_some, Option.bind_some, head?_fits_quote hn]

/-- The pattern of a quoted part behind a word captures what the last two quotes enclose. -/
theorem capture_betweenAfter (hw : word ≠ []) (hn : '\n' ∉ word) (hq : quote ≠ '\n') (t : Text) :
    capture (betweenAfter word quote) t = Text.enclosedAfter word quote t := by
  refine capture_eq (by simp [betweenAfter, Ne.symm hq, hn]) fun s hs => ?_
  -- With fewer than two quotes behind one place there are not more behind a later place.
  have hlater : ∀ r r' : Text, r' <:+ r → r <:+ s →
      fits [] [.run false, .char quote, .run true, .char quote] r = [] →
      fits [] [.run false, .char quote, .run true, .char quote] r' = [] := by
    intro r r' hr hrs h
    have hnr : '\n' ∉ r := fun hm => hs (hrs.subset hm)
    rw [← List.head?_eq_none_iff, head?_fits_quotes hnr, Text.lastEnclosed?_eq_none_iff] at h
    rw [← List.head?_eq_none_iff, head?_fits_quotes fun hm => hnr (hr.subset hm),
      Text.lastEnclosed?_eq_none_iff]
    exact (hr.sublist.count_le quote).trans_lt h
  rw [betweenAfter, head?_found_word hw hlater]
  cases hc : Text.cut? word s with
  | none => rfl
  | some found =>
    have hn' : '\n' ∉ found.2 := fun hm => hs ((Text.infix_of_cut? hc).2.subset hm)
    rw [Option.bind_some, Option.bind_some, head?_fits_quotes hn']

end Capture

end TableThrift.Pattern
