import TableThrift.Proofs.Saving.Steps

/-!
# Saving that is interrupted

A run of steps may stop anywhere: between two steps, at a step that fails in the files or by a
fault, or halfway through the directories or a text. Wherever saving stops, its target is as it was
or holds the whole text. Only the directories that it makes can come in between, where the path of
the directory leads upwards.

## Main definitions

* `Saving.Step.Cut`, `Saving.Stops`: what a step leaves that is cut short, and a run that stops

## Main results

* `Saving.stops_run_take`: a run that ends after some of its steps stops
* `Saving.progress_of_stops`: what the files are wherever saving stops
* `Saving.target_of_stops`: the target is never half-written
-/

namespace TableThrift.Saving

open FileSystem

/-! ## Runs that stop -/

section Stops

/-- What a step leaves that is cut short: a part of the directories, or of the bytes of a text. -/
inductive Step.Cut (s : State) : Step → State → Prop
  | directories (directory : Text) (k : Nat) :
      Cut s (.makeDirectories directory)
        { s with files := (s.files.makeChain ((Path.ancestors directory).drop k)).1 }
  | text {text : Text} {l : Location} {part : ByteArray} (rest : ByteArray)
      (ho : s.opened = some l) (hb : text.bytes = part ++ rest) :
      Cut s (.write text) { s with files := s.files.append l part }

/-- The states in which a run of steps may stop, whatever faults there are. -/
inductive Stops : State → List Step → State → Prop
  /-- Before its first step, or after all of them. -/
  | here (s : State) (steps : List Step) : Stops s steps s
  /-- Within the first step. -/
  | within {s s' : State} {step : Step} (steps : List Step) (h : step.Cut s s') :
      Stops s (step :: steps) s'
  /-- At the first step, which fails. -/
  | failed {fault? : Option Fault} {s s' : State} {step : Step} {problem : Problem}
      (steps : List Step) (h : step.run fault? s = (s', .error problem)) :
      Stops s (step :: steps) s'
  /-- Later. -/
  | later {fault? : Option Fault} {s s₁ s' : State} {step : Step} {steps : List Step}
      (h : step.run fault? s = (s₁, .ok ())) (hs : Stops s₁ steps s') :
      Stops s (step :: steps) s'

/-- A run of the first steps, up to one that fails, ends where the whole run may stop. -/
theorem stops_run_take (faults : Faults) (s : State) (steps : List Step) (n : Nat) :
    Stops s steps (run faults s (steps.take n)).1 := by
  induction steps generalizing faults s n with
  | nil =>
    rw [List.take_nil]
    exact .here s []
  | cons step steps ih =>
    cases n with
    | zero => exact .here s _
    | succ n =>
      rw [List.take_succ_cons, run]
      split
      · next s' p h => exact .failed steps h
      · next s₁ h => exact .later h (ih _ s₁ n)

theorem stops_save (faults : Faults) (fs : FileSystem) (directory name text : Text) :
    ∃ s, Stops { files := fs } (plan directory name text) s ∧
      (save faults fs directory name text).1 = s.files := by
  refine ⟨(run faults { files := fs } (plan directory name text)).1, ?_, ?_⟩
  · have h := stops_run_take faults { files := fs } (plan directory name text) 6
    rwa [show (plan directory name text).take 6 = plan directory name text from rfl] at h
  · unfold save
    split <;> next h => rw [h]

end Stops

/-! ## How far saving comes -/

section Progress

variable {fs made : FileSystem} {directory name text path source target : Text}
  {s s' : State} {steps : List Step} {l : Location} {content : ByteArray}

/-- A run that starts to write stops with a part of the text in the file, or after the text. -/
theorem Stops.of_write (hne : l ≠ [])
    (h : Stops ⟨made.put l (.file content), some l⟩ (.write text :: steps) s) :
    (∃ part, s.files = made.put l (.file part)) ∨
      Stops ⟨made.put l (.file (content ++ text.bytes)), some l⟩ steps s := by
  cases h with
  | here => exact .inl ⟨content, rfl⟩
  | within _ h =>
    cases h with
    | text _ ho _ =>
      cases ho
      exact .inl ⟨_, append_put hne _ _⟩
  | failed _ h =>
    obtain ⟨part, _, _, rfl, _⟩ := run_write hne h
    exact .inl ⟨_, rfl⟩
  | later h hs =>
    obtain ⟨part, rest, hb, rfl, hrest⟩ := run_write hne h
    obtain rfl : text.bytes = part := by rw [hb, hrest rfl, ByteArray.append_empty]
    exact .inr hs

theorem Stops.of_flush (h : Stops s (.flush :: steps) s') : s' = s ∨ Stops s steps s' := by
  cases h with
  | here => exact .inl rfl
  | within _ h => cases h
  | failed _ h => exact .inl (run_flush h)
  | later h hs =>
    obtain rfl := run_flush h
    exact .inr hs

/-- A run that opens a file stops before that, or after an empty file is put in its place. -/
theorem Stops.of_openEmpty (h : Stops s (.openEmpty path :: steps) s') :
    s' = s ∨ ∃ l, s.files.locate path = .ok l ∧ s.files.lookup l ≠ some .directory ∧
      Stops ⟨s.files.put l (.file .empty), some l⟩ steps s' := by
  cases h with
  | here => exact .inl rfl
  | within _ h => cases h
  | failed _ h =>
    obtain ⟨rfl, -⟩ | ⟨_, _, _, _, hok⟩ := run_openEmpty h
    · exact .inl rfl
    · cases hok
  | later h hs =>
    obtain ⟨-, hok⟩ | ⟨l, hl, hd, rfl, -⟩ := run_openEmpty h
    · exact absurd rfl hok
    · exact .inr ⟨l, hl, hd, hs⟩

/-- A run whose last step moves a file stops before that or after it. -/
theorem Stops.of_move (h : Stops s [.move source target] s') :
    s' = s ∨ s.files.move source target = .ok s'.files := by
  cases h with
  | here => exact .inl rfl
  | within _ h => cases h
  | failed _ h =>
    obtain ⟨rfl, -⟩ | ⟨_, _, _, hok⟩ := run_move h
    · exact .inl rfl
    · cases hok
  | later h hs =>
    obtain ⟨-, hok⟩ | ⟨files, hmove, rfl, -⟩ := run_move h
    · exact absurd rfl hok
    · cases hs with
      | here => exact .inr hmove

/-- A run that makes directories stops among them, or goes on with directories added. -/
theorem Stops.of_makeDirectories (h : Stops s (.makeDirectories directory :: steps) s') :
    ∃ made, AddsDirectories (Path.ancestors directory) s.files made ∧
      (s'.files = made ∨ Stops { s with files := made } steps s') := by
  cases h with
  | here => exact ⟨s.files, .refl _ _, .inl rfl⟩
  | within _ h =>
    cases h with
    | directories _ k =>
      exact ⟨_, (addsDirectories_makeChain _ _).mono (List.drop_subset k _), .inl rfl⟩
  | failed _ h =>
    obtain ⟨made, hmade, rfl⟩ := run_makeDirectories h
    exact ⟨made, hmade, .inl rfl⟩
  | later h hs =>
    obtain ⟨made, hmade, rfl⟩ := run_makeDirectories h
    exact ⟨made, hmade, .inr hs⟩

/-- What the files are wherever saving stops. -/
theorem progress_of_stops (h : Stops { files := fs } (plan directory name text) s) :
    ∃ phase, Progress fs directory name text phase s.files := by
  -- The steps in their order, each from the state that the one before it left.
  obtain ⟨made, hmade, hs | h⟩ := h.of_makeDirectories
  · rw [hs]
    exact ⟨_, .making hmade⟩
  obtain rfl | ⟨l, hl, hd, h⟩ := h.of_openEmpty
  · exact ⟨_, .making hmade⟩
  have hne : l ≠ [] := ne_nil_of_lookup_ne hd
  obtain ⟨part, hs⟩ | h := h.of_write hne
  · rw [hs]
    exact ⟨_, .writing hmade hl hd part⟩
  obtain ⟨part, hs⟩ | h := h.of_write hne
  · rw [hs]
    exact ⟨_, .writing hmade hl hd part⟩
  obtain rfl | h := h.of_flush
  · exact ⟨_, .writing hmade hl hd _⟩
  obtain rfl | hmove := h.of_move
  · exact ⟨_, .writing hmade hl hd _⟩
  · refine ⟨_, .moved hmade hl hd ?_⟩
    rwa [Text.bytes_append, ← ByteArray.empty_append (b := text.bytes)]

end Progress

/-! ## The two files -/

section Files

/-- The name of the temporary file. -/
def temporaryName (name : Text) : Text := ['.'] ++ name ++ ".thrift.tmp".toList

/-- The name of the saved file. -/
def targetName (name : Text) : Text := name ++ ".thrift".toList

variable {fs : FileSystem} {directory name : Text} {m : Location}

theorem length_temporaryName (name : Text) : (temporaryName name).length = name.length + 12 := by
  rw [temporaryName, List.length_append, List.length_append]
  exact Nat.add_right_comm 1 name.length 11 |>.trans (Nat.add_comm _ _)

theorem length_targetName (name : Text) : (targetName name).length = name.length + 7 := by
  rw [targetName, List.length_append]
  rfl

theorem slash_not_mem_temporaryName (h : '/' ∉ name) : '/' ∉ temporaryName name := by
  simp [temporaryName, h]

theorem slash_not_mem_targetName (h : '/' ∉ name) : '/' ∉ targetName name := by
  simp [targetName, h]

theorem temporaryName_injective : Function.Injective temporaryName := by
  intro name name' h
  rw [temporaryName, temporaryName] at h
  exact List.append_cancel_left (List.append_cancel_right h)

theorem targetName_injective : Function.Injective targetName := fun _ _ h =>
  List.append_cancel_right h

/-- The last letters of the two names differ, whatever names they come from. -/
theorem temporaryName_ne_targetName (name name' : Text) :
    temporaryName name ≠ targetName name' := by
  intro h
  have hlast := congrArg List.getLast? h
  rw [temporaryName, targetName, List.getLast?_append_of_ne_nil _ (by decide),
    List.getLast?_append_of_ne_nil _ (by decide)] at hlast
  exact absurd hlast (by decide)

/-- Different names have different locations, in whatever directories. -/
theorem location_ne_of_ne (d d' : Location) {a b : Text} (h : a ≠ b) : d ++ [a] ≠ d' ++ [b] :=
  fun he => h (List.singleton_inj.1 (List.append_inj' he rfl).2)

/-- Different names have different locations in one directory. -/
theorem location_ne (d : Location) {a b : Text} (h : a ≠ b) : d ++ [a] ≠ d ++ [b] :=
  location_ne_of_ne d d h

/-- The path of a long name without a slash leads to that name in the directory. -/
theorem locate_join_long_iff (hslash : '/' ∉ name) (hlong : 2 < name.length) :
    fs.locate (Path.join directory name) = .ok m ↔
      fault? (Path.join directory name) = none ∧ Text.byteSize name ≤ nameLimit ∧
        ∃ d, fs.base directory = .ok d ∧ fs.lookup d = some .directory ∧ m = d ++ [name] := by
  have hne : name ≠ [] := by
    rintro rfl
    exact absurd hlong (by decide)
  have hhere : name ≠ Path.here := by
    rintro rfl
    exact absurd hlong (by decide)
  have habove : name ≠ Path.above := by
    rintro rfl
    exact absurd hlong (by decide)
  exact locate_join_eq_ok_iff hslash hne hhere habove

theorem locate_temporaryPath (hname : '/' ∉ name)
    (h : fs.locate (temporaryPath directory name) = .ok m) :
    ∃ d, fs.base directory = .ok d ∧ fs.lookup d = some .directory ∧
      m = d ++ [temporaryName name] := by
  have hlong : 2 < (temporaryName name).length := by
    rw [length_temporaryName]
    omega
  exact ((locate_join_long_iff (slash_not_mem_temporaryName hname) hlong).1 h).2.2

theorem locate_targetPath_iff (hname : '/' ∉ name) :
    fs.locate (targetPath directory name) = .ok m ↔
      fault? (targetPath directory name) = none ∧
        Text.byteSize (targetName name) ≤ nameLimit ∧
        ∃ d, fs.base directory = .ok d ∧ fs.lookup d = some .directory ∧
          m = d ++ [targetName name] := by
  have hlong : 2 < (targetName name).length := by
    rw [length_targetName]
    omega
  exact locate_join_long_iff (slash_not_mem_targetName hname) hlong

theorem locate_targetPath (hname : '/' ∉ name)
    (h : fs.locate (targetPath directory name) = .ok m) :
    ∃ d, fs.base directory = .ok d ∧ fs.lookup d = some .directory ∧ m = d ++ [targetName name] :=
  ((locate_targetPath_iff hname).1 h).2.2

end Files

/-! ## What is left -/

section Left

variable {fs files : FileSystem} {directory name text : Text} {s : State}

/-- What moving the temporary file has done: its content stands at the target alone. -/
theorem lookup_moved (hname : '/' ∉ name) {d : Location} {content : ByteArray}
    (hb : fs.base directory = .ok d)
    (hc : fs.lookup (d ++ [temporaryName name]) = some (.file content))
    (hmove : fs.move (temporaryPath directory name) (targetPath directory name) = .ok files) :
    fs.KeepsDirectories files ∧
      files.lookup (d ++ [targetName name]) = some (.file content) ∧
      files.lookup (d ++ [temporaryName name]) = none ∧
      ∀ m, m ≠ d ++ [temporaryName name] → m ≠ d ++ [targetName name] →
        files.lookup m = fs.lookup m := by
  obtain ⟨l, m, content', hl, hm, hc', hfree, rfl⟩ := move_eq_ok_iff.1 hmove
  obtain ⟨d₁, hd₁, -, rfl⟩ := locate_temporaryPath hname hl
  obtain ⟨d₂, hd₂, -, rfl⟩ := locate_targetPath hname hm
  obtain rfl : d = d₁ := Except.ok.inj (hb.symm.trans hd₁)
  obtain rfl : d = d₂ := Except.ok.inj (hb.symm.trans hd₂)
  obtain rfl : content = content' := Entry.file.inj (Option.some.inj (hc.symm.trans hc'))
  have hdiff : d ++ [temporaryName name] ≠ d ++ [targetName name] :=
    location_ne d (temporaryName_ne_targetName name name)
  rw [if_neg hdiff]
  have hfile : fs.lookup (d ++ [temporaryName name]) ≠ some .directory := by
    rw [hc]
    exact nofun
  have herase : (fs.erase (d ++ [temporaryName name])).lookup (d ++ [targetName name]) ≠
      some .directory := by
    rwa [lookup_erase_of_ne _ (Ne.symm hdiff)]
  refine ⟨(keepsDirectories_erase hfile).trans (keepsDirectories_put herase _),
    lookup_put_self _ (ne_nil_of_lookup_ne hfree) _, ?_, fun m hml hmt => ?_⟩
  · rw [lookup_put_of_ne _ hdiff, lookup_erase_self _ (ne_nil_of_lookup_ne hfile)]
  · rw [lookup_put_of_ne _ hmt, lookup_erase_of_ne _ hml]

/-- **What saving touches**, wherever it stops: apart from new directories only the two files of
the name, of which the target has the whole text. -/
theorem Progress.lookup {phase : Phase} (h : Progress fs directory name text phase files)
    (hname : '/' ∉ name) :
    ∃ made, AddsDirectories (Path.ancestors directory) fs made ∧ made.KeepsDirectories files ∧
      ∀ m, files.lookup m = made.lookup m ∨ ∃ d, made.base directory = .ok d ∧
        (m = d ++ [temporaryName name] ∨
          m = d ++ [targetName name] ∧
            files.lookup m = some (.file (text ++ ['\r', '\n']).bytes)) := by
  cases h with
  | making hmade => exact ⟨files, hmade, ⟨rfl, fun _ h => h⟩, fun _ => .inl rfl⟩
  | @writing made l hmade hl hd content =>
    obtain ⟨d, hb, -, hld⟩ := locate_temporaryPath hname hl
    refine ⟨made, hmade, keepsDirectories_put hd _, fun m => ?_⟩
    by_cases hm : m = l
    · exact .inr ⟨d, hb, .inl (hm.trans hld)⟩
    · exact .inl (lookup_put_of_ne made hm _)
  | @moved made _ l hmade hl hd hmove =>
    obtain ⟨d, hb, -, rfl⟩ := locate_temporaryPath hname hl
    have hkeeps := keepsDirectories_put hd (.file (text ++ ['\r', '\n']).bytes)
    obtain ⟨hkeeps', htarget, -, hother⟩ := lookup_moved hname (hkeeps.base hb)
      (lookup_put_self made (ne_nil_of_lookup_ne hd) _) hmove
    refine ⟨made, hmade, hkeeps.trans hkeeps', fun m => ?_⟩
    by_cases hm : m = d ++ [temporaryName name]
    · exact .inr ⟨d, hb, .inl hm⟩
    · by_cases hmt : m = d ++ [targetName name]
      · exact .inr ⟨d, hb, .inr ⟨hmt, hmt ▸ htarget⟩⟩
      · exact .inl ((hother m hm hmt).trans (lookup_put_of_ne made hm _))

/-- **The target is never half-written.** Wherever saving stops, the path of the target still leads
where it led, and the entry there is as it was or the whole text with a line break. The one other
case is a directory that was missing: one of those that the path of the directory leads through,
and then leads back from upwards. -/
theorem target_of_stops (hname : '/' ∉ name)
    (h : Stops { files := fs } (plan directory name text) s) :
    (∀ m, fs.locate (targetPath directory name) = .ok m →
      s.files.locate (targetPath directory name) = .ok m) ∧
    ∀ m, s.files.locate (targetPath directory name) = .ok m →
      s.files.lookup m = fs.lookup m ∨
      s.files.lookup m = some (.file (text ++ ['\r', '\n']).bytes) ∨
      (Path.above ∈ Path.names directory ∧ fs.lookup m = none ∧
        s.files.lookup m = some .directory ∧
        ∃ q ∈ Path.ancestors directory, s.files.locate q = .ok m) := by
  obtain ⟨phase, hprogress⟩ := progress_of_stops h
  obtain ⟨made, hmade, hkeeps, hlookup⟩ := hprogress.lookup hname
  refine ⟨fun m hm => (hmade.keepsDirectories.trans hkeeps).locate hm, fun m hm => ?_⟩
  obtain ⟨d, hb, -, rfl⟩ := locate_targetPath hname hm
  obtain heq | ⟨d', hb', htemporary | ⟨-, htext⟩⟩ := hlookup (d ++ [targetName name])
  · obtain hsame | ⟨hnone, hd, q, hq, hqm⟩ := hmade.lookup (d ++ [targetName name])
    · exact .inl (heq.trans hsame)
    · refine .inr (.inr ⟨?_, hnone, heq.trans hd, q, hq, hkeeps.locate hqm⟩)
      refine hmade.above_mem_of_directory (targetName name) hkeeps.current hb ?_
      rw [hd, hnone]
      exact nofun
  · -- The two names differ, and so do their locations in one directory.
    obtain ⟨rfl, -⟩ := List.append_inj' htemporary rfl
    exact absurd htemporary (location_ne d (temporaryName_ne_targetName name name).symm)
  · exact .inr (.inl htext)

/-- A run that stops while its text is being written, with an older file at its target. -/
theorem target_of_stops_amid_text :
    let fs : FileSystem := ⟨[(["d".toList], .directory),
      (["d".toList, "A.thrift".toList], .file (Text.bytes "old".toList))], []⟩
    let steps := plan "d".toList "A".toList "struct A".toList
    let opened : State := (run (fun _ => none) { files := fs } (steps.take 2)).1
    let s : State := { opened with
      files := opened.files.append ["d".toList, ".A.thrift.tmp".toList]
        (Text.bytes "str".toList) }
    '/' ∉ "A".toList ∧ Stops { files := fs } steps s ∧
      s.files.lookup ["d".toList, ".A.thrift.tmp".toList] =
        some (.file (Text.bytes "str".toList)) ∧
      s.files.lookup ["d".toList, "A.thrift".toList] =
        some (.file (Text.bytes "old".toList)) := by
  intro fs steps opened s
  have hname : '/' ∉ "A".toList := by decide
  have hstops : Stops { files := fs } steps s := by
    have hcut : (Step.write "struct A".toList).Cut opened s :=
      .text (Text.bytes "uct A".toList) rfl (by decide +kernel)
    exact @Stops.later none _ _ _ _ _ rfl (@Stops.later none _ _ _ _ _ rfl (.within _ hcut))
  refine ⟨hname, hstops, by decide +kernel, ?_⟩
  obtain hsame | htext | ⟨habove, -⟩ :=
    (target_of_stops hname hstops).2 ["d".toList, "A.thrift".toList] (by decide +kernel)
  · exact hsame
  · exact absurd htext (by decide +kernel)
  · exact absurd habove (by decide)

/-- A directory may come to stand at the target: the path of the directory leads into it and back,
and its place was empty. -/
theorem exists_stops_at_directory :
    ¬ ∀ (fs : FileSystem) (directory name text : Text) (s : State),
      '/' ∉ name → '\x00' ∉ name → Stops { files := fs } (plan directory name text) s →
      ∀ m, s.files.locate (targetPath directory name) = .ok m →
        s.files.lookup m = fs.lookup m ∨
          s.files.lookup m = some (.file (text ++ ['\r', '\n']).bytes) := by
  intro h
  have hstops := stops_run_take (fun _ => none) { files := ⟨[], []⟩ }
    (plan "A.thrift/..".toList "A".toList "x".toList) 6
  obtain hsame | htext := h _ _ _ _ _ (by decide) (by decide) hstops ["A.thrift".toList]
    (by decide +kernel)
  · exact absurd hsame (by decide +kernel)
  · exact absurd htext (by decide +kernel)

end Left

end TableThrift.Saving
