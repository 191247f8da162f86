import TableThrift.Proofs.FileSystem.Directories
import TableThrift.Proofs.FileSystem.Walk
import TableThrift.Saving

/-!
# What the steps of saving do

A run goes from step to step as long as they succeed. When all of them do, the temporary file was
opened where no directory stood, took in the text and a line break, and was moved to the target.
When one of them fails, for a reason in the files or outside of them, the steps before it have been
done and perhaps a part of the step itself.

## Main definitions

* `Saving.Phase`, `Saving.Progress`: how far saving may have come, and the files then

## Main results

* `Saving.run_cons_cases`: a run, step by step
* `Saving.run_makeDirectories`, `Saving.run_openEmpty`, `Saving.run_write`, `Saving.run_flush`,
  `Saving.run_move`: what each step may do, under any fault
* `Saving.run_plan`: how far saving comes, whether it succeeds or fails
* `readText_of_save`: the text that a saved file holds
-/

namespace TableThrift

/-! ## Bytes -/

section Bytes

theorem Text.bytes_append (t u : Text) : (t ++ u).bytes = t.bytes ++ u.bytes := by
  rw [bytes, String.ofList_append, String.toByteArray_append, bytes, bytes]

/-- The first bytes of some content, with those behind them. -/
theorem extract_append_rest (content : ByteArray) (n : Nat) :
    content = content.extract 0 n ++ content.extract n content.size := by
  rw [ByteArray.extract_append_extract]
  simp

end Bytes

namespace Saving

open FileSystem

variable {faults : Faults} {fault? : Option Fault} {s s' : State} {step : Step}
  {steps : List Step}

/-! ## Runs -/

section Run

/-- A step does what the files allow, or is broken off before it is done. -/
theorem Step.run_cases (step : Step) (fault? : Option Fault) (s : State) :
    step.run fault? s = step.perform s ∨
      ∃ n < step.size, ∃ problem, step.run fault? s = (step.part s n, .error problem) := by
  rw [Step.run]
  split
  · next fault h =>
    have hdone := (Option.filter_eq_some_iff.1 h).2
    exact .inr ⟨fault.done, of_decide_eq_true hdone, fault.problem, rfl⟩
  · exact .inl rfl

/-- A run ends at its first step, which fails, or goes on behind it. -/
theorem run_cons_cases {result : Except Failure Unit}
    (h : run faults s (step :: steps) = (s', result)) :
    (∃ problem, step.run (faults 0) s = (s', .error problem) ∧ result = .error ⟨step, problem⟩) ∨
      ∃ s₁, step.run (faults 0) s = (s₁, .ok ()) ∧
        run (fun n => faults (n + 1)) s₁ steps = (s', result) := by
  rw [run] at h
  split at h
  · next s₁ problem hstep =>
    obtain ⟨rfl, rfl⟩ := Prod.mk.inj h
    exact .inl ⟨problem, hstep, rfl⟩
  · next s₁ hstep => exact .inr ⟨s₁, hstep, h⟩

end Run

/-! ## Steps -/

section Steps

variable {result : Except Problem Unit} {directory path source target text : Text}

/-- Whatever becomes of making directories, it adds directories that the path leads through. -/
theorem run_makeDirectories (h : (Step.makeDirectories directory).run fault? s = (s', result)) :
    ∃ made, AddsDirectories (Path.ancestors directory) s.files made ∧
      s' = { s with files := made } := by
  obtain hrun | ⟨n, -, problem, hrun⟩ := (Step.makeDirectories directory).run_cases fault? s
  · rw [hrun] at h
    exact ⟨_, addsDirectories_makeChain _ _, (Prod.mk.inj h).1.symm⟩
  · rw [hrun] at h
    exact ⟨_, (addsDirectories_makeChain _ _).mono (List.drop_subset _ _), (Prod.mk.inj h).1.symm⟩

/-- A file is opened where no directory stands, or nothing is done. -/
theorem run_openEmpty (h : (Step.openEmpty path).run fault? s = (s', result)) :
    (s' = s ∧ result ≠ .ok ()) ∨
      ∃ l, s.files.locate path = .ok l ∧ s.files.lookup l ≠ some .directory ∧
        s' = ⟨s.files.put l (.file .empty), some l⟩ ∧ result = .ok () := by
  obtain hrun | ⟨n, -, problem, hrun⟩ := (Step.openEmpty path).run_cases fault? s
  · rw [hrun, Step.perform] at h
    split at h
    · obtain ⟨rfl, rfl⟩ := Prod.mk.inj h
      exact .inl ⟨rfl, nofun⟩
    · next files l hopen =>
      obtain ⟨hl, hd, rfl⟩ := openEmpty_eq_ok_iff.1 hopen
      obtain ⟨rfl, rfl⟩ := Prod.mk.inj h
      exact .inr ⟨l, hl, hd, rfl, rfl⟩
  · rw [hrun] at h
    obtain ⟨rfl, rfl⟩ := Prod.mk.inj h
    exact .inl ⟨rfl, nofun⟩

/-- The first bytes of a text are written behind those in the file, and all of them if nothing
fails. -/
theorem run_write {files : FileSystem} {l : Location} {content : ByteArray} (hl : l ≠ [])
    (h : (Step.write text).run fault? ⟨files.put l (.file content), some l⟩ = (s', result)) :
    ∃ part rest, text.bytes = part ++ rest ∧
      s' = ⟨files.put l (.file (content ++ part)), some l⟩ ∧ (result = .ok () → rest = .empty) := by
  obtain hrun | ⟨n, -, problem, hrun⟩ := (Step.write text).run_cases fault?
    ⟨files.put l (.file content), some l⟩
  · rw [hrun] at h
    refine ⟨text.bytes, .empty, ByteArray.append_empty.symm, ?_, fun _ => rfl⟩
    rw [← (Prod.mk.inj h).1, append_put hl]
  · rw [hrun] at h
    obtain ⟨rfl, rfl⟩ := Prod.mk.inj h
    refine ⟨_, _, extract_append_rest text.bytes n, ?_, nofun⟩
    simp only [Step.part, append_put hl]

/-- Storing the file changes nothing. -/
theorem run_flush (h : Step.flush.run fault? s = (s', result)) : s' = s := by
  obtain hrun | ⟨n, -, problem, hrun⟩ := Step.flush.run_cases fault? s
  · rw [hrun] at h
    exact (Prod.mk.inj h).1.symm
  · rw [hrun] at h
    exact (Prod.mk.inj h).1.symm

/-- A file is moved, or nothing is done. -/
theorem run_move (h : (Step.move source target).run fault? s = (s', result)) :
    (s' = s ∧ result ≠ .ok ()) ∨
      ∃ files, s.files.move source target = .ok files ∧ s' = { s with files } ∧
        result = .ok () := by
  obtain hrun | ⟨n, -, problem, hrun⟩ := (Step.move source target).run_cases fault? s
  · rw [hrun, Step.perform] at h
    split at h
    · obtain ⟨rfl, rfl⟩ := Prod.mk.inj h
      exact .inl ⟨rfl, nofun⟩
    · next files hmove =>
      obtain ⟨rfl, rfl⟩ := Prod.mk.inj h
      exact .inr ⟨files, hmove, rfl, rfl⟩
  · rw [hrun] at h
    obtain ⟨rfl, rfl⟩ := Prod.mk.inj h
    exact .inl ⟨rfl, nofun⟩

end Steps

/-! ## How far saving comes -/

section Progress

/-- How far saving has come: it has made some directories; it has put some content in the temporary
file; it has moved the file with its whole content to the target. -/
inductive Phase where
  | making
  | writing (content : ByteArray)
  | moved

/-- The files when saving has come so far. -/
inductive Progress (fs : FileSystem) (directory name text : Text) : Phase → FileSystem → Prop
  | making {made : FileSystem} (hmade : AddsDirectories (Path.ancestors directory) fs made) :
      Progress fs directory name text .making made
  | writing {made : FileSystem} {l : Location}
      (hmade : AddsDirectories (Path.ancestors directory) fs made)
      (hl : made.locate (temporaryPath directory name) = .ok l)
      (hd : made.lookup l ≠ some .directory) (content : ByteArray) :
      Progress fs directory name text (.writing content) (made.put l (.file content))
  | moved {made files : FileSystem} {l : Location}
      (hmade : AddsDirectories (Path.ancestors directory) fs made)
      (hl : made.locate (temporaryPath directory name) = .ok l)
      (hd : made.lookup l ≠ some .directory)
      (hmove : (made.put l (.file (text ++ ['\r', '\n']).bytes)).move
        (temporaryPath directory name) (targetPath directory name) = .ok files) :
      Progress fs directory name text .moved files

/-- The phases in which saving may fail at a step: the content of the temporary file is that of the
text and the line break, from its start on, and all of it if both could be written. -/
inductive Phase.Failed (text : Text) (step : Step) : Phase → Prop
  | making : Failed text step .making
  | writing {part rest : ByteArray} (hb : (text ++ ['\r', '\n']).bytes = part ++ rest)
      (hr : step = .write text ∨ step = .write ['\r', '\n'] ∨ rest = .empty) :
      Failed text step (.writing part)

variable {fs fs' : FileSystem} {directory name text path : Text}

/-- **How far saving comes.** If it succeeds, the file is moved; if it fails, it stops before that
at the step that is reported. -/
theorem run_plan {result : Except Failure Unit}
    (h : run faults { files := fs } (plan directory name text) = (s', result)) :
    (result = .ok () ∧ Progress fs directory name text .moved s'.files) ∨
      ∃ failure phase, result = .error failure ∧ Phase.Failed text failure.step phase ∧
        Progress fs directory name text phase s'.files := by
  -- The steps in their order: each fails or leaves the state in which the next one starts.
  obtain ⟨problem, hstep, rfl⟩ | ⟨s₁, hstep, h⟩ := run_cons_cases h
  · obtain ⟨made, hmade, rfl⟩ := run_makeDirectories hstep
    exact .inr ⟨_, _, rfl, .making, .making hmade⟩
  obtain ⟨made, hmade, rfl⟩ := run_makeDirectories hstep
  obtain ⟨problem, hstep, rfl⟩ | ⟨s₂, hstep, h⟩ := run_cons_cases h
  · obtain ⟨rfl, -⟩ | ⟨l, -, -, -, hok⟩ := run_openEmpty hstep
    · exact .inr ⟨_, _, rfl, .making, .making hmade⟩
    · cases hok
  obtain ⟨-, hok⟩ | ⟨l, hl, hd, rfl, -⟩ := run_openEmpty hstep
  · exact absurd rfl hok
  have hne : l ≠ [] := ne_nil_of_lookup_ne hd
  obtain ⟨problem, hstep, rfl⟩ | ⟨s₃, hstep, h⟩ := run_cons_cases h
  · obtain ⟨part, rest, hb, rfl, -⟩ := run_write hne hstep
    have hcontent : (text ++ ['\r', '\n']).bytes = part ++ (rest ++ Text.bytes ['\r', '\n']) := by
      rw [Text.bytes_append, hb, ByteArray.append_assoc]
    rw [ByteArray.empty_append]
    exact .inr ⟨_, _, rfl, .writing hcontent (.inl rfl), .writing hmade hl hd part⟩
  obtain ⟨part, rest, hb, rfl, hrest⟩ := run_write hne hstep
  obtain rfl : text.bytes = part := by rw [hb, hrest rfl, ByteArray.append_empty]
  obtain ⟨problem, hstep, rfl⟩ | ⟨s₄, hstep, h⟩ := run_cons_cases h
  · obtain ⟨part, rest, hb, rfl, -⟩ := run_write hne hstep
    have hcontent : (text ++ ['\r', '\n']).bytes = text.bytes ++ part ++ rest := by
      rw [Text.bytes_append, hb, ByteArray.append_assoc]
    rw [ByteArray.empty_append]
    exact .inr ⟨_, _, rfl, .writing hcontent (.inr (.inl rfl)),
      .writing hmade hl hd (text.bytes ++ part)⟩
  obtain ⟨part, rest, hb, rfl, hrest⟩ := run_write hne hstep
  obtain rfl : Text.bytes ['\r', '\n'] = part := by rw [hb, hrest rfl, ByteArray.append_empty]
  rw [ByteArray.empty_append, ← Text.bytes_append] at h
  -- The whole content is in the temporary file.
  have hwhole (step : Step) : Phase.Failed text step (.writing (text ++ ['\r', '\n']).bytes) :=
    .writing ByteArray.append_empty.symm (.inr (.inr rfl))
  obtain ⟨problem, hstep, rfl⟩ | ⟨s₅, hstep, h⟩ := run_cons_cases h
  · obtain rfl := run_flush hstep
    exact .inr ⟨_, _, rfl, hwhole _, .writing hmade hl hd _⟩
  obtain rfl := run_flush hstep
  obtain ⟨problem, hstep, rfl⟩ | ⟨s₆, hstep, h⟩ := run_cons_cases h
  · obtain ⟨rfl, -⟩ | ⟨files, -, -, hok⟩ := run_move hstep
    · exact .inr ⟨_, _, rfl, hwhole _, .writing hmade hl hd _⟩
    · cases hok
  obtain ⟨-, hok⟩ | ⟨files, hmove, rfl, -⟩ := run_move hstep
  · exact absurd rfl hok
  obtain ⟨rfl, rfl⟩ := Prod.mk.inj h
  exact .inl ⟨rfl, .moved hmade hl hd hmove⟩

end Progress

/-! ## Saving -/

section Save

variable {fs fs' : FileSystem} {directory name text path : Text}

/-- When saving succeeds, the file is moved. -/
theorem progress_of_save_ok (h : save faults fs directory name text = (fs', .ok path)) :
    path = targetPath directory name ∧ Progress fs directory name text .moved fs' := by
  unfold save at h
  split at h
  · next s hrun =>
    obtain ⟨rfl, hp⟩ := Prod.mk.inj h
    obtain ⟨-, hmoved⟩ | ⟨_, _, hfailed, -⟩ := run_plan hrun
    · exact ⟨(Except.ok.inj hp).symm, hmoved⟩
    · cases hfailed
  · cases (Prod.mk.inj h).2

/-- When saving fails, it has stopped at the step that it reports. -/
theorem progress_of_save_error {failure : Failure}
    (h : save faults fs directory name text = (fs', .error failure)) :
    ∃ phase, Phase.Failed text failure.step phase ∧
      Progress fs directory name text phase fs' := by
  unfold save at h
  split at h
  · cases (Prod.mk.inj h).2
  · next s failure' hrun =>
    obtain ⟨rfl, hf⟩ := Prod.mk.inj h
    obtain rfl := Except.error.inj hf
    obtain ⟨hok, -⟩ | ⟨failure, phase, hfailure, hphase, hprogress⟩ := run_plan hrun
    · cases hok
    · obtain rfl := Except.error.inj hfailure
      exact ⟨phase, hphase, hprogress⟩

end Save

end Saving

open Saving

/-- **A saved file** stands at the target and holds the text and a line break. -/
theorem readText_of_save {faults : Faults} {fs fs' : FileSystem} {directory name text path : Text}
    (h : save faults fs directory name text = (fs', .ok path)) :
    path = targetPath directory name ∧ fs'.readText path = .ok (text ++ ['\r', '\n']) := by
  obtain ⟨rfl, hmoved⟩ := progress_of_save_ok h
  cases hmoved with
  | @moved made _ l hmade hl hd hmove =>
    obtain ⟨l', m, content, hl', hc, hm, htarget⟩ := FileSystem.lookup_of_move hmove
    -- The temporary path leads to the file that was opened, before and after it was written.
    have hw := (FileSystem.keepsDirectories_put hd (.file (text ++ ['\r', '\n']).bytes)).locate hl
    obtain rfl : l = l' := Except.ok.inj (hw.symm.trans hl')
    rw [FileSystem.lookup_put_self made (FileSystem.ne_nil_of_lookup_ne hd)] at hc
    obtain rfl : (text ++ ['\r', '\n']).bytes = content := Entry.file.inj (Option.some.inj hc)
    exact ⟨rfl, FileSystem.readText_eq_ok_iff.2 ⟨m, _, hm, htarget, Text.ofBytes?_bytes _⟩⟩

end TableThrift
