import TableThrift.Proofs.Saving.Interruption
import TableThrift.Saving.Together

/-!
# Saving in any order of steps

Several calls save texts in one directory, and their steps come in any order, with any faults. Two
calls of different names have different files. Two calls of one name share the temporary file:
neither may open it while the other has it open. Then no target is ever half-written.

## Main definitions

* `Saving.Call.Busy`: a call has a file open and steps left
* `Saving.Together.Exclusive`: no two calls of one name are busy at once
* `Saving.Call.Stage`, `Saving.Together.Sound`: how far a call is, and what holds of all calls

## Main results

* `Saving.Together.files_run_alone`: a call that runs alone does what saving does
* `Saving.Together.Sound.step`, `Saving.Together.sound_run`: what a step and a run preserve
* `Saving.target_of_interleaved`: what the targets are after any steps
* `Saving.exists_interleaved`: two calls of one name that publish a part of a text
-/

namespace TableThrift

namespace Saving

open FileSystem

variable {ι : Type} {files files' : FileSystem} {l m : Location} {name text : Text}

/-! ## Open files -/

section Handles

/-- Bytes that are written at the end of some content stand behind it. -/
theorem overwrite_size (content more : ByteArray) :
    overwrite content content.size more = content ++ more := by
  rw [overwrite]
  split
  · next h =>
    have hempty : more = .empty := ByteArray.size_eq_zero_iff.1 h
    rw [hempty, ByteArray.append_empty]
  · rw [Nat.sub_self, ByteArray.extract_zero_size]
    have hnil : content.extract (content.size + more.size) content.size = .empty :=
      ByteArray.extract_eq_empty_iff.2 (by omega)
    have hgap : (⟨Array.replicate 0 0⟩ : ByteArray) = .empty := by
      rw [Array.replicate_zero]
      rfl
    rw [hnil, hgap, ByteArray.append_empty, ByteArray.append_empty]

/-- A file that is written at its end grows by what is written. -/
theorem Handle.write_at_end {content : ByteArray} (hl : files.lookup l = some (.file content))
    (more : ByteArray) :
    Handle.write files ⟨some l, content.size⟩ more =
      (files.put l (.file (content ++ more)), ⟨some l, (content ++ more).size⟩) := by
  simp only [Handle.write, hl]
  rw [overwrite_size, ByteArray.size_append]

/-- A file stays where it is when files at other locations are moved. -/
theorem Handle.afterMove_of_ne {source target : Location} {position : Nat} (hs : l ≠ source)
    (ht : l ≠ target) :
    Handle.afterMove source target ⟨some l, position⟩ = ⟨some l, position⟩ := by
  rw [afterMove]
  split
  · rfl
  · rw [if_neg (by simpa using hs), if_neg (by simpa using ht)]

end Handles

/-! ## How far a call is -/

section Stages

/-- A call has a file open and steps left. -/
def Call.Busy (c : Call) : Prop := c.opened ≠ none ∧ c.left ≠ []

instance (c : Call) : Decidable c.Busy :=
  inferInstanceAs (Decidable (c.opened ≠ none ∧ c.left ≠ []))

/-- The steps that are left when the temporary file has some content. -/
inductive Pending (directory name text : Text) : ByteArray → List Step → Prop
  | opened : Pending directory name text .empty ((plan directory name text).drop 2)
  | written : Pending directory name text text.bytes ((plan directory name text).drop 3)
  | complete : Pending directory name text (text ++ ['\r', '\n']).bytes
      ((plan directory name text).drop 4)
  | flushed : Pending directory name text (text ++ ['\r', '\n']).bytes
      ((plan directory name text).drop 5)

/-- How far a call is that saves in the directory at a location: it is about to make the directory
or to open its file; it has its file open, which is written at its end; it has ended. -/
inductive Call.Stage (directory name text : Text) (d : Location) (files : FileSystem) : Call → Prop
  | started : Stage directory name text d files ⟨none, plan directory name text⟩
  | ready : Stage directory name text d files ⟨none, (plan directory name text).drop 1⟩
  | writing {content : ByteArray} {left : List Step}
      (hleft : Pending directory name text content left)
      (hl : files.lookup (d ++ [temporaryName name]) = some (.file content)) :
      Stage directory name text d files
        ⟨some ⟨some (d ++ [temporaryName name]), content.size⟩, left⟩
  | ended (opened : Option Handle) : Stage directory name text d files ⟨opened, []⟩

variable {directory : Text} {d : Location} {c : Call}

theorem Pending.suffix {content : ByteArray} {left : List Step}
    (h : Pending directory name text content left) : left <:+ plan directory name text := by
  cases h <;> exact List.drop_suffix _ _

theorem Pending.ne_nil {content : ByteArray} {left : List Step}
    (h : Pending directory name text content left) : left ≠ [] := by
  cases h <;> exact List.cons_ne_nil _ _

theorem Call.Stage.suffix (h : c.Stage directory name text d files) :
    c.left <:+ plan directory name text := by
  cases h with
  | started => exact List.suffix_refl _
  | ready => exact List.drop_suffix 1 _
  | writing hleft _ => exact hleft.suffix
  | ended _ => exact List.nil_suffix

/-- A call is as far on files where its own temporary file is the same, if it has it open. -/
theorem Call.Stage.congr (h : c.Stage directory name text d files)
    (heq : c.Busy → files'.lookup (d ++ [temporaryName name]) =
      files.lookup (d ++ [temporaryName name])) :
    c.Stage directory name text d files' := by
  cases h with
  | started => exact .started
  | ready => exact .ready
  | writing hleft hl => exact .writing hleft ((heq ⟨nofun, hleft.ne_nil⟩).trans hl)
  | ended opened => exact .ended opened

/-- A call is as far when other files are moved than the one that it has open. -/
theorem Call.Stage.carried (h : c.Stage directory name text d files) {f : Handle → Handle}
    (hf : c.Busy → ∀ position, f ⟨some (d ++ [temporaryName name]), position⟩ =
      ⟨some (d ++ [temporaryName name]), position⟩) :
    Call.Stage directory name text d files ⟨c.opened.map f, c.left⟩ := by
  cases h with
  | started => exact .started
  | ready => exact .ready
  | writing hleft hl =>
    rw [Option.map_some, hf ⟨nofun, hleft.ne_nil⟩]
    exact .writing hleft hl
  | ended opened => exact .ended _

end Stages

/-! ## One step of a call -/

section Step

variable [DecidableEq ι] {s : Together ι} {i j : ι} {fault? : Option Fault} {step : Step}
  {left : List Step} {opened opened' : Option Handle} {directory : Text} {d : Location} {c : Call}

theorem Together.step_of_nil (h : (s.calls i).left = []) : s.step i fault? = s := by
  rw [Together.step, h]

theorem Together.step_of_error {problem : Problem} (hc : s.calls i = ⟨opened, step :: left⟩)
    (h : step.runOpened fault? s.files opened = ((files, opened'), .error problem)) :
    s.step i fault? =
      { files, calls := fun j => if j = i then ⟨opened', []⟩ else s.calls j } := by
  simp only [Together.step, hc, h]

theorem Together.step_of_ok (hc : s.calls i = ⟨opened, step :: left⟩)
    (h : step.runOpened fault? s.files opened = ((files, opened'), .ok ())) :
    s.step i fault? =
      { files
        calls := fun j =>
          let call := if j = i then ⟨opened', left⟩ else s.calls j
          { call with opened := call.opened.map (step.carry s.files) } } := by
  simp only [Together.step, hc, h]

/-- Another call stays as it is, but for its open file when a file is moved. -/
theorem Together.calls_step_of_ne (s : Together ι) (fault? : Option Fault) (h : j ≠ i) :
    (s.step i fault?).calls j = s.calls j ∨ ∃ source target left,
      (s.calls i).left = .move source target :: left ∧
        (s.step i fault?).calls j =
          ⟨(s.calls j).opened.map ((Step.move source target).carry s.files),
            (s.calls j).left⟩ := by
  cases hc : s.calls i with
  | mk opened left =>
    cases left with
    | nil => exact .inl (by rw [step_of_nil (by rw [hc])])
    | cons step left =>
      cases hr : step.runOpened fault? s.files opened with
      | mk after result =>
        cases result with
        | error problem =>
          rw [step_of_error hc hr]
          exact .inl (if_neg h)
        | ok _ =>
          rw [step_of_ok hc hr]
          simp only [if_neg h]
          cases step with
          | move source target => exact .inr ⟨source, target, left, rfl, rfl⟩
          | _ => exact .inl (congrArg (Call.mk · _) Option.map_id')

/-- The steps of a plan move no file but the two of the plan's name. -/
theorem Step.carry_of_mem_plan {position : Nat} (hname : '/' ∉ name)
    (hstep : step ∈ plan directory name text) (hb : files.base directory = .ok d)
    (hl : l ≠ d ++ [temporaryName name]) (hm : l ≠ d ++ [targetName name]) :
    step.carry files ⟨some l, position⟩ = ⟨some l, position⟩ := by
  cases step with
  | move source target =>
    obtain ⟨rfl, rfl⟩ : source = temporaryPath directory name ∧
        target = targetPath directory name := by simpa [plan] using hstep
    rw [carry]
    split
    · next hsource htarget =>
      obtain ⟨d₁, hd₁, -, rfl⟩ := locate_temporaryPath hname hsource
      obtain ⟨d₂, hd₂, -, rfl⟩ := locate_targetPath hname htarget
      obtain rfl : d = d₁ := Except.ok.inj (hb.symm.trans hd₁)
      obtain rfl : d = d₂ := Except.ok.inj (hb.symm.trans hd₂)
      exact Handle.afterMove_of_ne hl hm
    · rfl
  | _ => rfl

/-- What one step of a call changes: it loses no directory, touches the two files of its name alone,
and leaves the target as it was or with the whole text. Nothing changes while the call is not
busy. -/
structure Together.Effect (d : Location) (name text : Text) (busy : Prop)
    (files files' : FileSystem) : Prop where
  keeps : files.KeepsDirectories files'
  target : files'.lookup (d ++ [targetName name]) = files.lookup (d ++ [targetName name]) ∨
    files'.lookup (d ++ [targetName name]) = some (.file (text ++ ['\r', '\n']).bytes)
  other : ∀ m, m ≠ d ++ [temporaryName name] → m ≠ d ++ [targetName name] →
    files'.lookup m = files.lookup m
  idle : ¬ busy → files' = files

theorem Together.Effect.refl (d : Location) (name text : Text) (busy : Prop)
    (files : FileSystem) : Effect d name text busy files files :=
  ⟨⟨rfl, fun _ h => h⟩, .inl rfl, fun _ _ _ => rfl, fun _ => rfl⟩

theorem Together.effect_put {busy : Prop} (hbusy : busy)
    (hd : files.lookup (d ++ [temporaryName name]) ≠ some .directory) (content : ByteArray) :
    Effect d name text busy files (files.put (d ++ [temporaryName name]) (.file content)) := by
  have hdiff : d ++ [targetName name] ≠ d ++ [temporaryName name] :=
    location_ne d (temporaryName_ne_targetName name name).symm
  exact ⟨keepsDirectories_put hd _, .inl (lookup_put_of_ne _ hdiff _),
    fun m hm _ => lookup_put_of_ne _ hm _, fun h => absurd hbusy h⟩

/-- A step other than writing does what it does in a run, and keeps the open file if it opens no
other. -/
theorem Step.runOpened_of_run {t : State} {result : Except Problem Unit}
    (h : step.run fault? { files } = (t, result)) (hw : ∀ more, step ≠ .write more) :
    step.runOpened fault? files opened =
      ((t.files, (t.opened.map fun l => { location := some l, position := 0 }).or opened),
        result) := by
  cases step with
  | write more => exact absurd rfl (hw more)
  | _ => cases opened <;> simp only [runOpened, h]

/-- A step that leaves the files as they are ends a call or takes it on. -/
theorem Call.Stage.advance_idle {result : Except Problem Unit}
    (hc : s.calls i = ⟨opened, step :: left⟩)
    (hrun : step.runOpened fault? s.files opened = ((s.files, opened'), result))
    (hok : result = .ok () →
      Call.Stage directory name text d s.files ⟨opened'.map (step.carry s.files), left⟩) :
    ((s.step i fault?).calls i).Stage directory name text d (s.step i fault?).files ∧
      Together.Effect d name text ((s.calls i).Busy ∨ ((s.step i fault?).calls i).Busy) s.files
        (s.step i fault?).files := by
  cases result with
  | error problem =>
    rw [Together.step_of_error hc hrun]
    simp only [if_pos]
    exact ⟨.ended _, .refl _ _ _ _ _⟩
  | ok _ =>
    rw [Together.step_of_ok hc hrun]
    simp only [if_pos]
    exact ⟨hok rfl, .refl _ _ _ _ _⟩

/-- A call that writes has more in its file afterwards, all of the text if nothing fails. -/
theorem Call.Stage.advance_write {content : ByteArray} {more : Text}
    (hc : s.calls i =
      ⟨some ⟨some (d ++ [temporaryName name]), content.size⟩, .write more :: left⟩)
    (hl : s.files.lookup (d ++ [temporaryName name]) = some (.file content))
    (hleft : Pending directory name text (content ++ more.bytes) left) :
    ((s.step i fault?).calls i).Stage directory name text d (s.step i fault?).files ∧
      Together.Effect d name text ((s.calls i).Busy ∨ ((s.step i fault?).calls i).Busy) s.files
        (s.step i fault?).files := by
  have hfile : s.files.lookup (d ++ [temporaryName name]) ≠ some .directory := by
    rw [hl]
    exact nofun
  have hbusy : (s.calls i).Busy := by
    rw [hc]
    exact ⟨nofun, List.cons_ne_nil _ _⟩
  -- Whether it is the whole text or a part of it, it comes behind the content.
  cases hfault : fault?.filter (·.done < (Step.write more).size) with
  | some fault =>
    have hrun : Step.runOpened fault? s.files
        (some ⟨some (d ++ [temporaryName name]), content.size⟩) (.write more) =
          ((s.files.put (d ++ [temporaryName name])
              (.file (content ++ more.bytes.extract 0 fault.done)),
            some ⟨some (d ++ [temporaryName name]),
              (content ++ more.bytes.extract 0 fault.done).size⟩), .error fault.problem) := by
      simp only [Step.runOpened, Handle.writeText, hfault, Handle.write_at_end hl]
    rw [Together.step_of_error hc hrun]
    simp only [if_pos]
    exact ⟨.ended _, Together.effect_put (.inl hbusy) hfile _⟩
  | none =>
    have hrun : Step.runOpened fault? s.files
        (some ⟨some (d ++ [temporaryName name]), content.size⟩) (.write more) =
          ((s.files.put (d ++ [temporaryName name]) (.file (content ++ more.bytes)),
            some ⟨some (d ++ [temporaryName name]), (content ++ more.bytes).size⟩), .ok ()) := by
      simp only [Step.runOpened, Handle.writeText, hfault, Handle.write_at_end hl]
    rw [Together.step_of_ok hc hrun]
    simp only [if_pos]
    exact ⟨.writing hleft (lookup_put_self _ (ne_nil_of_lookup_ne hfile) _),
      Together.effect_put (.inl hbusy) hfile _⟩

/-- In a directory that is there, making it changes nothing, whether it succeeds or fails. -/
theorem run_makeDirectories_of_base (hb : files.base directory = .ok d)
    (hd : files.lookup d = some .directory) :
    ((Step.makeDirectories directory).run fault? { files }).1 = { files } := by
  obtain hrun | ⟨n, -, problem, hrun⟩ :=
    (Step.makeDirectories directory).run_cases fault? { files }
  · rw [hrun, Step.perform, makeDirectories]
    exact congrArg (State.mk · none) (makeChain_of_base hb hd (List.Subset.refl _))
  · rw [hrun]
    exact congrArg (State.mk · none) (makeChain_of_base hb hd (List.drop_subset _ _))

/-- A step of a call takes it on by one stage or ends it, and has no more effect than a call may
have. -/
theorem Call.Stage.advance (hname : '/' ∉ name)
    (hstage : (s.calls i).Stage directory name text d s.files)
    (hb : s.files.base directory = .ok d) (hd : s.files.lookup d = some .directory) :
    ((s.step i fault?).calls i).Stage directory name text d (s.step i fault?).files ∧
      Together.Effect d name text ((s.calls i).Busy ∨ ((s.step i fault?).calls i).Busy) s.files
        (s.step i fault?).files := by
  obtain ⟨c, hc⟩ : ∃ c, s.calls i = c := ⟨_, rfl⟩
  rw [hc] at hstage
  cases hstage with
  | started =>
    have hmake : (Step.makeDirectories directory).run fault? { files := s.files } =
        ({ files := s.files },
          ((Step.makeDirectories directory).run fault? { files := s.files }).2) :=
      Prod.ext (run_makeDirectories_of_base hb hd) rfl
    exact advance_idle hc (Step.runOpened_of_run hmake fun _ => nofun) fun _ => .ready
  | ready =>
    cases hopen : (Step.openEmpty (temporaryPath directory name)).run fault?
      { files := s.files } with
    | mk t result =>
      have hrun : Step.runOpened fault? s.files none _ = _ :=
        Step.runOpened_of_run hopen fun _ => nofun
      obtain ⟨rfl, hne⟩ | ⟨l, hl, hfree, rfl, rfl⟩ := run_openEmpty hopen
      · exact advance_idle hc hrun fun hok => absurd hok hne
      · obtain ⟨d', hd', -, rfl⟩ := locate_temporaryPath hname hl
        obtain rfl : d = d' := Except.ok.inj (hb.symm.trans hd')
        rw [Together.step_of_ok hc hrun]
        simp only [if_pos, Option.map_some]
        refine ⟨.writing .opened (lookup_put_self _ (ne_nil_of_lookup_ne hfree) _), ?_⟩
        exact Together.effect_put (.inr ⟨Option.some_ne_none _, List.cons_ne_nil _ _⟩) hfree _
  | @writing content left hleft hl =>
    cases hleft with
    | opened =>
      refine advance_write hc hl ?_
      rw [ByteArray.empty_append]
      exact .written
    | written =>
      refine advance_write hc hl ?_
      rw [← Text.bytes_append]
      exact .complete
    | complete =>
      cases hflush : Step.flush.run fault? { files := s.files } with
      | mk t result =>
        obtain rfl := run_flush hflush
        exact advance_idle hc (Step.runOpened_of_run hflush fun _ => nofun)
          fun _ => .writing .flushed hl
    | flushed =>
      cases hmove : (Step.move (temporaryPath directory name) (targetPath directory name)).run
        fault? { files := s.files } with
      | mk t result =>
        have hrun (opened : Option Handle) : Step.runOpened fault? s.files opened _ = _ :=
          Step.runOpened_of_run hmove fun _ => nofun
        obtain ⟨rfl, hne⟩ | ⟨moved, hmoved, rfl, rfl⟩ := run_move hmove
        · exact advance_idle hc (hrun _) fun hok => absurd hok hne
        · obtain ⟨hkeeps, htarget, -, hother⟩ := lookup_moved hname hb hl hmoved
          have hbusy : (s.calls i).Busy := by
            rw [hc]
            exact ⟨Option.some_ne_none _, List.cons_ne_nil _ _⟩
          rw [Together.step_of_ok hc (hrun _)]
          simp only [if_pos]
          exact ⟨.ended _, hkeeps, .inr htarget, hother, fun h => absurd (.inl hbusy) h⟩
  | ended opened =>
    rw [Together.step_of_nil (by rw [hc]), hc]
    exact ⟨.ended opened, .refl _ _ _ _ _⟩

end Step

/-! ## One call alone -/

section Turns

/-- The turns of one call, as many as given, with what goes wrong in each. -/
def turns (i : ι) (faults : Faults) (n : ℕ) : Schedule ι :=
  (List.range n).map fun k => (i, faults k)

theorem turns_succ (i : ι) (faults : Faults) (n : ℕ) :
    turns i faults (n + 1) = (i, faults 0) :: turns i (fun k => faults (k + 1)) n := by
  rw [turns, List.range_succ_eq_map, List.map_cons, List.map_map]
  rfl

theorem fst_of_mem_turns {i : ι} {faults : Faults} {n : ℕ} {turn : ι × Option Fault}
    (h : turn ∈ turns i faults n) : turn.1 = i := by
  obtain ⟨k, -, rfl⟩ := List.mem_map.1 h
  rfl

end Turns

section Alone

variable [DecidableEq ι] {s : Together ι} {t : State} {i : ι} {fault? : Option Fault}
  {opened : Option Handle}

/-- The open file of a call is the one that a run has open, and is written at its end. -/
def Handle.Matches (t : State) : Option Handle → Prop
  | none => t.opened = none
  | some h => ∃ l content, t.opened = some l ∧ t.files.lookup l = some (.file content) ∧
      h = ⟨some l, content.size⟩

/-- A step other than writing does the same with and without an open file, which stays open if the
step opens no other. -/
theorem Step.run_of_opened {step : Step} (hw : ∀ more, step ≠ .write more) (t : State) :
    step.run fault? t =
      (⟨(step.run fault? { files := t.files }).1.files,
        (step.run fault? { files := t.files }).1.opened.or t.opened⟩,
        (step.run fault? { files := t.files }).2) := by
  rw [run, run]
  cases fault?.filter (·.done < step.size) with
  | some fault =>
    cases step with
    | write more => exact absurd rfl (hw more)
    | _ => rfl
  | none =>
    cases step with
    | write more => exact absurd rfl (hw more)
    | makeDirectories directory => rfl
    | openEmpty path =>
      simp only [perform]
      cases t.files.openEmpty path <;> rfl
    | flush => rfl
    | move source target =>
      simp only [perform]
      cases t.files.move source target <;> rfl

/-- Writing to the open file of a call does what it does in a run, with and without a fault. -/
theorem Step.runOpened_write_of_matches (text : Text) (fault? : Option Fault)
    (hm : Handle.Matches t opened) :
    ∃ opened', (write text).runOpened fault? t.files opened =
        ((((write text).run fault? t).1.files, opened'), ((write text).run fault? t).2) ∧
      (((write text).run fault? t).2 = .ok () →
        Handle.Matches ((write text).run fault? t).1 opened') := by
  cases opened with
  | none =>
    -- Without an open file nothing is written.
    obtain ⟨files, _⟩ := t
    obtain rfl := hm
    refine ⟨none, ?_, fun _ => ?_⟩
    · simp only [runOpened, run]
      cases fault?.filter (·.done < (write text).size) <;> rfl
    · simp only [run]
      cases fault?.filter (·.done < (write text).size) <;> rfl
  | some h =>
    obtain ⟨l, content, hl, hc, rfl⟩ := hm
    have hne : l ≠ [] := ne_nil_of_lookup_ne (by rw [hc]; simp)
    simp only [runOpened, Handle.writeText, run]
    cases fault?.filter (·.done < (write text).size) with
    | some fault =>
      refine ⟨some ⟨some l, (content ++ text.bytes.extract 0 fault.done).size⟩, ?_, nofun⟩
      simp only [Handle.write_at_end hc, part, hl, append_of_lookup hc]
    | none =>
      refine ⟨some ⟨some l, (content ++ text.bytes).size⟩, ?_, fun _ => ?_⟩
      · simp only [Handle.write_at_end hc, perform, hl, append_of_lookup hc]
      · simp only [perform, hl, append_of_lookup hc]
        exact ⟨l, _, rfl, lookup_put_self _ hne _, rfl⟩

/-- A step of a call does what it does in a run, with and without a fault. -/
theorem Step.runOpened_of_matches (step : Step) (fault? : Option Fault)
    (hm : Handle.Matches t opened) :
    ∃ opened', step.runOpened fault? t.files opened =
        (((step.run fault? t).1.files, opened'), (step.run fault? t).2) ∧
      ((step.run fault? t).2 = .ok () → (∀ source target, step ≠ .move source target) →
        Handle.Matches (step.run fault? t).1 opened') := by
  by_cases hw : ∃ text, step = .write text
  · obtain ⟨text, rfl⟩ := hw
    obtain ⟨opened', hrun, hm'⟩ := runOpened_write_of_matches text fault? hm
    exact ⟨opened', hrun, fun hok _ => hm' hok⟩
  · push Not at hw
    cases hr : step.run fault? { files := t.files } with
    | mk t' result =>
      have hrun : step.runOpened fault? t.files opened = _ := runOpened_of_run hr hw
      rw [run_of_opened hw, hr]
      refine ⟨_, hrun, fun hok hmove => ?_⟩
      cases step with
      | makeDirectories directory =>
        obtain ⟨made, hmade, rfl⟩ := run_makeDirectories hr
        cases opened with
        | none => exact hm
        | some h =>
          obtain ⟨l, content, hl, hc, rfl⟩ := hm
          refine ⟨l, content, hl, ?_, rfl⟩
          obtain hsame | ⟨hnone, -⟩ := hmade.lookup l
          · exact hsame.trans hc
          · rw [hc] at hnone
            cases hnone
      | openEmpty path =>
        obtain ⟨-, hne⟩ | ⟨l, -, hfree, rfl, -⟩ := run_openEmpty hr
        · exact absurd hok hne
        · exact ⟨l, .empty, rfl, lookup_put_self _ (ne_nil_of_lookup_ne hfree) _, rfl⟩
      | write text => exact absurd rfl (hw text)
      | flush =>
        obtain rfl := run_flush hr
        exact hm
      | move source target => exact absurd rfl (hmove source target)

/-- A call that has ended stays as it is. -/
theorem Together.run_of_nil (h : (s.calls i).left = []) {schedule : Schedule ι}
    (hi : ∀ turn ∈ schedule, turn.1 = i) : s.run schedule = s := by
  induction schedule with
  | nil => rfl
  | cons turn schedule ih =>
    rw [run, List.foldl_cons, hi turn List.mem_cons_self, step_of_nil h, ← run]
    exact ih fun turn' h' => hi turn' (List.mem_cons_of_mem turn h')

/-- Steps of a call alone do to the files what a run of them does, if nothing follows a move. -/
theorem Together.files_run_turns {faults : Faults} {steps : List Step}
    (hlast : ∀ source target rest, .move source target :: rest <:+ steps → rest = [])
    (hc : s.calls i = ⟨opened, steps⟩) (hfiles : s.files = t.files)
    (hm : Handle.Matches t opened) :
    (s.run (turns i faults steps.length)).files = (Saving.run faults t steps).1.files := by
  induction steps generalizing faults s t opened with
  | nil => exact hfiles
  | cons step left ih =>
    obtain ⟨opened', hrun, hm'⟩ := step.runOpened_of_matches (faults 0) hm
    rw [← hfiles] at hrun
    rw [List.length_cons, turns_succ, Together.run, List.foldl_cons, ← Together.run, Saving.run]
    cases hr : step.run (faults 0) t with
    | mk t' result =>
      rw [hr] at hrun hm'
      cases result with
      | error problem =>
        rw [step_of_error hc hrun, run_of_nil (by simp only [if_pos]) fun _ => fst_of_mem_turns]
      | ok _ =>
        rw [step_of_ok hc hrun]
        by_cases hmove : ∃ source target, step = .move source target
        · obtain ⟨source, target, rfl⟩ := hmove
          obtain rfl := hlast source target left List.suffix_rfl
          rfl
        · push Not at hmove
          refine ih (fun source target rest h => hlast source target rest (h.trans
            (List.suffix_cons step left))) ?_ rfl (hm' rfl hmove)
          simp only [if_pos]
          cases step with
          | move source target => exact absurd rfl (hmove source target)
          | _ => exact congrArg (Call.mk · left) Option.map_id'

/-- A call that runs alone saves its text. -/
theorem Together.files_run_alone (faults : Faults) (fs : FileSystem) (directory : Text)
    (names texts : ι → Text) (i : ι) :
    ((Together.start fs directory names texts).run (turns i faults 6)).files =
      (save faults fs directory (names i) (texts i)).1 := by
  have hrun : (save faults fs directory (names i) (texts i)).1 =
      (Saving.run faults { files := fs } (plan directory (names i) (texts i))).1.files := by
    unfold save
    split <;> next h => rw [h]
  rw [hrun]
  have hlast : ∀ source target rest,
      Step.move source target :: rest <:+ plan directory (names i) (texts i) → rest = [] := by
    intro source target rest h
    have hmove : (source = temporaryPath directory (names i) ∧
        target = targetPath directory (names i)) ∧ rest = [] := by
      simpa [plan, List.suffix_cons_iff] using h
    exact hmove.2
  exact files_run_turns hlast rfl rfl rfl

end Alone

/-! ## All calls -/

section Run

variable {fs : FileSystem} {directory : Text} {d : Location} {names texts : ι → Text}
  {s : Together ι}

/-- No two calls of one name are busy at once. -/
def Together.Exclusive (names : ι → Text) (s : Together ι) : Prop :=
  ∀ i j, i ≠ j → names i = names j → ¬ ((s.calls i).Busy ∧ (s.calls j).Busy)

/-- What holds of all calls at every moment: no directory is lost, each call is at some stage, and
each target is as it was or has the whole text of a call of its name. -/
structure Together.Sound (fs : FileSystem) (directory : Text) (d : Location)
    (names texts : ι → Text) (s : Together ι) : Prop where
  keeps : fs.KeepsDirectories s.files
  stage : ∀ i, (s.calls i).Stage directory (names i) (texts i) d s.files
  target : ∀ i, s.files.lookup (d ++ [targetName (names i)]) =
      fs.lookup (d ++ [targetName (names i)]) ∨
    ∃ j, names j = names i ∧ s.files.lookup (d ++ [targetName (names i)]) =
      some (.file (texts j ++ ['\r', '\n']).bytes)

theorem Together.sound_start (fs : FileSystem) (directory : Text) (d : Location)
    (names texts : ι → Text) :
    Sound fs directory d names texts (Together.start fs directory names texts) :=
  ⟨⟨rfl, fun _ h => h⟩, fun _ => .started, fun _ => .inl rfl⟩

/-- A call whose next step moves a file is busy. -/
theorem Call.Stage.busy_of_move {c : Call} {name text source target : Text} {left : List Step}
    (h : c.Stage directory name text d files) (hleft : c.left = .move source target :: left) :
    c.Busy := by
  cases h with
  | started => cases hleft
  | ready => cases hleft
  | writing hpending _ => exact ⟨nofun, hpending.ne_nil⟩
  | ended _ => cases hleft

variable [DecidableEq ι]

/-- The step of one call keeps what holds of all, if no call of its name is busy when it is. -/
theorem Together.Sound.step (hs : Sound fs directory d names texts s)
    (hnames : ∀ i, '/' ∉ names i) (hb : fs.base directory = .ok d)
    (hd : fs.lookup d = some .directory) (i : ι) (fault? : Option Fault)
    (hbefore : s.Exclusive names) (hafter : (s.step i fault?).Exclusive names) :
    Sound fs directory d names texts (s.step i fault?) := by
  have hb' := hs.keeps.base hb
  obtain ⟨hstage, heffect⟩ :=
    @Call.Stage.advance _ _ _ _ _ _ fault? _ _ (hnames i) (hs.stage i) hb' (hs.keeps.directory d hd)
  -- A busy call of the same name leaves nothing to do for this one.
  have hidle {j : ι} (hij : j ≠ i) (hn : names j = names i) (hj : (s.calls j).Busy)
      (hj' : ((s.step i fault?).calls j).Busy) : (s.step i fault?).files = s.files := by
    refine heffect.idle ?_
    rintro (hi | hi)
    · exact hbefore j i hij hn ⟨hj, hi⟩
    · exact hafter j i hij hn ⟨hj', hi⟩
  -- A call of another name has another temporary file.
  have hother {j : ι} (hn : names j ≠ names i) :
      d ++ [temporaryName (names j)] ≠ d ++ [temporaryName (names i)] ∧
        d ++ [temporaryName (names j)] ≠ d ++ [targetName (names i)] :=
    ⟨location_ne d fun h => hn (temporaryName_injective h),
      location_ne d (temporaryName_ne_targetName _ _)⟩
  refine ⟨hs.keeps.trans heffect.keeps, fun j => ?_, fun j => ?_⟩
  · by_cases hij : j = i
    · exact hij ▸ hstage
    · obtain hsame | ⟨source, target, left, hleft, hmoved⟩ := calls_step_of_ne s fault? hij
      · rw [hsame]
        refine (hs.stage j).congr fun hbusy => ?_
        by_cases hn : names j = names i
        · rw [hidle hij hn hbusy (hsame ▸ hbusy)]
        · exact heffect.other _ (hother hn).1 (hother hn).2
      · have hne (hbusy : (s.calls j).Busy) : names j ≠ names i := fun hn =>
          hbefore j i hij hn ⟨hbusy, (hs.stage i).busy_of_move hleft⟩
        have hplan : Step.move source target ∈ plan directory (names i) (texts i) :=
          (hs.stage i).suffix.subset (hleft ▸ List.mem_cons_self)
        rw [hmoved]
        refine Call.Stage.carried ?_ fun hbusy position => ?_
        · exact (hs.stage j).congr fun hbusy =>
            heffect.other _ (hother (hne hbusy)).1 (hother (hne hbusy)).2
        · exact Step.carry_of_mem_plan (hnames i) hplan hb' (hother (hne hbusy)).1
            (hother (hne hbusy)).2
  · by_cases hn : names i = names j
    · -- The target of this very name: its step may have put the whole text there.
      rw [← hn]
      obtain hsame | htext := heffect.target
      · rw [hsame]
        exact hs.target i
      · exact .inr ⟨i, rfl, htext⟩
    · have htemporary : d ++ [targetName (names j)] ≠ d ++ [temporaryName (names i)] :=
        location_ne d (temporaryName_ne_targetName _ _).symm
      have htarget : d ++ [targetName (names j)] ≠ d ++ [targetName (names i)] :=
        location_ne d fun h => hn (targetName_injective h).symm
      rw [heffect.other _ htemporary htarget]
      exact hs.target j

/-- What holds of all calls after any steps in any order, if no two calls of one name were ever busy
at once. -/
theorem Together.sound_run (hnames : ∀ i, '/' ∉ names i) (hb : fs.base directory = .ok d)
    (hd : fs.lookup d = some .directory) (schedule : Schedule ι)
    (hexclusive : ∀ past, past <+: schedule →
      ((Together.start fs directory names texts).run past).Exclusive names) :
    Sound fs directory d names texts ((Together.start fs directory names texts).run schedule) := by
  induction schedule using List.reverseRecOn with
  | nil => exact sound_start fs directory d names texts
  | append_singleton past turn ih =>
    have hpast : past <+: past ++ [turn] := List.prefix_append past [turn]
    have hsound := ih fun earlier h => hexclusive earlier (h.trans hpast)
    have hafter := hexclusive (past ++ [turn]) List.prefix_rfl
    rw [run, List.foldl_append] at hafter ⊢
    exact hsound.step hnames hb hd turn.1 turn.2 (hexclusive past hpast) hafter

/-- **Targets of calls in any order.** Calls save texts in a directory that exists, and no two of
one name are busy at once, as is the case if all names differ. After any of their steps in any
order, with any faults, each target is as it was before all of them or has the whole text, with a
line break, of a call of its name. -/
theorem target_of_interleaved (hnames : ∀ i, '/' ∉ names i) (hb : fs.base directory = .ok d)
    (hd : fs.lookup d = some .directory) (schedule : Schedule ι)
    (hexclusive : ∀ past, past <+: schedule →
      ((Together.start fs directory names texts).run past).Exclusive names) (i : ι) :
    let files := ((Together.start fs directory names texts).run schedule).files
    (∀ m, files.locate (targetPath directory (names i)) = .ok m ↔
      fs.locate (targetPath directory (names i)) = .ok m) ∧
    ∀ m, files.locate (targetPath directory (names i)) = .ok m →
      files.lookup m = fs.lookup m ∨
      ∃ j, names j = names i ∧
        files.lookup m = some (.file (texts j ++ ['\r', '\n']).bytes) := by
  intro files
  have hsound := Together.sound_run hnames hb hd schedule hexclusive
  have hb' : files.base directory = .ok d := hsound.keeps.base hb
  have hd' : files.lookup d = some .directory := hsound.keeps.directory d hd
  refine ⟨fun m => ?_, fun m hm => ?_⟩
  · -- The directory is at the same place, so its names are.
    rw [locate_targetPath_iff (hnames i), locate_targetPath_iff (hnames i)]
    simp only [hb, hd, hb', hd', Except.ok.injEq, exists_eq_left', true_and]
  · obtain ⟨d', hd', -, rfl⟩ := locate_targetPath (hnames i) hm
    obtain rfl : d = d' := Except.ok.inj (hb'.symm.trans hd')
    exact hsound.target i

/-- Two calls of one name, one after the other; the second has opened the temporary file again and
not written yet. -/
theorem target_of_interleaved_twice :
    let fs : FileSystem := ⟨[(["d".toList], .directory)], []⟩
    let names : Bool → Text := fun _ => "A".toList
    let texts : Bool → Text := fun i => if i then "two".toList else "one".toList
    let schedule := turns false (fun _ => none) 6 ++ turns true (fun _ => none) 2
    let run := (Together.start fs "d".toList names texts).run
    (∀ i, '/' ∉ names i) ∧ fs.base "d".toList = .ok ["d".toList] ∧
      fs.lookup ["d".toList] = some .directory ∧
      (∀ past, past <+: schedule → (run past).Exclusive names) ∧
      ((run schedule).calls true).Busy ∧
      ∃ j, (run schedule).files.lookup ["d".toList, "A.thrift".toList] =
        some (.file (texts j ++ ['\r', '\n']).bytes) := by
  intro fs names texts schedule run
  have hnames : ∀ i, '/' ∉ names i := fun _ => by decide
  have hb : fs.base "d".toList = .ok ["d".toList] := by decide +kernel
  have hd : fs.lookup ["d".toList] = some .directory := by decide +kernel
  have hinits : ∀ past ∈ schedule.inits, ∀ i j : Bool, i ≠ j → names i = names j →
      ¬ (((run past).calls i).Busy ∧ ((run past).calls j).Busy) := by decide +kernel
  have hexclusive : ∀ past, past <+: schedule → (run past).Exclusive names := fun past h =>
    hinits past ((List.mem_inits past schedule).2 h)
  refine ⟨hnames, hb, hd, hexclusive, by decide +kernel, ?_⟩
  obtain hsame | ⟨j, -, hj⟩ :=
    (target_of_interleaved hnames hb hd schedule hexclusive true).2
      ["d".toList, "A.thrift".toList] (by decide +kernel)
  · exact absurd hsame (by decide +kernel)
  · exact ⟨j, hj⟩

/-- Two calls of one name that are busy at once: one has written its text, the other opens the same
temporary file and empties it, and the first moves it to the target. -/
theorem exists_interleaved :
    ¬ ∀ (fs : FileSystem) (directory : Text) (d : Location) (names texts : Bool → Text)
      (schedule : Schedule Bool), (∀ i, '/' ∉ names i ∧ '\x00' ∉ names i) →
      fs.base directory = .ok d → fs.lookup d = some .directory →
      ∀ i m, fs.locate (targetPath directory (names i)) = .ok m →
        ((Together.start fs directory names texts).run schedule).files.lookup m = fs.lookup m ∨
        ∃ j, names j = names i ∧
          ((Together.start fs directory names texts).run schedule).files.lookup m =
            some (.file (texts j ++ ['\r', '\n']).bytes) := by
  intro h
  obtain hsame | ⟨j, -, hj⟩ := h ⟨[(["d".toList], .directory)], []⟩ "d".toList ["d".toList]
    (fun _ => "A".toList) (fun _ => "text".toList)
    (turns false (fun _ => none) 5 ++ turns true (fun _ => none) 2 ++
      turns false (fun _ => none) 1) (fun _ => by decide)
    (by decide +kernel) (by decide +kernel) false ["d".toList, "A.thrift".toList]
    (by decide +kernel)
  · exact absurd hsame (by decide +kernel)
  · exact absurd hj (by decide +kernel)

end Run

end Saving

end TableThrift
