import TableThrift.Proofs.Saving.Interruption

/-!
# What saving leaves

Saving that succeeds leaves the text at its target and nothing at the temporary path. Saving that
fails leaves the target as it was, and at most the text at the temporary path: all of it, unless
writing it is what failed, and then its first bytes. In both cases nothing else changes but for
directories that are made. Only where the path of the directory leads upwards can one of these stand
at the target or at the temporary path.

## Main definitions

* `FileSystem.Made`: a directory that was missing and is made
* `Saving.Saved`, `Saving.Unsaved`: the files after saving that succeeds, and that fails

## Main results

* `FileSystem.locate_of_locate_join`: the path of the directory leads to it where the path of a name
  in it leads somewhere
* `Saving.files_of_save`: what saving leaves
* `Saving.exists_unsaved`: saving that fails may put directories at its two files, or leave a part
  of the text
-/

namespace TableThrift

theorem Text.byteSize_append (t u : Text) : byteSize (t ++ u) = byteSize t + byteSize u := by
  have hsum (t : Text) : byteSize t = (t.map Char.utf8Size).sum := by
    rw [List.sum_eq_foldl, List.foldl_map, byteSize]
  rw [hsum, hsum, hsum, List.map_append, List.sum_append]

namespace FileSystem

variable {fs fs' fs'' : FileSystem} {l m : Location} {directory name path q : Text}

/-! ## Directories that are made -/

section Made

/-- One of the directories that a path leads through was missing, and is made. -/
structure Made (directory : Text) (fs fs' : FileSystem) (m : Location) : Prop where
  missing : fs.lookup m = none
  made : fs'.lookup m = some .directory
  leading : ∃ q ∈ Path.ancestors directory, fs'.locate q = .ok m

/-- An entry that is left alone once directories are added is as it was, or is one of them. -/
theorem AddsDirectories.eq_or_made (h : AddsDirectories (Path.ancestors directory) fs fs')
    (hkeeps : fs'.KeepsDirectories fs'') (hm : fs''.lookup m = fs'.lookup m) :
    fs''.lookup m = fs.lookup m ∨ Made directory fs fs'' m := by
  obtain hsame | ⟨hnone, hd, q, hq, hqm⟩ := h.lookup m
  · exact .inl (hm.trans hsame)
  · exact .inr ⟨hnone, hm.trans hd, q, hq, hkeeps.locate hqm⟩

/-- For the entry of a name in the directory itself, the path of the directory must lead upwards. -/
theorem AddsDirectories.eq_or_above_of_base
    (h : AddsDirectories (Path.ancestors directory) fs fs') (hkeeps : fs'.KeepsDirectories fs'')
    (hb : fs''.base directory = .ok l)
    (hm : fs''.lookup (l ++ [name]) = fs'.lookup (l ++ [name])) :
    fs''.lookup (l ++ [name]) = fs.lookup (l ++ [name]) ∨
      Path.above ∈ Path.names directory ∧ Made directory fs fs'' (l ++ [name]) := by
  obtain hsame | hmade := h.eq_or_made hkeeps hm
  · exact .inl hsame
  · refine .inr ⟨h.above_mem_of_directory name hkeeps.current hb ?_, hmade⟩
    rw [← hm, hmade.made, hmade.missing]
    exact nofun

end Made

/-! ## The path of the directory -/

section Directory

/-- The parts of a path that is looked up are neither too long nor hold NUL characters. -/
theorem fault?_of_append {q rest : Text} (hne : q ≠ []) (hp : fault? (q ++ rest) = none) :
    fault? q = none := by
  simp only [fault?] at hp ⊢
  split at hp
  · cases hp
  · next hnul =>
    split at hp
    · cases hp
    · split at hp
      · cases hp
      · next hsize =>
        rw [if_neg fun h => hnul (List.mem_append_left rest h), if_neg hne, if_neg]
        rw [Text.byteSize_append] at hsize
        omega

/-- The path of a directory that holds the location of a name leads to that directory. -/
theorem locate_of_locate_join (hslash : '/' ∉ name) (hne : directory ≠ [])
    (hp : fault? (Path.join directory name) = none) (hb : fs.base directory = .ok l)
    (hd : fs.lookup l = some .directory) : fs.locate directory = .ok l := by
  have hf : fault? directory = none := by
    rw [Path.join_of_not_mem hslash] at hp
    split at hp
    · exact fault?_of_append hne hp
    · exact fault?_of_append hne hp
  simp only [locate, reach, hf, Path.lookupNames]
  -- A slash at the end asks for the directory itself.
  by_cases hs : Path.endsWithSlash directory
  · rw [if_pos hs]
    exact walk_concat_eq_ok_iff.2 ⟨l, hb, follow_eq_ok_iff.2 ⟨hd, if_pos rfl ▸ rfl⟩⟩
  · rw [if_neg hs, List.append_nil]
    exact hb

end Directory

end FileSystem

namespace Saving

open FileSystem

/-! ## The files after saving -/

section Result

/-- The files after saving that succeeds, with the location of the directory. -/
structure Saved (fs files : FileSystem) (directory name text : Text) (d : Location) : Prop where
  base : files.base directory = .ok d
  base_directory : files.lookup d = some .directory
  locate_directory : directory ≠ [] → files.locate directory = .ok d
  locate_target : files.locate (targetPath directory name) = .ok (d ++ [targetName name])
  target : files.lookup (d ++ [targetName name]) = some (.file (text ++ ['\r', '\n']).bytes)
  locate_temporary : files.locate (temporaryPath directory name) = .ok (d ++ [temporaryName name])
  temporary : files.lookup (d ++ [temporaryName name]) = none
  other : ∀ m, m ≠ d ++ [targetName name] → m ≠ d ++ [temporaryName name] →
    files.lookup m = fs.lookup m ∨ Made directory fs files m

/-- The files after saving that fails at a step. -/
structure Unsaved (fs files : FileSystem) (directory name text : Text) (step : Step) : Prop where
  locate_target : ∀ m, fs.locate (targetPath directory name) = .ok m →
    files.locate (targetPath directory name) = .ok m
  target : ∀ m, files.locate (targetPath directory name) = .ok m →
    files.lookup m = fs.lookup m ∨
      Path.above ∈ Path.names directory ∧ Made directory fs files m
  locate_temporary : ∀ m, fs.locate (temporaryPath directory name) = .ok m →
    files.locate (temporaryPath directory name) = .ok m
  temporary : ∀ m, files.locate (temporaryPath directory name) = .ok m →
    files.lookup m = fs.lookup m ∨
      (∃ part rest, (text ++ ['\r', '\n']).bytes = part ++ rest ∧
        (step = .write text ∨ step = .write ['\r', '\n'] ∨ rest = .empty) ∧
        files.lookup m = some (.file part)) ∨
      Path.above ∈ Path.names directory ∧ Made directory fs files m
  other : ∀ m, files.locate (temporaryPath directory name) ≠ .ok m →
    files.lookup m = fs.lookup m ∨ Made directory fs files m

variable {faults : Faults} {fs fs' : FileSystem} {directory name text path : Text}
  {failure : Failure}

/-- Saving that succeeds leaves the text at its target alone. -/
theorem saved_of_save (hname : '/' ∉ name)
    (h : save faults fs directory name text = (fs', .ok path)) :
    ∃ d, Saved fs fs' directory name text d := by
  obtain ⟨-, hmoved⟩ := progress_of_save_ok h
  cases hmoved with
  | @moved made _ l hmade hl hd hmove =>
    obtain ⟨d, hb, hdir, rfl⟩ := locate_temporaryPath hname hl
    have hput := keepsDirectories_put hd (.file (text ++ ['\r', '\n']).bytes)
    obtain ⟨hkeeps, htarget, htemporary, hother⟩ := lookup_moved hname (hput.base hb)
      (lookup_put_self made (ne_nil_of_lookup_ne hd) _) hmove
    have hmoved := hput.trans hkeeps
    have hbase := hmoved.base hb
    have hdirectory := hmoved.directory d hdir
    -- The target path leads to where the file was moved.
    obtain ⟨-, m, -, -, -, hm, -⟩ := lookup_of_move hmove
    obtain ⟨hfault, -, d', hb', -, rfl⟩ := (locate_targetPath_iff hname).1 hm
    obtain rfl : d = d' := Except.ok.inj (hbase.symm.trans hb')
    refine ⟨d, hbase, hdirectory, fun hne => ?_, hm, htarget, hmoved.locate hl, htemporary,
      fun m hmt hml => ?_⟩
    · exact locate_of_locate_join (slash_not_mem_targetName hname) hne hfault hbase hdirectory
    · refine hmade.eq_or_made hmoved ?_
      rw [hother m hml hmt, lookup_put_of_ne made hml]

/-- Saving that fails leaves the target as it was. -/
theorem unsaved_of_save (hname : '/' ∉ name)
    (h : save faults fs directory name text = (fs', .error failure)) :
    Unsaved fs fs' directory name text failure.step := by
  obtain ⟨phase, hfailed, hprogress⟩ := progress_of_save_error h
  -- Left alone, both files are as they were, or one of the new directories stands there.
  have htarget {made : FileSystem} (hmade : AddsDirectories (Path.ancestors directory) fs made)
      (hkeeps : made.KeepsDirectories fs') {m : Location}
      (hm : fs'.locate (targetPath directory name) = .ok m) (hsame : fs'.lookup m = made.lookup m) :
      fs'.lookup m = fs.lookup m ∨
        Path.above ∈ Path.names directory ∧ Made directory fs fs' m := by
    obtain ⟨d, hb, -, rfl⟩ := locate_targetPath hname hm
    exact hmade.eq_or_above_of_base hkeeps hb hsame
  cases hfailed with
  | making =>
    cases hprogress with
    | making hmade =>
      have hrefl : fs'.KeepsDirectories fs' := ⟨rfl, fun _ h => h⟩
      refine ⟨fun m => hmade.keepsDirectories.locate, fun m hm => htarget hmade hrefl hm rfl,
        fun m => hmade.keepsDirectories.locate, fun m hm => ?_,
        fun m _ => hmade.eq_or_made hrefl rfl⟩
      obtain ⟨d, hb, -, rfl⟩ := locate_temporaryPath hname hm
      exact (hmade.eq_or_above_of_base hrefl hb rfl).imp_right .inr
  | @writing part rest hb hr =>
    cases hprogress with
    | @writing made l hmade hl hd _ =>
      have hkeeps := keepsDirectories_put hd (.file part)
      have hkept := hmade.keepsDirectories.trans hkeeps
      refine ⟨fun m => hkept.locate, fun m hm => ?_, fun m => hkept.locate, fun m hm => ?_,
        fun m hm => ?_⟩
      · refine htarget hmade hkeeps hm (lookup_put_of_ne made ?_ _)
        obtain ⟨d, -, -, rfl⟩ := locate_temporaryPath hname hl
        obtain ⟨d', -, -, rfl⟩ := locate_targetPath hname hm
        exact location_ne_of_ne d' d (temporaryName_ne_targetName name name).symm
      · -- The temporary path leads to the file that was opened.
        obtain rfl : l = m := Except.ok.inj ((hkeeps.locate hl).symm.trans hm)
        exact .inr (.inl ⟨part, rest, hb, hr,
          lookup_put_self made (ne_nil_of_lookup_ne hd) _⟩)
      · have hne : m ≠ l := by
          rintro rfl
          exact hm (hkeeps.locate hl)
        exact hmade.eq_or_made hkeeps (lookup_put_of_ne made hne _)

/-- **What saving leaves**, whatever goes wrong. When it succeeds, the text with a line break stands
at the target, the directory is there, nothing stands at the temporary path, and all other entries
are as they were but for directories that were made. When it fails, the target is as it was, and the
temporary path is as it was or has the text with the line break, of which a part may be missing at
the end only if one of the two could not be written. Only if the path of the directory leads upwards
can one of the new directories stand there instead. No file that is saved under another name
changes. -/
theorem files_of_save (faults : Faults) (fs : FileSystem) (directory name text : Text)
    (hname : '/' ∉ name) :
    (∀ path, (save faults fs directory name text).2 = .ok path →
      path = targetPath directory name ∧
      ∃ d, Saved fs (save faults fs directory name text).1 directory name text d) ∧
    (∀ failure, (save faults fs directory name text).2 = .error failure →
      Unsaved fs (save faults fs directory name text).1 directory name text failure.step) ∧
    ∀ (l : Location) (other : Text) (content : ByteArray), other ≠ name →
      fs.lookup (l ++ [targetName other]) = some (.file content) →
      (save faults fs directory name text).1.lookup (l ++ [targetName other]) =
        some (.file content) := by
  refine ⟨fun path hok => ?_, fun failure herror => ?_, fun l other content hne hc => ?_⟩
  · exact ⟨(progress_of_save_ok (Prod.ext rfl hok)).1, saved_of_save hname (Prod.ext rfl hok)⟩
  · exact unsaved_of_save hname (Prod.ext rfl herror)
  · -- Its location is neither of the two, and a directory is only made where nothing stands.
    have hframe : (save faults fs directory name text).1.lookup (l ++ [targetName other]) =
        fs.lookup (l ++ [targetName other]) ∨
        Made directory fs (save faults fs directory name text).1 (l ++ [targetName other]) := by
      cases hr : (save faults fs directory name text).2 with
      | ok path =>
        obtain ⟨d, hsaved⟩ := saved_of_save hname (Prod.ext rfl hr)
        exact hsaved.other _ (location_ne_of_ne l d fun h => hne (targetName_injective h))
          (location_ne_of_ne l d (temporaryName_ne_targetName name other).symm)
      | error failure =>
        refine (unsaved_of_save hname (Prod.ext rfl hr)).other _ fun hm => ?_
        obtain ⟨d, -, -, hd⟩ := locate_temporaryPath hname hm
        exact location_ne_of_ne l d (temporaryName_ne_targetName name other).symm hd
    obtain hsame | hmade := hframe
    · rw [hsame, hc]
    · rw [hmade.missing] at hc
      cases hc

/-- A device that is full when one byte of a text is written. -/
def fullAfterOne : Faults := fun n =>
  if n = 2 then some ⟨1, .other "No space left on device (os error 28)".toList⟩ else none

/-- Saving that fails as a directory stands at the target, saving that fails as the device is full,
and saving that makes its directory and the one above it. -/
theorem files_of_save_occupied :
    let fs : FileSystem := ⟨[(["A.thrift".toList], .directory),
      (["B.thrift".toList], .file (Text.bytes "old".toList))], []⟩
    let failed := (save (fun _ => none) fs ".".toList "A".toList "x".toList).1
    let broken := (save fullAfterOne fs ".".toList "B".toList "xyz".toList).1
    let saved := (save (fun _ => none) fs "a/b".toList "A".toList "x".toList).1
    ('/' ∉ "A".toList ∧ '/' ∉ "B".toList) ∧
    failed.lookup ["A.thrift".toList] = some .directory ∧
    failed.lookup [".A.thrift.tmp".toList] = some (.file (Text.bytes "x\r\n".toList)) ∧
    failed.lookup ["B.thrift".toList] = some (.file (Text.bytes "old".toList)) ∧
    broken.lookup ["B.thrift".toList] = some (.file (Text.bytes "old".toList)) ∧
    (∃ part rest, Text.bytes "xyz\r\n".toList = part ++ rest ∧
      broken.lookup [".B.thrift.tmp".toList] = some (.file part)) ∧
    saved.lookup ["a".toList, "b".toList, "A.thrift".toList] =
      some (.file (Text.bytes "x\r\n".toList)) ∧
    saved.lookup ["a".toList, "b".toList, ".A.thrift.tmp".toList] = none := by
  intro fs failed broken saved
  have hname : '/' ∉ "A".toList := by decide
  have hname' : '/' ∉ "B".toList := by decide
  obtain ⟨-, hfailed, hother⟩ :=
    files_of_save (fun _ => none) fs ".".toList "A".toList "x".toList hname
  have hunsaved := hfailed ⟨.move "./.A.thrift.tmp".toList "./A.thrift".toList, .isDirectory⟩
    (by decide +kernel)
  have hbroken := (files_of_save fullAfterOne fs ".".toList "B".toList "xyz".toList hname').2.1
    ⟨.write "xyz".toList, .other "No space left on device (os error 28)".toList⟩
    (by decide +kernel)
  obtain ⟨-, d, hsaved⟩ :=
    (files_of_save (fun _ => none) fs "a/b".toList "A".toList "x".toList hname).1
      "a/b/A.thrift".toList (by decide +kernel)
  have hbase : saved.base "a/b".toList = .ok ["a".toList, "b".toList] := by decide +kernel
  obtain rfl := Except.ok.inj (hbase.symm.trans hsaved.base)
  refine ⟨⟨hname, hname'⟩, ?_, ?_, hother [] "B".toList _ (by decide) (by decide +kernel), ?_, ?_,
    hsaved.target, hsaved.temporary⟩
  · obtain hsame | ⟨habove, -⟩ := hunsaved.target ["A.thrift".toList] (by decide +kernel)
    · exact hsame.trans (by decide +kernel)
    · exact absurd habove (by decide +kernel)
  · obtain hsame | ⟨part, rest, hb, hr, htext⟩ | ⟨habove, -⟩ :=
      hunsaved.temporary [".A.thrift.tmp".toList] (by decide +kernel)
    · exact absurd hsame (by decide +kernel)
    · -- The step that failed is no writing, so that nothing is missing.
      obtain hr | hr | rfl := hr
      · cases hr
      · cases hr
      · rw [ByteArray.append_empty] at hb
        rw [htext, ← hb]
        decide +kernel
    · exact absurd habove (by decide +kernel)
  · obtain hsame | ⟨habove, -⟩ := hbroken.target ["B.thrift".toList] (by decide +kernel)
    · exact hsame.trans (by decide +kernel)
    · exact absurd habove (by decide +kernel)
  · obtain hsame | ⟨part, rest, hb, -, htext⟩ | ⟨habove, -⟩ :=
      hbroken.temporary [".B.thrift.tmp".toList] (by decide +kernel)
    · exact absurd hsame (by decide +kernel)
    · exact ⟨part, rest, hb, htext⟩
    · exact absurd habove (by decide +kernel)

/-- Saving that fails may leave a directory at its target or at its temporary path: the path of the
directory leads into it and back, and its place was empty. And it may leave a part of the text at
the temporary path. -/
theorem exists_unsaved :
    (¬ ∀ (faults : Faults) (fs : FileSystem) (directory name text : Text) (failure : Failure),
      '/' ∉ name → '\x00' ∉ name → (save faults fs directory name text).2 = .error failure →
      ∀ m, (save faults fs directory name text).1.locate (targetPath directory name) = .ok m →
        (save faults fs directory name text).1.lookup m = fs.lookup m) ∧
    (¬ ∀ (fs : FileSystem) (directory name text : Text) (failure : Failure),
      '/' ∉ name → '\x00' ∉ name →
      (save (fun _ => none) fs directory name text).2 = .error failure →
      ∀ m, (save (fun _ => none) fs directory name text).1.locate
          (temporaryPath directory name) = .ok m →
        (save (fun _ => none) fs directory name text).1.lookup m = fs.lookup m ∨
        (save (fun _ => none) fs directory name text).1.lookup m =
          some (.file (text ++ ['\r', '\n']).bytes)) ∧
    ¬ ∀ (faults : Faults) (fs : FileSystem) (directory name text : Text) (failure : Failure),
      '/' ∉ name → '\x00' ∉ name → Path.above ∉ Path.names directory →
      (save faults fs directory name text).2 = .error failure →
      ∀ m, (save faults fs directory name text).1.locate (temporaryPath directory name) = .ok m →
        (save faults fs directory name text).1.lookup m = fs.lookup m ∨
        (save faults fs directory name text).1.lookup m =
          some (.file (text ++ ['\r', '\n']).bytes) := by
  refine ⟨fun h => ?_, fun h => ?_, fun h => ?_⟩
  · have hsame := h (fun _ => none) ⟨[], []⟩ "A.thrift/..".toList "A".toList "x".toList
      ⟨.move "A.thrift/../.A.thrift.tmp".toList "A.thrift/../A.thrift".toList, .isDirectory⟩
      (by decide) (by decide) (by decide +kernel) ["A.thrift".toList] (by decide +kernel)
    exact absurd hsame (by decide +kernel)
  · obtain hsame | htext := h ⟨[], []⟩ ".A.thrift.tmp/..".toList "A".toList "x".toList
      ⟨.openEmpty ".A.thrift.tmp/../.A.thrift.tmp".toList, .isDirectory⟩
      (by decide) (by decide) (by decide +kernel) [".A.thrift.tmp".toList] (by decide +kernel)
    · exact absurd hsame (by decide +kernel)
    · exact absurd htext (by decide +kernel)
  · obtain hsame | htext := h fullAfterOne ⟨[], []⟩ "d".toList "A".toList "xyz".toList
      ⟨.write "xyz".toList, .other "No space left on device (os error 28)".toList⟩
      (by decide) (by decide) (by decide) (by decide +kernel)
      ["d".toList, ".A.thrift.tmp".toList] (by decide +kernel)
    · exact absurd hsame (by decide +kernel)
    · exact absurd htext (by decide +kernel)

end Result

end Saving

end TableThrift
