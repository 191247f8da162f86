import TableThrift.FileSystem.Operations

/-!
# Where paths lead

A path leads through directories alone, and none of them is lost when a file is written or moved.
So a path leads to the same location before and after.

## Main definitions

* `FileSystem.KeepsDirectories`: no directory of a file system is lost in another

## Main results

* `FileSystem.KeepsDirectories.walk`, `FileSystem.KeepsDirectories.locate`: a path that leads
  somewhere still leads there
* `FileSystem.keepsDirectories_put`, `FileSystem.keepsDirectories_erase`: changes where no directory
  stands
* `FileSystem.openEmpty_eq_ok_iff`, `FileSystem.move_eq_ok_iff`, `FileSystem.readText_eq_ok_iff`:
  what operations do when they succeed
* `FileSystem.lookup_of_move`: a moved file
-/

namespace TableThrift.FileSystem

variable {fs fs' fs'' : FileSystem} {l m : Location} {path : Text}

/-! ## Directories that stay -/

section Keeps

/-- No directory of the first file system is lost in the second, and both work in the same
directory. -/
structure KeepsDirectories (fs fs' : FileSystem) : Prop where
  current : fs'.current = fs.current
  directory : ∀ l, fs.lookup l = some .directory → fs'.lookup l = some .directory

theorem KeepsDirectories.trans (h : fs.KeepsDirectories fs') (h' : fs'.KeepsDirectories fs'') :
    fs.KeepsDirectories fs'' :=
  ⟨h'.current.trans h.current, fun l hl => h'.directory l (h.directory l hl)⟩

/-- A new entry where no directory stands. -/
theorem keepsDirectories_put (h : fs.lookup l ≠ some .directory) (e : Entry) :
    fs.KeepsDirectories (fs.put l e) := by
  refine ⟨rfl, fun m hm => ?_⟩
  have hne : m ≠ l := by
    rintro rfl
    exact h hm
  rw [lookup_put_of_ne fs hne, hm]

/-- An entry erased where no directory stands. -/
theorem keepsDirectories_erase (h : fs.lookup l ≠ some .directory) :
    fs.KeepsDirectories (fs.erase l) := by
  refine ⟨rfl, fun m hm => ?_⟩
  have hne : m ≠ l := by
    rintro rfl
    exact h hm
  rw [lookup_erase_of_ne fs hne, hm]

/-- A name is followed only from a directory. -/
theorem KeepsDirectories.follow {name : Text} (h : fs.KeepsDirectories fs')
    (hf : fs.follow l name = .ok m) : fs'.follow l name = .ok m := by
  -- From a file or from nothing no name is followed, so `l` is a directory in both.
  cases he : fs.lookup l with
  | none =>
    rw [FileSystem.follow, he] at hf
    cases hf
  | some e =>
    cases e with
    | file content =>
      rw [FileSystem.follow, he] at hf
      cases hf
    | directory =>
      rw [FileSystem.follow, h.directory l he]
      rwa [FileSystem.follow, he] at hf

/-- A walk that arrives needs only the directories on its way. -/
theorem KeepsDirectories.walk {names : List Text} (h : fs.KeepsDirectories fs')
    (hw : fs.walk l names = .ok m) : fs'.walk l names = .ok m := by
  induction names generalizing l with
  | nil => exact hw
  | cons name names ih =>
    rw [FileSystem.walk] at hw ⊢
    cases hf : fs.follow l name with
    | error p =>
      rw [hf] at hw
      cases hw
    | ok k =>
      rw [hf] at hw
      rw [h.follow hf]
      exact ih hw

theorem KeepsDirectories.reach {names : List Text} (h : fs.KeepsDirectories fs')
    (hr : fs.reach path names = .ok m) : fs'.reach path names = .ok m := by
  rw [FileSystem.reach] at hr ⊢
  cases hp : fault? path with
  | some p =>
    rw [hp] at hr
    cases hr
  | none =>
    rw [hp] at hr
    have hs : fs'.start path = fs.start path := by rw [start, start, h.current]
    simp only [hs]
    exact h.walk hr

/-- A path that leads somewhere still leads there. -/
theorem KeepsDirectories.locate (h : fs.KeepsDirectories fs') (hl : fs.locate path = .ok m) :
    fs'.locate path = .ok m :=
  h.reach hl

end Keeps

/-! ## Operations that succeed -/

section Operations

variable {content more : ByteArray} {source target t : Text}

theorem ne_nil_of_lookup_ne (h : fs.lookup l ≠ some .directory) : l ≠ [] := by
  rintro rfl
  exact h (lookup_root fs)

/-- Of two entries put in one place the second stays. -/
@[simp] theorem put_put (fs : FileSystem) (l : Location) (e e' : Entry) :
    (fs.put l e).put l e' = fs.put l e' := by
  simp [put, List.filter_filter]

/-- An empty file is opened where a path leads, unless a directory stands there. -/
theorem openEmpty_eq_ok_iff :
    fs.openEmpty path = .ok (fs', l) ↔
      fs.locate path = .ok l ∧ fs.lookup l ≠ some .directory ∧ fs' = fs.put l (.file .empty) := by
  unfold openEmpty
  cases hp : fs.locate path with
  | error p => simp
  | ok k =>
    simp only [Except.ok.injEq]
    constructor
    · intro h
      split at h
      · cases h
      · next hd =>
        obtain ⟨rfl, rfl⟩ := Prod.mk.inj (Except.ok.inj h)
        exact ⟨rfl, hd, rfl⟩
    · rintro ⟨rfl, hd, rfl⟩
      split
      · next he => exact absurd he hd
      · rfl

/-- Bytes are written behind the content of a file. -/
theorem append_of_lookup (h : fs.lookup l = some (.file content)) (more : ByteArray) :
    fs.append l more = fs.put l (.file (content ++ more)) := by
  rw [append, h]

/-- Bytes are written behind the content of a file that has just been put somewhere. -/
theorem append_put (hl : l ≠ []) (content more : ByteArray) :
    (fs.put l (.file content)).append l more = fs.put l (.file (content ++ more)) := by
  rw [append_of_lookup (lookup_put_self fs hl _), put_put]

/-- A file is moved to where a path leads, unless a directory stands there. -/
theorem move_eq_ok_iff :
    fs.move source target = .ok fs' ↔
      ∃ l m content, fs.locate source = .ok l ∧ fs.locate target = .ok m ∧
        fs.lookup l = some (.file content) ∧ fs.lookup m ≠ some .directory ∧
        fs' = if l = m then fs else (fs.erase l).put m (.file content) := by
  constructor
  · intro h
    unfold move at h
    split at h
    · cases h
    · cases h
    · next l m hl hm =>
      split at h
      · cases h
      · cases h
      · next content hc =>
        split at h
        · cases h
        · next hd =>
          refine ⟨l, m, content, hl, hm, hc, hd, ?_⟩
          by_cases hlm : l = m
          · rw [if_pos hlm] at h ⊢
            exact (Except.ok.inj h).symm
          · rw [if_neg hlm] at h ⊢
            exact (Except.ok.inj h).symm
  · rintro ⟨l, m, content, hl, hm, hc, hd, rfl⟩
    unfold move
    simp only [hl, hm, hc, if_neg hd]
    split <;> rfl

/-- Where a file was moved, it stands with its content, and the target still leads there. -/
theorem lookup_of_move (h : fs.move source target = .ok fs') :
    ∃ l m content, fs.locate source = .ok l ∧ fs.lookup l = some (.file content) ∧
      fs'.locate target = .ok m ∧ fs'.lookup m = some (.file content) := by
  obtain ⟨l, m, content, hl, hm, hc, hd, rfl⟩ := move_eq_ok_iff.1 h
  refine ⟨l, m, content, hl, hc, ?_⟩
  by_cases hlm : l = m
  · rw [if_pos hlm]
    exact ⟨hm, hlm ▸ hc⟩
  · rw [if_neg hlm]
    -- Neither the file that goes nor the one that comes takes the place of a directory.
    have hfile : fs.lookup l ≠ some .directory := by simp [hc]
    have hfree : (fs.erase l).lookup m ≠ some .directory := by
      rwa [lookup_erase_of_ne fs (Ne.symm hlm)]
    exact ⟨((keepsDirectories_erase hfile).trans (keepsDirectories_put hfree _)).locate hm,
      lookup_put_self _ (ne_nil_of_lookup_ne hd) _⟩

/-- A text is read from the file where a path leads. -/
theorem readText_eq_ok_iff :
    fs.readText path = .ok t ↔
      ∃ l content, fs.locate path = .ok l ∧ fs.lookup l = some (.file content) ∧
        Text.ofBytes? content = some t := by
  constructor
  · intro h
    unfold readText readBytes at h
    cases hl : fs.locate path with
    | error p =>
      rw [hl] at h
      cases h
    | ok l =>
      simp only [hl] at h
      cases he : fs.lookup l with
      | none => simp [he] at h
      | some e =>
        cases e with
        | directory => simp [he] at h
        | file content =>
          simp only [he] at h
          split at h
          · cases h
          · next hb => exact ⟨l, content, rfl, he, by rw [hb, Except.ok.inj h]⟩
  · rintro ⟨l, content, hl, hc, hb⟩
    simp only [readText, readBytes, hl, hc, hb]

end Operations

end TableThrift.FileSystem
