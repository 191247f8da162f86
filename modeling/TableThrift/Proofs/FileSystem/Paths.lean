import TableThrift.Proofs.FileSystem.Walk
import TableThrift.Proofs.Text.Cut
import TableThrift.Proofs.Text.Lines
import TableThrift.Text.Case

/-!
# Names in a directory

The path of a name in a directory leads to the location of that name below the location of the
directory. A path that never leads upwards lengthens the location where it starts by its names.

## Main definitions

* `FileSystem.base`: the location of the directory to which names are joined
* `FileSystem.Below`: the locations below that directory

## Main results

* `Path.names_join`, `Path.lookupNames_join`: the names of a path in a directory
* `Path.extension?_join`: the extension of a name in a directory
* `Path.names_of_mem_ancestors`: the names of the directories that a path leads through
* `FileSystem.walk_append`, `FileSystem.follow_eq_ok_iff`: a walk, name by name
* `FileSystem.walk_eq_append`: a walk without a step upwards
* `FileSystem.locate_join_eq_ok_iff`: where the path of a name in a directory leads
* `FileSystem.length_ancestor_le`: a directory that a path leads through is not deeper than the path
* `FileSystem.exists_directory_of_mem_ancestors`: a path to a directory leads through directories
-/

namespace TableThrift

/-! ## Names of paths -/

section Names

namespace Path

variable {directory name q : Text} {ps : List Text}

theorem ne_nil_of_mem_names (h : name ∈ names directory) : name ≠ [] :=
  of_decide_eq_true (List.mem_filter.1 h).2

theorem slash_not_mem_of_mem_names (h : name ∈ names directory) : '/' ∉ name :=
  Text.not_mem_of_mem_split (List.mem_filter.1 h).1

theorem names_append_slash (u v : Text) : names (u ++ '/' :: v) = names u ++ names v := by
  rw [names, Text.split_append, List.filter_append, names, names]

theorem names_of_not_mem (h : '/' ∉ name) (hne : name ≠ []) : names name = [name] := by
  rw [names, Text.split_of_not_mem h]
  exact List.filter_cons_of_pos (decide_eq_true hne)

theorem isAbsolute_of_not_mem (h : '/' ∉ name) : isAbsolute name = false := by
  cases name with
  | nil => rfl
  | cons c cs =>
    have hc : c ≠ '/' := fun he => h (he ▸ List.mem_cons_self)
    simpa [isAbsolute] using hc

theorem endsWithSlash_of_not_mem (h : '/' ∉ name) : endsWithSlash name = false := by
  rw [endsWithSlash]
  cases hl : name.getLast? with
  | none => rfl
  | some c =>
    have hc : c ≠ '/' := fun he => h (he ▸ List.mem_of_getLast? hl)
    simpa using hc

/-- A name without a slash is put behind the directory, and behind a slash if there is none. -/
theorem join_of_not_mem (h : '/' ∉ name) :
    join directory name =
      if directory = [] ∨ endsWithSlash directory then directory ++ name
      else directory ++ '/' :: name := by
  rw [join, isAbsolute_of_not_mem h, if_neg Bool.false_ne_true]
  simp only [List.append_assoc, List.singleton_append]

/-- A name without a slash is the last name of its path in a directory. -/
theorem names_join (h : '/' ∉ name) (hne : name ≠ []) :
    names (join directory name) = names directory ++ [name] := by
  rw [join_of_not_mem h]
  split
  · next hd =>
    rcases hd with rfl | hd
    · exact names_of_not_mem h hne
    · -- The slash at the end of the directory adds an empty piece, which is no name.
      obtain ⟨d, rfl⟩ : ∃ d, directory = d ++ ['/'] :=
        List.getLast?_eq_some_iff.1 (eq_of_beq hd)
      rw [List.append_assoc, List.singleton_append, names_append_slash, names_append_slash,
        names_of_not_mem h hne]
      exact congrArg (· ++ [name]) (List.append_nil (names d)).symm
  · rw [names_append_slash, names_of_not_mem h hne]

theorem isAbsolute_join (h : '/' ∉ name) :
    isAbsolute (join directory name) = isAbsolute directory := by
  rw [join_of_not_mem h]
  cases directory with
  | nil => exact isAbsolute_of_not_mem h
  | cons c cs => split <;> rfl

theorem endsWithSlash_append (directory : Text) (hne : name ≠ []) :
    endsWithSlash (directory ++ name) = endsWithSlash name := by
  rw [endsWithSlash, List.getLast?_append_of_ne_nil _ hne, endsWithSlash]

theorem endsWithSlash_join (h : '/' ∉ name) (hne : name ≠ []) :
    endsWithSlash (join directory name) = false := by
  rw [← endsWithSlash_of_not_mem h, join_of_not_mem h]
  split
  · exact endsWithSlash_append directory hne
  · rw [← List.singleton_append, ← List.append_assoc]
    exact endsWithSlash_append _ hne

theorem lookupNames_join (h : '/' ∉ name) (hne : name ≠ []) :
    lookupNames (join directory name) = names directory ++ [name] := by
  rw [lookupNames, endsWithSlash_join h hne, names_join h hne]
  exact List.append_nil _

/-! ### Ancestors -/

theorem parts_sublist (path : Text) : (parts path).Sublist (names path) := by
  unfold parts
  split
  · next hn => rw [hn]
  · next first rest hn =>
    rw [hn]
    split
    · exact List.filter_sublist.cons_cons first
    · exact List.filter_sublist

/-- The names of the path with given parts are the parts. -/
theorem names_ofParts (absolute : Bool) (h : ∀ p ∈ ps, p ≠ [] ∧ '/' ∉ p) :
    names (ofParts absolute ps) = ps := by
  have hjoined : names (List.intercalate ['/'] ps) = ps := by
    cases ps with
    | nil => rfl
    | cons p ps =>
      rw [names, Text.split_intercalate (List.cons_ne_nil p ps) fun t ht => (h t ht).2]
      exact List.filter_eq_self.2 fun t ht => decide_eq_true (h t ht).1
  cases absolute with
  | false => exact hjoined
  | true => exact (names_append_slash [] _).trans hjoined

theorem isAbsolute_ofParts (absolute : Bool) (h : ∀ p ∈ ps, p ≠ [] ∧ '/' ∉ p) :
    isAbsolute (ofParts absolute ps) = absolute := by
  cases absolute with
  | true => rfl
  | false =>
    cases ps with
    | nil => rfl
    | cons p ps =>
      obtain ⟨hne, hslash⟩ := h p List.mem_cons_self
      obtain ⟨c, cs, rfl⟩ := List.exists_cons_of_ne_nil hne
      have hc : c ≠ '/' := fun he => hslash (he ▸ List.mem_cons_self)
      cases ps with
      | nil => simpa [ofParts, isAbsolute] using hc
      | cons p' ps => simpa [ofParts, isAbsolute, List.intercalate_cons_cons] using hc

/-- The path of the first parts of another starts where that one does and has these parts. -/
theorem isAbsolute_and_names_ofParts (directory : Text) (n : ℕ) :
    isAbsolute (ofParts (isAbsolute directory) ((parts directory).take n)) =
      isAbsolute directory ∧
    names (ofParts (isAbsolute directory) ((parts directory).take n)) =
      (parts directory).take n := by
  have hsub : ((parts directory).take n).Sublist (names directory) :=
    (List.take_sublist n _).trans (parts_sublist directory)
  have hparts : ∀ p ∈ (parts directory).take n, p ≠ [] ∧ '/' ∉ p := fun p hp =>
    ⟨ne_nil_of_mem_names (hsub.subset hp), slash_not_mem_of_mem_names (hsub.subset hp)⟩
  exact ⟨isAbsolute_ofParts _ hparts, names_ofParts _ hparts⟩

/-- A directory that a path leads through starts where the path does and has some of its names. -/
theorem names_of_mem_ancestors (h : q ∈ ancestors directory) :
    isAbsolute q = isAbsolute directory ∧ (names q).Sublist (names directory) := by
  rcases List.mem_cons.1 h with rfl | h
  · exact ⟨rfl, List.Sublist.refl _⟩
  · obtain ⟨n, -, rfl⟩ := List.mem_map.1 h
    obtain ⟨habs, hnames⟩ := isAbsolute_and_names_ofParts directory n
    rw [hnames]
    exact ⟨habs, (List.take_sublist n _).trans (parts_sublist directory)⟩

/-! ### Extensions -/

/-- The last name of the path of a name in a directory. -/
theorem fileName?_join (h : '/' ∉ name) (hne : name ≠ []) (hdots : name ≠ here ∧ name ≠ above) :
    fileName? (join directory name) = some name := by
  have hkept (ps : List Text) :
      (ps ++ [name]).filter (· ≠ here) = ps.filter (· ≠ here) ++ [name] := by
    simp [hdots.1]
  have hlast : (parts (join directory name)).getLast? = some name := by
    unfold parts
    rw [names_join h hne]
    cases names directory with
    | nil => simp [hdots.1]
    | cons first rest =>
      simp only [List.cons_append]
      split
      · rw [hkept, ← List.cons_append, List.getLast?_concat]
      · rw [← List.cons_append, hkept, List.getLast?_concat]
  rw [fileName?, hlast]
  simp [Option.filter, hdots]

/-- The extension of a name with a stem is what follows its last dot. -/
theorem extension?_join {stem ext : Text} (hs : stem ≠ [] ∧ '/' ∉ stem)
    (he : ext ≠ [] ∧ '/' ∉ ext ∧ '.' ∉ ext) :
    extension? (join directory (stem ++ '.' :: ext)) = some ext := by
  have hslash : '/' ∉ stem ++ '.' :: ext := by simp [hs.2, he.2.1]
  have hlong : 2 < (stem ++ '.' :: ext).length := by
    have := List.length_pos_iff.2 hs.1
    have := List.length_pos_iff.2 he.1
    simp only [List.length_append, List.length_cons]
    omega
  have hdots : stem ++ '.' :: ext ≠ here ∧ stem ++ '.' :: ext ≠ above := by
    constructor <;> rintro h <;> rw [h] at hlong <;> contradiction
  rw [extension?, fileName?_join hslash (by simp) hdots]
  simp [Text.cutLast?_append_cons stem he.2.2, hs.1]

end Path

end Names

namespace FileSystem

variable {fs fs' : FileSystem} {l m : Location} {directory name path q : Text}

/-! ## Walks -/

section Walks

/-- A name is followed from a directory: in place, upwards or to a new name. -/
theorem follow_eq_ok_iff :
    fs.follow l name = .ok m ↔
      fs.lookup l = some .directory ∧
        if name = Path.here then m = l
        else if name = Path.above then m = l.dropLast
        else Text.byteSize name ≤ nameLimit ∧ m = l ++ [name] := by
  unfold follow
  split
  · next h => simp [h]
  · next h => simp [h]
  · next h =>
    simp only [h, true_and]
    split
    · rw [Except.ok.injEq, eq_comm]
    · split
      · rw [Except.ok.injEq, eq_comm]
      · split
        · next hl => simp [Nat.not_le.2 hl]
        · next hl => rw [Except.ok.injEq, eq_comm, and_iff_right (Nat.not_lt.1 hl)]

/-- A walk goes on from where its first names lead. -/
theorem walk_append (fs : FileSystem) (l : Location) (names more : List Text) :
    fs.walk l (names ++ more) =
      match fs.walk l names with
      | .error p => .error p
      | .ok m => fs.walk m more := by
  induction names generalizing l with
  | nil => rfl
  | cons name names ih =>
    rw [List.cons_append, walk, walk]
    cases fs.follow l name with
    | error p => rfl
    | ok m => exact ih m

theorem walk_singleton (fs : FileSystem) (l : Location) (name : Text) :
    fs.walk l [name] = fs.follow l name := by
  rw [walk]
  cases fs.follow l name <;> rfl

theorem walk_concat_eq_ok_iff {names : List Text} :
    fs.walk l (names ++ [name]) = .ok m ↔
      ∃ k, fs.walk l names = .ok k ∧ fs.follow k name = .ok m := by
  rw [walk_append]
  cases fs.walk l names with
  | error p => simp
  | ok k => simp [walk_singleton]

/-- A walk that never leads upwards lengthens its location by the names that do not stay in
place. -/
theorem walk_eq_append {names : List Text} (h : Path.above ∉ names)
    (hw : fs.walk l names = .ok m) : m = l ++ names.filter (· ≠ Path.here) := by
  induction names generalizing l with
  | nil => rw [List.filter_nil, List.append_nil, Except.ok.inj hw]
  | cons name names ih =>
    rw [walk] at hw
    split at hw
    · cases hw
    · next k hk =>
      rw [ih (fun hm => h (List.mem_cons_of_mem name hm)) hw]
      have habove : name ≠ Path.above := fun he => h (he ▸ List.mem_cons_self)
      obtain ⟨-, hk⟩ := follow_eq_ok_iff.1 hk
      by_cases hhere : name = Path.here
      · rw [if_pos hhere] at hk
        rw [hk, List.filter_cons_of_neg (by simpa using hhere)]
      · rw [if_neg hhere, if_neg habove] at hk
        rw [hk.2, List.filter_cons_of_pos (by simpa using hhere), List.append_assoc,
          List.singleton_append]

/-- Names that stay in place may be left out of a walk. -/
theorem walk_filter {names : List Text} (h : fs.walk l names = .ok m) :
    fs.walk l (names.filter (· ≠ Path.here)) = .ok m := by
  induction names generalizing l with
  | nil => exact h
  | cons name names ih =>
    rw [walk] at h
    split at h
    · cases h
    · next k hk =>
      by_cases hhere : name = Path.here
      · obtain ⟨-, hl⟩ := follow_eq_ok_iff.1 hk
        rw [if_pos hhere] at hl
        rw [List.filter_cons_of_neg (by simpa using hhere), ← hl]
        exact ih h
      · rw [List.filter_cons_of_pos (by simpa using hhere), walk, hk]
        exact ih h

/-- The parts of a path lead where its names do. -/
theorem walk_parts (h : fs.walk l (Path.names path) = .ok m) :
    fs.walk l (Path.parts path) = .ok m := by
  unfold Path.parts
  split
  · next hn => rwa [hn] at h
  · next first rest hn =>
    rw [hn] at h
    split
    · rw [walk] at h ⊢
      split at h
      · cases h
      · exact walk_filter h
    · exact walk_filter h

/-- On a walk to a directory, all locations are directories. -/
theorem exists_directory_of_walk_append {names more : List Text}
    (h : fs.walk l (names ++ more) = .ok m) (hm : fs.lookup m = some .directory) :
    ∃ k, fs.walk l names = .ok k ∧ fs.lookup k = some .directory := by
  rw [walk_append] at h
  split at h
  · cases h
  · next k hk =>
    refine ⟨k, hk, ?_⟩
    cases more with
    | nil => rwa [Except.ok.inj h]
    | cons name more =>
      rw [walk] at h
      split at h
      · cases h
      · next hfollow => exact (follow_eq_ok_iff.1 hfollow).1

end Walks

/-! ## The directory of a path -/

section Base

/-- The location of the directory to which names are joined; the current one for the empty path. -/
def base (fs : FileSystem) (directory : Text) : Except Problem Location :=
  fs.walk (fs.start directory) (Path.names directory)

/-- The locations below the directory to which names are joined. -/
def Below (fs : FileSystem) (directory : Text) (m : Location) : Prop :=
  ∃ d name rest, fs.base directory = .ok d ∧ m = d ++ name :: rest

theorem start_eq_of_isAbsolute (h : Path.isAbsolute path = Path.isAbsolute q)
    (hc : fs'.current = fs.current) : fs'.start path = fs.start q := by
  rw [start, start, h, hc]

theorem KeepsDirectories.base (h : fs.KeepsDirectories fs') (hb : fs.base directory = .ok l) :
    fs'.base directory = .ok l := by
  rw [FileSystem.base, start_eq_of_isAbsolute rfl h.current]
  exact h.walk hb

/-- The path of a name in a directory leads to that name below the location of the directory. -/
theorem locate_join_eq_ok_iff (hslash : '/' ∉ name) (hne : name ≠ []) (hhere : name ≠ Path.here)
    (habove : name ≠ Path.above) :
    fs.locate (Path.join directory name) = .ok m ↔
      fault? (Path.join directory name) = none ∧ Text.byteSize name ≤ nameLimit ∧
        ∃ d, fs.base directory = .ok d ∧ fs.lookup d = some .directory ∧ m = d ++ [name] := by
  rw [locate, reach, Path.lookupNames_join hslash hne,
    start_eq_of_isAbsolute (Path.isAbsolute_join hslash) rfl]
  cases fault? (Path.join directory name) with
  | some p => simp
  | none =>
    simp only [true_and]
    rw [walk_concat_eq_ok_iff]
    simp only [follow_eq_ok_iff, if_neg hhere, if_neg habove]
    constructor
    · rintro ⟨d, hd, hdir, hsize, rfl⟩
      exact ⟨hsize, d, hd, hdir, rfl⟩
    · rintro ⟨hsize, d, hd, hdir, rfl⟩
      exact ⟨d, hd, hdir, hsize, rfl⟩

/-- Without a step upwards, a directory that a path leads through is not deeper than the path. -/
theorem length_ancestor_le (hc : fs'.current = fs.current)
    (hq : q ∈ Path.ancestors directory) (habove : Path.above ∉ Path.names directory)
    (hm : fs.locate q = .ok m) (hb : fs'.base directory = .ok l) : m.length ≤ l.length := by
  obtain ⟨habs, hsub⟩ := Path.names_of_mem_ancestors hq
  have hwalk : fs.walk (fs.start q) (Path.lookupNames q) = .ok m := by
    rw [locate, reach] at hm
    split at hm
    · cases hm
    · exact hm
  have hup : Path.above ∉ Path.lookupNames q := by
    rw [Path.lookupNames]
    intro h
    rcases List.mem_append.1 h with h | h
    · exact habove (hsub.subset h)
    · split at h
      · cases List.mem_singleton.1 h
      · cases h
  -- A slash at the end of a path asks for a name that stays in place.
  have hfilter : (Path.lookupNames q).filter (· ≠ Path.here) =
      (Path.names q).filter (· ≠ Path.here) := by
    rw [Path.lookupNames, List.filter_append]
    split <;> simp
  rw [walk_eq_append hup hwalk, walk_eq_append habove hb, hfilter,
    start_eq_of_isAbsolute habs.symm hc, List.length_append, List.length_append]
  exact Nat.add_le_add_left (hsub.filter _).length_le _

/-- A path to a directory leads through directories only. -/
theorem exists_directory_of_mem_ancestors (hq : q ∈ Path.ancestors directory)
    (hb : fs.base directory = .ok l) (hd : fs.lookup l = some .directory) :
    ∃ m, fs.base q = .ok m ∧ fs.lookup m = some .directory := by
  rcases List.mem_cons.1 hq with rfl | hq
  · exact ⟨l, hb, hd⟩
  · obtain ⟨n, -, rfl⟩ := List.mem_map.1 hq
    obtain ⟨habs, hnames⟩ := Path.isAbsolute_and_names_ofParts directory n
    rw [base, start_eq_of_isAbsolute habs rfl, hnames]
    have hparts : fs.walk (fs.start directory)
        ((Path.parts directory).take n ++ (Path.parts directory).drop n) = .ok l := by
      rw [List.take_append_drop]
      exact walk_parts hb
    exact exists_directory_of_walk_append hparts hd

end Base

end FileSystem

end TableThrift
