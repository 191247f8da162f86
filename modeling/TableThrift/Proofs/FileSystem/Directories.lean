import TableThrift.FileSystem.Operations
import TableThrift.Proofs.FileSystem.Paths

/-!
# New directories

Making a directory with those it leads through adds directories and changes nothing else, whether
it succeeds or stops halfway. Each of the new directories is one that the path leads through.

## Main definitions

* `FileSystem.AddsDirectories`: a file system with more directories at given paths

## Main results

* `FileSystem.addsDirectories_makeChain`: what is made of a list of paths
* `FileSystem.AddsDirectories.above_mem_of_directory`: where a new directory can stand at the place
  of a name in the directory
* `FileSystem.makeChain_of_base`: nothing is made where the directory is there
-/

namespace TableThrift.FileSystem

variable {fs fs' fs'' : FileSystem} {l m : Location} {directory path : Text}
  {paths more : List Text}

/-! ## Directories that are added -/

section Adds

/-- The second file system has the entries of the first, and more directories. Each of these stands
where one of the paths leads. -/
structure AddsDirectories (paths : List Text) (fs fs' : FileSystem) : Prop where
  current : fs'.current = fs.current
  lookup : ∀ m, fs'.lookup m = fs.lookup m ∨
    fs.lookup m = none ∧ fs'.lookup m = some .directory ∧ ∃ q ∈ paths, fs'.locate q = .ok m

theorem AddsDirectories.refl (paths : List Text) (fs : FileSystem) :
    AddsDirectories paths fs fs :=
  ⟨rfl, fun _ => .inl rfl⟩

theorem AddsDirectories.keepsDirectories (h : AddsDirectories paths fs fs') :
    fs.KeepsDirectories fs' := by
  refine ⟨h.current, fun l hl => ?_⟩
  rcases h.lookup l with heq | ⟨-, hd, -⟩
  · rw [heq, hl]
  · exact hd

theorem AddsDirectories.trans (h : AddsDirectories paths fs fs')
    (h' : AddsDirectories paths fs' fs'') : AddsDirectories paths fs fs'' := by
  refine ⟨h'.current.trans h.current, fun m => ?_⟩
  rcases h'.lookup m with heq' | ⟨hnone', hd', hq'⟩
  · rw [heq']
    rcases h.lookup m with heq | ⟨hnone, hd, q, hq, hm⟩
    · exact .inl heq
    · exact .inr ⟨hnone, hd, q, hq, h'.keepsDirectories.locate hm⟩
  · rcases h.lookup m with heq | ⟨-, hd, -⟩
    · exact .inr ⟨heq ▸ hnone', hd', hq'⟩
    · -- What the first change made is there, and cannot be made again.
      rw [hd] at hnone'
      cases hnone'

theorem AddsDirectories.mono (h : AddsDirectories paths fs fs') (hsub : paths ⊆ more) :
    AddsDirectories more fs fs' := by
  refine ⟨h.current, fun m => ?_⟩
  rcases h.lookup m with heq | ⟨hnone, hd, q, hq, hm⟩
  · exact .inl heq
  · exact .inr ⟨hnone, hd, q, hsub hq, hm⟩

/-- A new directory at the location of a name in the directory is one that the directory leads
through, and then back from upwards. -/
theorem AddsDirectories.above_mem_of_directory
    (h : AddsDirectories (Path.ancestors directory) fs fs') (name : Text)
    (hc : fs''.current = fs'.current) (hb : fs''.base directory = .ok l)
    (hne : fs'.lookup (l ++ [name]) ≠ fs.lookup (l ++ [name])) :
    Path.above ∈ Path.names directory := by
  obtain heq | ⟨-, -, q, hq, hm⟩ := h.lookup (l ++ [name])
  · exact absurd heq hne
  · by_contra habove
    have hle := length_ancestor_le hc hq habove hm hb
    rw [List.length_append, List.length_singleton] at hle
    omega

end Adds

/-! ## Directories that are made -/

section Makes

/-- A path that is not empty is refused only for its characters or its length. -/
theorem ne_missing_of_fault? {p : Problem} (hne : path ≠ []) (hp : fault? path = some p) :
    p ≠ .missing := by
  simp only [fault?, if_neg hne] at hp
  split at hp
  · cases hp
    decide
  · split at hp
    · cases hp
      decide
    · cases hp

/-- A directory that is made stands where its path leads, with or without a slash at the end. -/
theorem addsDirectories_makeDirectory (h : fs.makeDirectory path = .ok fs') :
    AddsDirectories [path] fs fs' := by
  unfold makeDirectory at h
  split at h
  · cases h
  · next l hl =>
    split at h
    · cases h
    · next hnone =>
      obtain rfl := Except.ok.inj h
      have hroot : l ≠ [] := by
        rintro rfl
        rw [lookup_root] at hnone
        cases hnone
      have hkeeps : fs.KeepsDirectories (fs.put l .directory) :=
        keepsDirectories_put (by rw [hnone]; exact nofun) _
      refine ⟨rfl, fun m => ?_⟩
      by_cases hm : m = l
      · subst hm
        refine .inr ⟨hnone, lookup_put_self fs hroot _, path, List.mem_singleton_self path, ?_⟩
        have hreach := hkeeps.reach hl
        rw [reach] at hreach
        rw [locate, reach]
        split at hreach
        · cases hreach
        · rw [Path.lookupNames]
          split
          · rw [walk_concat_eq_ok_iff]
            exact ⟨m, hreach, follow_eq_ok_iff.2 ⟨lookup_put_self fs hroot _, rfl⟩⟩
          · rwa [List.append_nil]
      · exact .inl (lookup_put_of_ne fs hm _)

/-- Whatever is made of a list of paths, in whole or in part, is directories at these paths. -/
theorem addsDirectories_makeChain (fs : FileSystem) (paths : List Text) :
    AddsDirectories paths fs (fs.makeChain paths).1 := by
  induction paths with
  | nil => exact .refl _ fs
  | cons path ancestors ih =>
    have hpath : [path] ⊆ path :: ancestors :=
      List.cons_subset_cons path (List.nil_subset ancestors)
    have hrest : ancestors ⊆ path :: ancestors := List.subset_cons_self path ancestors
    rw [makeChain]
    split
    · exact .refl _ fs
    · split
      · next made hmade => exact (addsDirectories_makeDirectory hmade).mono hpath
      · -- The directories above come first, then the directory itself is tried again.
        split
        · next made p hmade =>
          rw [hmade] at ih
          exact ih.mono hrest
        · next made hmade =>
          rw [hmade] at ih
          split
          · next made' hmade' =>
            exact (ih.mono hrest).trans ((addsDirectories_makeDirectory hmade').mono hpath)
          · exact ih.mono hrest
      · exact .refl _ fs

/-- Nothing is made of a path to a directory, nor of a part of the directories that it leads
through. -/
theorem makeChain_of_base (hb : fs.base directory = .ok l) (hd : fs.lookup l = some .directory)
    (hsub : paths ⊆ Path.ancestors directory) : (fs.makeChain paths).1 = fs := by
  cases paths with
  | nil => rfl
  | cons path paths =>
    obtain ⟨m, hm, hdir⟩ :=
      exists_directory_of_mem_ancestors (hsub List.mem_cons_self) hb hd
    rw [makeChain]
    split
    · rfl
    · next hne =>
      have hmake : ∃ p, fs.makeDirectory path = .error p ∧ p ≠ .missing := by
        rw [base] at hm
        rw [makeDirectory, reach]
        cases hp : fault? path with
        | none =>
          simp only [hm, hdir]
          exact ⟨.occupied, rfl, by decide⟩
        | some p => exact ⟨p, rfl, ne_missing_of_fault? hne hp⟩
      obtain ⟨p, hp, hmissing⟩ := hmake
      rw [hp]
      cases p with
      | missing => exact absurd rfl hmissing
      | _ => rfl

end Makes

end TableThrift.FileSystem
