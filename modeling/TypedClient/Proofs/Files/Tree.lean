import TypedClient.Files.Tree
import TypedClient.Proofs.Table

namespace TypedClient.FileTree

open Table (lookup_cons_eq_ite)

variable {t t' : FileTree}

/-- One tree has the files of the other, and its directories with others behind them. -/
structure Grown (t t' : FileTree) : Prop where
  files : t'.files = t.files
  directories : t.directories <+: t'.directories
  workingDirectory : t'.workingDirectory = t.workingDirectory

theorem Grown.refl (t : FileTree) : Grown t t := ⟨rfl, List.prefix_rfl, rfl⟩

theorem Grown.trans {t'' : FileTree} (h : Grown t t') (h' : Grown t' t'') : Grown t t'' :=
  ⟨h'.files.trans h.files, h.directories.trans h'.directories, h'.workingDirectory.trans h.workingDirectory⟩

theorem grown_makeSingle {path : List Component} (h : t.makeSingle path = .ok t') : Grown t t' := by
  unfold makeSingle at h
  split at h
  · cases h
  · split at h
    · cases h
      exact Grown.refl t
    · split at h
      · cases h
      · cases h
        exact ⟨rfl, List.prefix_append _ _, rfl⟩

theorem grown_makeDirectory_go (t : FileTree) (done cs : List Component) :
    Grown t (makeDirectory.go t done cs).2 := by
  induction cs generalizing t done with
  | nil =>
    rw [makeDirectory.go]
    cases h : t.makeSingle done with
    | error words => exact Grown.refl t
    | ok t' => exact grown_makeSingle h
  | cons c cs ih =>
    rw [makeDirectory.go]
    cases h : t.makeSingle done with
    | error words => exact Grown.refl t
    | ok t' => exact (grown_makeSingle h).trans (ih t' (done ++ [c]))

theorem grown_makeParent (t : FileTree) (p : Path) : Grown t (t.makeParent p).2 := by
  unfold makeParent
  split
  · exact Grown.refl t
  · rename_i cs _
    dsimp only
    split
    · exact Grown.refl t
    · cases cs with
      | nil => exact Grown.refl t
      | cons c cs => exact grown_makeDirectory_go t [c] cs

theorem lookup_put (place other : List String) (bytes : List UInt8)
    (files : List (List String × List UInt8)) :
    (put place bytes files).lookup other = if other = place then some bytes else files.lookup other := by
  induction files with
  | nil => exact lookup_cons_eq_ite place other bytes []
  | cons f files ih =>
    obtain ⟨name, old⟩ := f
    rw [put]
    by_cases hname : name = place
    · rw [if_pos hname, lookup_cons_eq_ite, lookup_cons_eq_ite, hname]
      by_cases h : other = place <;> simp [h]
    · rw [if_neg hname, lookup_cons_eq_ite, lookup_cons_eq_ite, ih]
      by_cases h : other = name <;> simp [h, hname]

/-- Where a path leads depends on the directories only. -/
theorem locate_withFiles (t : FileTree) (files : List (List String × List UInt8)) (place : List String)
    (cs : List Component) : { t with files }.locate place cs = t.locate place cs := by
  have hdirectory : ∀ place, { t with files }.isDirectory place = t.isDirectory place := fun _ => rfl
  induction cs generalizing place with
  | nil => rfl
  | cons c cs ih => cases c <;> simp only [locate, hdirectory, ih]

theorem place?_withFiles (t : FileTree) (files : List (List String × List UInt8)) (p : Path) :
    { t with files }.place? p = t.place? p := by
  rw [place?, place?, locate_withFiles]

/-- One tree has the text at a path, and otherwise the files and the directories of the other. -/
structure Written (t : FileTree) (p : Path) (text : String) (t' : FileTree) : Prop where
  directories : t'.directories = t.directories
  bytes : t'.bytes? p = some (Text.Utf8.encode text.toList)
  others : ∀ place, t'.place? p ≠ some place → t'.file? place = t.file? place

theorem written_of_write {p : Path} {text : String} (h : t.write p text = .ok t') :
    Written t p text t' := by
  unfold write at h
  by_cases hp : p.endsInDirectory
  · rw [if_pos hp] at h
    cases h
  · rw [if_neg hp] at h
    cases hplace : t.place? p with
    | none =>
      rw [hplace] at h
      cases h
    | some place =>
      rw [hplace] at h
      dsimp only at h
      split at h
      · cases h
      · cases h
        refine ⟨rfl, ?_, fun other hother => ?_⟩
        · rw [bytes?, if_neg hp, place?_withFiles, hplace, Option.bind_some, file?, lookup_put, if_pos rfl]
        · have hne : other ≠ place := by
            rintro rfl
            exact hother ((place?_withFiles t _ p).trans hplace)
          rw [file?, lookup_put, if_neg hne, file?]

end TypedClient.FileTree
