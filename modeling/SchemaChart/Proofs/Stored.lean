/-
Files after one is written. The file that a path names then holds what was written, and what lies at every other place
is what was there before (`write_rewrites`). The folders on the way to the file were there, so no folder comes into
being with it.
-/
import SchemaChart.Files.Tree

namespace SchemaChart.FileTree

/-! ## The list of files -/

section Put

variable {place other : List String} {content : List UInt8}

theorem lookup_put_self : ∀ {files : List (List String × List UInt8)},
    (put place content files).lookup place = some content
  | [] => by simp [put]
  | (p, old) :: rest => by
    rw [put]
    by_cases h : p = place
    · simp [h]
    · have hp : (place == p) = false := by simpa using Ne.symm h
      rw [if_neg h, List.lookup_cons, hp]
      exact lookup_put_self

theorem lookup_put_of_ne (h : other ≠ place) : ∀ {files : List (List String × List UInt8)},
    (put place content files).lookup other = files.lookup other
  | [] => by simp [put, h]
  | (p, old) :: rest => by
    rw [put]
    by_cases hp : p = place
    · have ho : (other == p) = false := by simpa [hp] using h
      rw [if_pos hp, List.lookup_cons, List.lookup_cons, ho]
    · rw [if_neg hp, List.lookup_cons, List.lookup_cons, lookup_put_of_ne h]

/-- Apart from the file written the places of files stay. -/
theorem any_put (P : List String → Bool) : ∀ {files : List (List String × List UInt8)},
    ((put place content files).any fun f => P f.1) = ((files.any fun f => P f.1) || P place)
  | [] => by simp [put]
  | (p, old) :: rest => by
    rw [put]
    by_cases hp : p = place
    · subst hp
      rw [if_pos rfl, List.any_cons, List.any_cons]
      cases P p <;> simp
    · rw [if_neg hp, List.any_cons, List.any_cons, any_put P, Bool.or_assoc]

end Put

/-! ## Folders -/

/-- Whether a place is one of a folder, unless a file lies there. -/
def isFolder (t : FileTree) (place : List String) : Bool :=
  place.isPrefixOf t.workingDirectory || t.folders.any place.isPrefixOf || t.files.any fun f => place.isPrefixOf f.1

variable {t : FileTree} {folder place : List String}

theorem find?_eq (t : FileTree) (place : List String) : t.find? place =
    match t.files.lookup place with
    | some content => some (.file content)
    | none => if t.isFolder place then some .folder else none :=
  rfl

theorem isFolder_of_find? (h : t.find? place = some .folder) : t.isFolder place = true := by
  rw [find?_eq] at h
  split at h
  · cases h
  · by_cases hf : t.isFolder place = true
    · exact hf
    · rw [if_neg hf] at h
      cases h

/-- What a folder lies in is a folder. -/
theorem isFolder_of_below (hp : folder <+: place) (h : t.isFolder place = true) : t.isFolder folder = true := by
  have up : ∀ other : List String, place.isPrefixOf other = true → folder.isPrefixOf other = true := by
    intro other ho
    rw [List.isPrefixOf_iff_prefix] at ho ⊢
    exact hp.trans ho
  unfold isFolder at h ⊢
  simp only [Bool.or_eq_true, List.any_eq_true] at h ⊢
  rcases h with (h | ⟨f, hf, h⟩) | ⟨f, hf, h⟩
  · exact .inl (.inl (up _ h))
  · exact .inl (.inr ⟨f, hf, up _ h⟩)
  · exact .inr ⟨f, hf, up _ h⟩

/-! ## Where paths lead -/

/-- The place of the file that a path names: of one that is there, or of one that can be made there. -/
def Target.place? : Target → Option (List String)
  | .folder => none
  | .file place _ => some place
  | .free place => some place

/-- The place of the file that a path names, if it names one. -/
def place? (t : FileTree) (p : FilePath) : Option (List String) :=
  match t.target p with
  | .ok target => target.place?
  | .error _ => none

/-- A place where a file is, or where one can be made. -/
structure HoldsFile (t : FileTree) (place : List String) : Prop where
  notFolder : t.find? place ≠ some .folder
  /-- What lies above it is folders. -/
  above : ∀ other, other <+: place → other ≠ place → t.isFolder other = true

theorem prefix_concat_of_ne {name : String} {other : List String} (h : other <+: folder ++ [name])
    (hne : other ≠ folder ++ [name]) : other <+: folder := by
  rcases List.prefix_concat_iff.1 h with h | h
  · exact absurd h hne
  · exact h

theorem holdsFile_of_follow {names : List String} {target : Target} (hfolder : t.isFolder folder = true)
    (h : t.follow folder names = .ok target) (hplace : target.place? = some place) : t.HoldsFile place := by
  have here : ∀ {folder name}, t.isFolder folder = true → t.find? (folder ++ [name]) ≠ some .folder →
      t.HoldsFile (folder ++ [name]) := fun hfolder hfind =>
    ⟨hfind, fun _ hp hne => isFolder_of_below (prefix_concat_of_ne hp hne) hfolder⟩
  fun_induction t.follow folder names with
  | case1 => cases h; cases hplace
  | case2 folder rest ih => exact ih (isFolder_of_below (List.dropLast_prefix folder) hfolder) h
  | case3 => cases h
  | case4 folder name _ _ content hfind =>
    cases h; cases hplace
    exact here hfolder (by simp [hfind])
  | case5 => cases h
  | case6 folder name rest _ _ hfind ih => exact ih (isFolder_of_find? hfind) h
  | case7 folder name _ _ hfind =>
    cases h; cases hplace
    exact here hfolder (by simp [hfind])
  | case8 => cases h

/-! ## Writing -/

/-- The files with `content` at a place. -/
def storing (t : FileTree) (place : List String) (content : List UInt8) : FileTree :=
  { t with files := put place content t.files }

section Storing

variable {content : List UInt8} {other : List String}

theorem find?_storing_self : (t.storing place content).find? place = some (.file content) := by
  rw [find?_eq, storing, lookup_put_self]

theorem isFolder_storing :
    (t.storing place content).isFolder other = (t.isFolder other || other.isPrefixOf place) := by
  unfold isFolder
  rw [show (t.storing place content).files = put place content t.files from rfl, any_put, ← Bool.or_assoc]
  rfl

/-- No folder comes into being with a file, since it lies in folders. -/
theorem find?_storing_of_ne (h : t.HoldsFile place) (hne : other ≠ place) :
    (t.storing place content).find? other = t.find? other := by
  have hlookup : (t.storing place content).files.lookup other = t.files.lookup other := lookup_put_of_ne hne
  have hfolder : (t.storing place content).isFolder other = t.isFolder other := by
    rw [isFolder_storing]
    by_cases hp : other <+: place
    · -- what lies above the file was a folder before
      rw [h.above other hp hne, Bool.true_or]
    · rw [← List.isPrefixOf_iff_prefix, Bool.not_eq_true] at hp
      rw [hp, Bool.or_false]
  rw [find?_eq, find?_eq, hlookup, hfolder]

/-- Names that lead to the place of a file lead there after it is written. -/
theorem follow_storing {names : List String} {target : Target} (h : t.HoldsFile place)
    (hfollow : t.follow folder names = .ok target) (hplace : target.place? = some place) :
    (t.storing place content).follow folder names = .ok (.file place content) := by
  fun_induction t.follow folder names with
  | case1 => cases hfollow; cases hplace
  | case2 folder rest ih =>
    rw [follow, if_pos rfl]
    exact ih hfollow
  | case3 => cases hfollow
  | case4 folder name hup hlong =>
    cases hfollow; cases hplace
    rw [follow, if_neg hup, if_neg hlong, find?_storing_self]
    exact if_pos rfl
  | case5 => cases hfollow
  | case6 folder name rest hup hlong hfind ih =>
    -- the way leads through folders, and the file is none
    have hne : folder ++ [name] ≠ place := by
      rintro rfl
      exact h.notFolder hfind
    rw [follow, if_neg hup, if_neg hlong, find?_storing_of_ne h hne, hfind]
    exact ih hfollow
  | case7 folder name hup hlong =>
    cases hfollow; cases hplace
    rw [follow, if_neg hup, if_neg hlong, find?_storing_self]
    exact if_pos rfl
  | case8 => cases hfollow

/-- Where names are followed from for a path: the working directory or the root. -/
def start (t : FileTree) (p : FilePath) : List String := if p.root = "" then t.workingDirectory else []

theorem isFolder_start (t : FileTree) (p : FilePath) : t.isFolder (t.start p) = true := by
  unfold start
  split <;> simp [isFolder]

/-- A path leads to the place of a file where its names do so, and it can name a file in any case. -/
theorem follow_of_place? {p : FilePath} (h : t.place? p = some place) :
    (∃ target, t.follow (t.start p) p.parts = .ok target ∧ target.place? = some place) ∧
      ∀ content, (t.storing place content).target p = (t.storing place content).follow (t.start p) p.parts := by
  unfold place? at h
  split at h
  · rename_i target htarget
    unfold FileTree.target at htarget
    split at htarget
    · cases htarget
    · rename_i hnull
      split at htarget
      · cases htarget
      · rename_i hlong
        refine ⟨⟨target, htarget, h⟩, fun content => ?_⟩
        rw [FileTree.target, if_neg hnull, if_neg hlong]
        rfl
  · cases h

theorem holdsFile_of_place? {p : FilePath} (h : t.place? p = some place) : t.HoldsFile place := by
  obtain ⟨⟨target, hfollow, hplace⟩, -⟩ := follow_of_place? h
  exact holdsFile_of_follow (isFolder_start t p) hfollow hplace

theorem read_storing {p : FilePath} (h : t.place? p = some place) : (t.storing place content).read p = .ok content := by
  obtain ⟨⟨target, hfollow, hplace⟩, htarget⟩ := follow_of_place? h
  rw [read, htarget, follow_storing (holdsFile_of_place? h) hfollow hplace]

end Storing

/-- What a file tree is after a file is written at a path: the file that the path names has the content, and what lies
at every other place is what was there. -/
structure Rewrites (t after : FileTree) (p : FilePath) (content : List UInt8) : Prop where
  read : after.read p = .ok content
  changed : ∃ place, t.place? p = some place ∧ after.find? place = some (.file content) ∧
    ∀ other, other ≠ place → after.find? other = t.find? other

theorem write_of_place? {p : FilePath} (h : t.place? p = some place) (content : List UInt8) :
    t.write p content = .ok (t.storing place content) := by
  unfold place? at h
  unfold write
  split at h
  · rename_i target htarget
    rw [htarget]
    cases target with
    | folder => cases h
    | file | free => cases h; rfl
  · cases h

theorem write_of_no_place {p : FilePath} (h : t.place? p = none) (content : List UInt8) :
    ∃ e, t.write p content = .error e := by
  unfold place? at h
  unfold write
  split at h
  · rename_i target htarget
    rw [htarget]
    cases target with
    | folder => exact ⟨_, rfl⟩
    | file | free => cases h
  · rename_i fault htarget
    rw [htarget]
    exact ⟨_, rfl⟩

/-- Writing to a path rewrites the file that the path names, and fails only where it names none. -/
theorem write_rewrites (t : FileTree) (p : FilePath) (content : List UInt8) :
    (∃ after, t.write p content = .ok after ∧ t.Rewrites after p content) ∨
      (∃ e, t.write p content = .error e) ∧ t.place? p = none := by
  rcases h : t.place? p with _ | place
  · exact .inr ⟨write_of_no_place h content, rfl⟩
  · have hfile := holdsFile_of_place? h
    exact .inl ⟨_, write_of_place? h content, read_storing h, place, h, find?_storing_self, fun _ hne =>
      find?_storing_of_ne hfile hne⟩

end SchemaChart.FileTree
