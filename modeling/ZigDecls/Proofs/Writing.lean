import ZigDecls.Files.Tree

/-!
# Writing one file

Making directories leaves every file as it is. Writing a file changes what is at one place, and
afterwards the path that was written to leads to that place and to the bytes written.
-/

namespace ZigDecls.Tree
open Text

variable {t t' : Tree} {place q : Place} {bytes : List UInt8}

/-! ## One place -/

theorem lookup_replace (place q : Place) (bytes : List UInt8) (files : List (Place × List UInt8)) :
    (files.map fun f => if f.1 == place then (place, bytes) else f).lookup q =
      if q = place then (files.lookup place).map fun _ => bytes else files.lookup q := by
  induction files with
  | nil => simp
  | cons f files ih =>
    obtain ⟨place', old⟩ := f
    rw [List.map_cons]
    by_cases hp : place' = place
    · subst hp
      simp only [beq_self_eq_true, ite_true, List.lookup_cons, ih, Option.map_some]
      by_cases hq : q = place'
      · simp [hq]
      · have hq' : (q == place') = false := by simpa using hq
        simp [hq, hq']
    · have hp' : (place == place') = false := by simpa using fun h => hp h.symm
      have hp'' : (place' == place) = false := by simpa using hp
      simp only [hp', hp'', Bool.false_eq_true, ite_false, List.lookup_cons, ih]
      by_cases hq : q = place
      · simp [hq, hp']
      · simp [hq]

theorem lookup_putFile (t : Tree) (place q : Place) (bytes : List UInt8) :
    (t.putFile place bytes).files.lookup q = if q = place then some bytes else t.files.lookup q := by
  unfold putFile
  split
  · rename_i h
    obtain ⟨old, ho⟩ := Option.isSome_iff_exists.mp h
    simp only [lookup_replace, ho, Option.map_some]
  · rename_i h
    rw [List.lookup_append]
    by_cases hq : q = place
    · subst hq
      simp only [Bool.not_eq_true, Option.isSome_eq_false_iff, Option.isNone_iff_eq_none] at h
      simp [h]
    · have hq' : (q == place) = false := by simpa using hq
      simp [List.lookup_cons, hq, hq']

theorem isDirectory_putFile (h : t.isDirectory q = true) : (t.putFile place bytes).isDirectory q = true := by
  unfold isDirectory putFile at *
  split
  · rw [List.any_map]
    have he : ((fun f : Place × List UInt8 => q.isPrefixOf f.1 && f.1 != q) ∘
        fun f => if f.1 == place then (place, bytes) else f) = fun f => q.isPrefixOf f.1 && f.1 != q := by
      funext f
      by_cases hf : f.1 = place
      · simp [hf]
      · simp [hf]
    rw [he]
    exact h
  · simp only [List.any_append, Bool.or_eq_true] at h ⊢
    rcases h with h | h
    · exact .inl h
    · exact .inr (.inl h)

theorem at?_putFile_self (t : Tree) (place : Place) (bytes : List UInt8) :
    (t.putFile place bytes).at? place = some (.file bytes) := by
  unfold at?
  rw [lookup_putFile, if_pos rfl]

theorem at?_eq_directory_iff : t.at? q = some .directory ↔ t.files.lookup q = none ∧ t.isDirectory q = true := by
  unfold at?
  cases t.files.lookup q with
  | none => simp
  | some old => simp

theorem at?_putFile_directory (hp : t.at? place ≠ some .directory) (hq : t.at? q = some .directory) :
    (t.putFile place bytes).at? q = some .directory := by
  have hne : q ≠ place := fun e => hp (e ▸ hq)
  obtain ⟨hl, hd⟩ := at?_eq_directory_iff.mp hq
  refine at?_eq_directory_iff.mpr ⟨?_, isDirectory_putFile hd⟩
  rw [lookup_putFile, if_neg hne]
  exact hl

/-! ## One path -/

/-- A walk passes through directories only, and they stay what they are. -/
theorem walk_putFile (hp : t.at? place ≠ some .directory) : ∀ (names : List CodePoints) (start : Place),
    t.walk start names = .ok q → (t.putFile place bytes).walk start names = .ok q
  | [], _, h => h
  | [name], _, h => h
  | name :: next :: names, start, h => by
    unfold walk at h ⊢
    split at h
    · cases h
    · rename_i hn
      rw [if_neg hn]
      split at h
      · rename_i hd
        simp only [at?_putFile_directory hp hd]
        exact walk_putFile hp (next :: names) _ h
      · cases h
      · cases h

theorem place?_putFile {p : Path} (hp : t.at? place ≠ some .directory) (h : t.place? p = .ok q) :
    (t.putFile place bytes).place? p = .ok q := by
  unfold place? at h ⊢
  split at h
  · cases h
  · rename_i hl
    rw [if_neg hl]
    exact walk_putFile hp _ _ h

def SameFiles (later earlier : Tree) : Prop := ∀ q, later.files.lookup q = earlier.files.lookup q

/-- The bytes are at the path, and every file that was somewhere else is as it was. -/
structure Holds (later earlier : Tree) (p : Path) (bytes : List UInt8) : Prop where
  find : later.find p = .ok (some (.file bytes))
  others : ∀ q, later.place? p ≠ .ok q → later.files.lookup q = earlier.files.lookup q

/-- What is left, whether the work could be done or failed on the way. -/
def left : Except (Tree × Failure) Tree → Tree
  | .ok t => t
  | .error (t, _) => t

/-- The path can be opened for writing, and leads to the place. -/
structure Opens (t : Tree) (p : Path) (place : Place) : Prop where
  allowed : p.refusal? = none
  leads : t.place? p = .ok place
  free : t.at? place ≠ some .directory

theorem openFile_eq_ok_iff {p : Path} :
    t.openFile p = .ok (t', place) ↔ t.Opens p place ∧ t' = t.putFile place [] := by
  unfold openFile
  constructor
  · intro h
    split at h
    · cases h
    · rename_i hr
      split at h
      · cases h
      · rename_i hl
        split at h
        · cases h
        · rename_i hf
          cases h
          exact ⟨⟨hr, hl, hf⟩, rfl⟩
  · rintro ⟨⟨hr, hl, hf⟩, rfl⟩
    simp only [hr, hl]

/-- Once it was opened a file is rewritten where it is. -/
theorem putFile_putFile (t : Tree) (place : Place) (old bytes : List UInt8) :
    (t.putFile place old).putFile place bytes = t.putFile place bytes := by
  have hl : ((t.putFile place old).files.lookup place).isSome := by
    rw [lookup_putFile, if_pos rfl]
    rfl
  rw [putFile, if_pos hl]
  unfold putFile
  split
  · simp only [List.map_map, Tree.mk.injEq, and_true]
    refine List.map_congr_left fun f _ => ?_
    by_cases hf : f.1 = place
    · simp [hf]
    · simp [hf]
  · rename_i hn
    have hkeep : t.files.map (fun f => if f.1 == place then (place, bytes) else f) = t.files := by
      refine (List.map_congr_left fun f hf => ?_).trans (List.map_id _)
      have hne : f.1 ≠ place := by
        rintro rfl
        exact hn (List.lookup_isSome_iff.mpr ⟨f, hf, by simp⟩)
      simp [hne]
    rw [List.map_append, hkeep]
    simp

theorem writeFile_of_opens {p : Path} (h : t.Opens p place) (text : CodePoints) :
    t.writeFile p text =
      match text.encode with
      | .error fault => .error (t.putFile place [], .noBytes fault)
      | .ok bytes => .ok (t.putFile place bytes) := by
  rw [writeFile, openFile_eq_ok_iff.mpr ⟨h, rfl⟩]
  cases text.encode with
  | error fault => rfl
  | ok bytes => exact congrArg Except.ok (t.putFile_putFile place [] bytes)

theorem writeFile_of_not_opens {p : Path} (h : ∀ place, ¬ t.Opens p place) (text : CodePoints) :
    ∃ f, t.writeFile p text = .error (t, f) := by
  unfold writeFile
  cases ho : t.openFile p with
  | error f => exact ⟨f, rfl⟩
  | ok opened => exact absurd (openFile_eq_ok_iff.mp ho).1 (h opened.2)

theorem Opens.holds_putFile {p : Path} (h : t.Opens p place) (bytes : List UInt8) :
    (t.putFile place bytes).Holds t p bytes := by
  have hl : (t.putFile place bytes).place? p = .ok place := place?_putFile h.free h.leads
  constructor
  · simp [find, h.allowed, hl, at?_putFile_self]
  · intro q hq
    have hne : q ≠ place := fun e => hq (e ▸ hl)
    rw [lookup_putFile, if_neg hne]

/-! ## Directories -/

theorem files_makeDirectoryAt (t : Tree) (p : Path) (place : Place) :
    (left (t.makeDirectoryAt p place)).files = t.files := by
  unfold makeDirectoryAt
  split <;> rfl

theorem files_makeDirectoryIn {p : Path} {above : Except (Tree × Failure) Tree} (ha : (left above).files = t.files) :
    (left (t.makeDirectoryIn p above)).files = t.files := by
  unfold makeDirectoryIn
  split
  · exact t.files_makeDirectoryAt p _
  · cases above with
    | error e => exact ha
    | ok t₁ =>
      simp only [bind, Except.bind]
      split
      · exact (t₁.files_makeDirectoryAt p _).trans ha
      · exact ha
  · rfl

theorem files_makeDirectoriesFrom (root : String) : ∀ names : List CodePoints,
    (left (t.makeDirectoriesFrom root names)).files = t.files
  | [] => rfl
  | _ :: above => files_makeDirectoryIn (files_makeDirectoriesFrom root above)

theorem files_makeDirectories (t : Tree) (p : Path) : (left (t.makeDirectories p)).files = t.files := by
  unfold makeDirectories
  split
  · rfl
  · exact files_makeDirectoriesFrom _ _

end ZigDecls.Tree
