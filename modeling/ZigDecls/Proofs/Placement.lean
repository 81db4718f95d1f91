import ZigDecls.Proofs.Writing

/-!
# Where a file can be written

Making directories along a path fails only at a file that is in the way or at a name that is too long,
and afterwards every place on the way is a directory. So whether a file can be written at a path is
settled by the tree as it was before.
-/

namespace ZigDecls
open Text

namespace Path

def start (root : String) : Place := if root.isEmpty then [] else ["/"]

theorem intercalate_append_extends {α : Type} (sep : List α) : ∀ front back : List (List α),
    ∃ rest, sep.intercalate (front ++ back) = sep.intercalate front ++ rest
  | [], back => ⟨sep.intercalate back, rfl⟩
  | [x], [] => ⟨[], by simp⟩
  | [x], y :: back => ⟨sep ++ sep.intercalate (y :: back), by simp [List.intercalate_cons_cons]⟩
  | x :: y :: front, back => by
    obtain ⟨rest, hr⟩ := intercalate_append_extends sep (y :: front) back
    refine ⟨rest, ?_⟩
    rw [List.cons_append] at hr
    rw [List.cons_append, List.cons_append, List.intercalate_cons_cons, List.intercalate_cons_cons, hr,
      List.append_assoc,
      List.append_assoc, List.append_assoc]

theorem text_append {root : String} {names : List CodePoints} (h : (root.isEmpty && names.isEmpty) = false)
    (more : List CodePoints) : ∃ rest, text ⟨root, names ++ more⟩ = text ⟨root, names⟩ ++ rest := by
  have h' : (root.isEmpty && (names ++ more).isEmpty) = false := by
    rw [Bool.and_eq_false_iff] at h ⊢
    refine h.imp_right fun hn => ?_
    cases names with
    | nil => cases hn
    | cons name names => rfl
  obtain ⟨rest, hr⟩ := intercalate_append_extends [.char '/'] names more
  refine ⟨rest, ?_⟩
  unfold text
  simp only [h, h', Bool.false_eq_true, if_false, hr, List.append_assoc]

theorem text_extend {root : String} {names names' : List CodePoints} (h : names <+: names') :
    text ⟨root, names⟩ = "." ∨ ∃ rest, text ⟨root, names'⟩ = text ⟨root, names⟩ ++ rest := by
  obtain ⟨more, rfl⟩ := h
  cases he : root.isEmpty && names.isEmpty with
  | true => exact .inl (if_pos he)
  | false => exact .inr (text_append he more)

theorem isTooLong_above {root : String} {names names' : List CodePoints} (h : names <+: names')
    (hl : isTooLong ⟨root, names'⟩ = false) : isTooLong ⟨root, names⟩ = false := by
  unfold isTooLong at *
  rcases text_extend h with hd | ⟨rest, hr⟩
  · rw [hd]
    decide
  · rw [hr, CodePoints.byteCount_append] at hl
    simp only [decide_eq_false_iff_not] at hl ⊢
    omega

theorem refusal?_eq_none_iff {p : Path} : p.refusal? = none ↔ p.text.unnameable? = none ∧ .char '\x00' ∉ p.text := by
  unfold refusal?
  cases p.text.unnameable? with
  | some fault => simp
  | none => simp

theorem refusal?_above {root : String} {names names' : List CodePoints} (h : names <+: names')
    (hr : refusal? ⟨root, names'⟩ = none) : refusal? ⟨root, names⟩ = none := by
  rw [refusal?_eq_none_iff, CodePoints.unnameable?, noBytesFrom?_eq_none_iff] at *
  rcases text_extend h with hd | ⟨rest, ht⟩
  · rw [hd]
    decide
  · rw [ht] at hr
    exact ⟨fun c hc => hr.1 c (List.mem_append_left rest hc), fun hc => hr.2 (List.mem_append_left rest hc)⟩

end Path

namespace Tree

/-- The places that the names lead to, one after the other. -/
def wayFrom (place : Place) : List CodePoints → List Place
  | [] => []
  | name :: names => enter place name :: wayFrom (enter place name) names

def landing (place : Place) (names : List CodePoints) : Place := names.foldl enter place

end Tree

namespace Path

def way (p : Path) : List Place := Tree.wayFrom (start p.root) p.names.dropLast

def target (p : Path) : Place := Tree.landing (start p.root) p.names

end Path

namespace Tree
variable {t t' : Tree}

/-! ## Walking -/

theorem wayFrom_append (place : Place) (names : List CodePoints) (name : CodePoints) :
    wayFrom place (names ++ [name]) = wayFrom place names ++ [landing place (names ++ [name])] := by
  induction names generalizing place with
  | nil => rfl
  | cons n names ih =>
    rw [List.cons_append, wayFrom, ih, wayFrom]
    rfl

theorem walk_eq_ok : ∀ {names : List CodePoints} {place : Place}, (∀ name ∈ names, Path.nameTooLong name = false) →
    (∀ w ∈ wayFrom place names.dropLast, t.at? w = some .directory) → t.walk place names = .ok (landing place names)
  | [], _, _, _ => rfl
  | [name], place, hn, _ => by
    rw [walk, if_neg (by simp [hn name (by simp)])]
    rfl
  | name :: next :: names, place, hn, hw => by
    have hd : t.at? (enter place name) = some .directory := hw _ List.mem_cons_self
    unfold walk
    rw [if_neg (by simp [hn name (by simp)])]
    simp only [hd]
    exact walk_eq_ok (fun n h => hn n (List.mem_cons_of_mem _ h)) fun w h => hw w (List.mem_cons_of_mem _ h)

theorem of_walk_eq_ok {q : Place} : ∀ {names : List CodePoints} {place : Place}, t.walk place names = .ok q →
    (∀ name ∈ names, Path.nameTooLong name = false) ∧
    (∀ w ∈ wayFrom place names.dropLast, t.at? w = some .directory) ∧ q = landing place names
  | [], place, h => by
    cases h
    exact ⟨by simp, by simp [wayFrom], rfl⟩
  | [name], place, h => by
    rw [walk] at h
    split at h
    · cases h
    · rename_i hn
      cases h
      exact ⟨by simpa using hn, by simp [wayFrom], rfl⟩
  | name :: next :: names, place, h => by
    unfold walk at h
    split at h
    · cases h
    · rename_i hn
      split at h
      · rename_i hd
        obtain ⟨hns, hw, hq⟩ := of_walk_eq_ok h
        refine ⟨?_, ?_, hq⟩
        · intro n hm
          rcases List.mem_cons.mp hm with rfl | hm
          · simpa using hn
          · exact hns n hm
        · intro w hm
          rcases List.mem_cons.mp hm with rfl | hm
          · exact hd
          · exact hw w hm
      · cases h
      · cases h

/-- What a walk can be stopped by. -/
theorem of_walk_eq_error {s : Stop} : ∀ {names : List CodePoints} {place : Place}, t.walk place names = .error s →
    match s with
    | .tooLong => ∃ name ∈ names, Path.nameTooLong name = true
    | .throughFile => ∃ w ∈ wayFrom place names.dropLast, ∃ bytes, t.at? w = some (.file bytes)
    | .missing => True
  | [], place, h => by cases h
  | [name], place, h => by
    rw [walk] at h
    split at h
    · rename_i hn
      cases h
      exact ⟨name, by simp, hn⟩
    · cases h
  | name :: next :: names, place, h => by
    unfold walk at h
    split at h
    · rename_i hn
      cases h
      exact ⟨name, by simp, hn⟩
    · split at h
      · have ih := of_walk_eq_error h
        cases s with
        | missing => trivial
        | tooLong =>
          obtain ⟨n, hm, hn⟩ := ih
          exact ⟨n, List.mem_cons_of_mem _ hm, hn⟩
        | throughFile =>
          obtain ⟨w, hm, hw⟩ := ih
          exact ⟨w, List.mem_cons_of_mem _ hm, hw⟩
      · rename_i bytes hf
        cases h
        exact ⟨_, List.mem_cons_self, bytes, hf⟩
      · cases h
        trivial

/-! ## Directories above -/

theorem at?_eq_file_iff {q : Place} {bytes : List UInt8} :
    t.at? q = some (.file bytes) ↔ t.files.lookup q = some bytes := by
  unfold at?
  cases t.files.lookup q with
  | none => by_cases hd : t.isDirectory q <;> simp [hd]
  | some old => simp

theorem at?_of_lookup {q : Place} (h : t.files.lookup q = none) : t.at? q = some .directory ∨ t.at? q = none := by
  unfold at?
  rw [h]
  dsimp only
  split
  · exact .inl rfl
  · exact .inr rfl

theorem isFixed_above {w q : Place} (h : isFixed w = true) (hq : q <+: w) : isFixed q = true := by
  unfold isFixed at *
  rcases Bool.or_eq_true_iff.mp h with h | h
  · rw [List.all_eq_true] at h
    have : ∀ name ∈ q, decide (name = "..") = true := fun name hm => h name (hq.subset hm)
    rw [List.all_eq_true.mpr this, Bool.true_or]
  · rw [beq_iff_eq.mp h] at hq
    rcases List.prefix_cons_iff.mp hq with rfl | ⟨tail, rfl, ht⟩
    · rfl
    · rw [List.prefix_nil.mp ht]
      exact Bool.or_true _

theorem isDirectory_above {w q : Place} (h : t.isDirectory w = true) (hq : q <+: w) : t.isDirectory q = true := by
  unfold isDirectory at *
  simp only [Bool.or_eq_true, List.any_eq_true, Bool.and_eq_true, bne_iff_ne, List.isPrefixOf_iff_prefix] at h ⊢
  rcases h with (h | ⟨d, hd, hw⟩) | ⟨f, hf, hw, hne⟩
  · exact .inl (.inl (isFixed_above h hq))
  · exact .inl (.inr ⟨d, hd, hq.trans hw⟩)
  · refine .inr ⟨f, hf, hq.trans hw, ?_⟩
    rintro rfl
    exact hne (hw.eq_of_length (Nat.le_antisymm hw.length_le hq.length_le)).symm

/-! ## Making the way -/

/-- The later tree has the places as directories, and is else as the earlier one. -/
structure Paves (later earlier : Tree) (way : List Place) : Prop where
  files : later.files = earlier.files
  directory_iff : ∀ q, later.isDirectory q = true ↔ earlier.isDirectory q = true ∨ ∃ w ∈ way, q <+: w

theorem Paves.of_directories {way : List Place} (h : ∀ w ∈ way, t.isDirectory w = true) : t.Paves t way := by
  refine ⟨rfl, fun q => ⟨.inl, ?_⟩⟩
  rintro (hq | ⟨w, hw, hq⟩)
  · exact hq
  · exact isDirectory_above (h w hw) hq

theorem Paves.trans {t₁ : Tree} {way more : List Place} (h : t₁.Paves t way) (h' : t'.Paves t₁ more) :
    t'.Paves t (way ++ more) := by
  refine ⟨h'.files.trans h.files, fun q => ?_⟩
  rw [h'.directory_iff, h.directory_iff]
  simp only [List.mem_append, or_and_right, exists_or, or_assoc]

theorem Paves.at?_eq_directory {way : List Place} (h : t'.Paves t way) {w : Place} (hw : w ∈ way)
    (hf : t.files.lookup w = none) : t'.at? w = some .directory := by
  refine at?_eq_directory_iff.mpr ⟨?_, (h.directory_iff w).mpr (.inr ⟨w, hw, List.prefix_refl w⟩)⟩
  rw [h.files]
  exact hf

/-- The later tree has a directory at the place, where the earlier one had it too or had nothing. -/
def Gets (later earlier : Tree) (place : Place) : Prop :=
  (earlier.at? place = some .directory ∧ later = earlier) ∨
    (earlier.at? place = none ∧ later = { earlier with directories := earlier.directories ++ [place] })

theorem Gets.paves {place : Place} (h : t'.Gets t place) : t'.Paves t [place] := by
  rcases h with ⟨hd, rfl⟩ | ⟨-, rfl⟩
  · refine .of_directories fun w hw => ?_
    rw [List.mem_singleton.mp hw]
    exact (at?_eq_directory_iff.mp hd).2
  · refine ⟨rfl, fun q => ?_⟩
    unfold isDirectory
    simp only [List.any_append, List.any_cons, List.any_nil, Bool.or_false, Bool.or_eq_true,
      List.isPrefixOf_iff_prefix, List.mem_singleton, exists_eq_left]
    grind

theorem Gets.lookup {place : Place} (h : t'.Gets t place) : t.files.lookup place = none := by
  rcases h with ⟨hd, -⟩ | ⟨hn, -⟩
  · exact (at?_eq_directory_iff.mp hd).1
  · cases hl : t.files.lookup place with
    | none => rfl
    | some bytes =>
      rw [at?_eq_file_iff.mpr hl] at hn
      cases hn

theorem exists_gets {t : Tree} {place : Place} (h : t.files.lookup place = none) : ∃ t' : Tree, t'.Gets t place := by
  rcases at?_of_lookup h with hd | hn
  · exact ⟨t, .inl ⟨hd, rfl⟩⟩
  · exact ⟨_, .inr ⟨hn, rfl⟩⟩

theorem makeDirectoryAt_eq_ok_iff {p : Path} {place : Place} :
    t.makeDirectoryAt p place = .ok t' ↔ t'.Gets t place := by
  unfold makeDirectoryAt Gets
  cases t.at? place with
  | none => simp [eq_comm]
  | some node =>
    cases node with
    | file bytes => simp
    | directory => simp [eq_comm]

theorem makeDirectoryIn_eq_ok_iff {p : Path} {above : Except (Tree × Failure) Tree} :
    t.makeDirectoryIn p above = .ok t' ↔
    ∃ t₁ place, t₁.place? p = .ok place ∧ t'.Gets t₁ place ∧
      (t₁ = t ∨ above = .ok t₁ ∧ t.place? p = .error .missing) := by
  unfold makeDirectoryIn
  constructor
  · intro h
    split at h
    · rename_i place hp
      exact ⟨t, place, hp, makeDirectoryAt_eq_ok_iff.mp h, .inl rfl⟩
    · rename_i hp
      cases above with
      | error f => cases h
      | ok t₁ =>
        simp only [bind, Except.bind] at h
        split at h
        · rename_i place hp₁
          exact ⟨t₁, place, hp₁, makeDirectoryAt_eq_ok_iff.mp h, .inr ⟨rfl, hp⟩⟩
        · cases h
    · cases h
  · rintro ⟨t₁, place, hp, hg, rfl | ⟨rfl, hm⟩⟩
    · rw [hp]
      exact makeDirectoryAt_eq_ok_iff.mpr hg
    · rw [hm]
      simp only [bind, Except.bind, hp]
      exact makeDirectoryAt_eq_ok_iff.mpr hg

theorem way_snoc (root : String) (above : List CodePoints) (name : CodePoints) :
    Path.way ⟨root, above ++ [name]⟩ = wayFrom (Path.start root) above := by
  rw [Path.way, List.dropLast_concat]

theorem of_place?_eq_ok {p : Path} {q : Place} (h : t.place? p = .ok q) : p.isTooLong = false ∧
    (∀ name ∈ p.names, Path.nameTooLong name = false) ∧
    (∀ w ∈ p.way, t.at? w = some .directory) ∧ q = p.target := by
  unfold place? at h
  split at h
  · cases h
  · rename_i hl
    exact ⟨by simpa using hl, of_walk_eq_ok h⟩

theorem paves_of_makeDirectoriesFrom (root : String) : ∀ {above : List CodePoints} {t' : Tree},
    t.makeDirectoriesFrom root above = .ok t' →
    (∀ w ∈ wayFrom (Path.start root) above.reverse, t.files.lookup w = none) ∧
      t'.Paves t (wayFrom (Path.start root) above.reverse)
  | [], t', h => by
    cases h
    exact ⟨by simp [wayFrom], .of_directories (by simp [wayFrom])⟩
  | name :: above, t', h => by
    obtain ⟨t₁, place, hp, hg, h₁⟩ := makeDirectoryIn_eq_ok_iff.mp h
    obtain ⟨-, -, hw, hq⟩ := of_place?_eq_ok hp
    rw [List.reverse_cons] at hw hq ⊢
    rw [way_snoc] at hw
    have hlast : place = landing (Path.start root) (above.reverse ++ [name]) := hq
    have hway : (∀ w ∈ wayFrom (Path.start root) above.reverse, t.files.lookup w = none) ∧
        t₁.Paves t (wayFrom (Path.start root) above.reverse) := by
      rcases h₁ with rfl | ⟨ha, -⟩
      · exact ⟨fun w hm => (at?_eq_directory_iff.mp (hw w hm)).1,
          .of_directories fun w hm => (at?_eq_directory_iff.mp (hw w hm)).2⟩
      · exact paves_of_makeDirectoriesFrom root ha
    rw [wayFrom_append, ← hlast]
    refine ⟨?_, hway.2.trans hg.paves⟩
    intro w hm
    rcases List.mem_append.mp hm with hm | hm
    · exact hway.1 w hm
    · rw [List.mem_singleton.mp hm, ← hway.2.files]
      exact hg.lookup

theorem place?_eq_ok {p : Path} (hl : p.isTooLong = false) (hn : ∀ name ∈ p.names, Path.nameTooLong name = false)
    (hw : ∀ w ∈ p.way, t.at? w = some .directory) : t.place? p = .ok p.target := by
  unfold place?
  rw [if_neg (by simp [hl])]
  exact walk_eq_ok hn hw

/-- Where no file is in the way, only a missing directory stops a walk. -/
theorem place?_eq_missing {p : Path} {s : Stop} (hl : p.isTooLong = false)
    (hn : ∀ name ∈ p.names, Path.nameTooLong name = false)
    (hf : ∀ w ∈ p.way, t.files.lookup w = none) (h : t.place? p = .error s) : s = .missing := by
  unfold place? at h
  rw [if_neg (by simp [hl])] at h
  have hs := of_walk_eq_error h
  cases s with
  | missing => rfl
  | tooLong =>
    obtain ⟨name, hm, ht⟩ := hs
    rw [hn name hm] at ht
    cases ht
  | throughFile =>
    obtain ⟨w, hm, bytes, ha⟩ := hs
    rw [at?_eq_file_iff, hf w hm] at ha
    cases ha

theorem exists_makeDirectoriesFrom (root : String) : ∀ {above : List CodePoints},
    Path.isTooLong ⟨root, above.reverse⟩ = false → (∀ name ∈ above, Path.nameTooLong name = false) →
    (∀ w ∈ wayFrom (Path.start root) above.reverse, t.files.lookup w = none) →
    ∃ t', t.makeDirectoriesFrom root above = .ok t'
  | [], _, _, _ => ⟨t, rfl⟩
  | name :: above, hl, hn, hf => by
    rw [makeDirectoriesFrom]
    have hnames : ∀ n ∈ (name :: above).reverse, Path.nameTooLong n = false := fun n hm => hn n (List.mem_reverse.mp hm)
    rw [List.reverse_cons] at hl hf hnames ⊢
    rw [wayFrom_append] at hf
    have hway : ∀ w ∈ Path.way ⟨root, above.reverse ++ [name]⟩, t.files.lookup w = none := by
      rw [way_snoc]
      exact fun w hm => hf w (List.mem_append_left _ hm)
    have hlast : t.files.lookup (Path.target ⟨root, above.reverse ++ [name]⟩) = none :=
      hf _ (List.mem_append_right _ (List.mem_singleton_self _))
    cases hp : t.place? ⟨root, above.reverse ++ [name]⟩ with
    | ok place =>
      obtain ⟨-, -, -, hq⟩ := of_place?_eq_ok hp
      obtain ⟨t', hg⟩ := exists_gets (hq ▸ hlast)
      exact ⟨t', makeDirectoryIn_eq_ok_iff.mpr ⟨t, place, hp, hg, .inl rfl⟩⟩
    | error s =>
      have hm := place?_eq_missing hl hnames hway hp
      subst hm
      -- The directory above is made first, and then nothing can stop the walk any more.
      have hl' : Path.isTooLong ⟨root, above.reverse⟩ = false := Path.isTooLong_above (List.prefix_append _ _) hl
      obtain ⟨t₁, ha⟩ := exists_makeDirectoriesFrom root hl' (fun n hm => hn n (List.mem_cons_of_mem _ hm))
        fun w hm => hf w (List.mem_append_left _ hm)
      have hpaved := (paves_of_makeDirectoriesFrom root ha).2
      have hp₁ := place?_eq_ok (t := t₁) hl hnames fun w hm => by
        refine hpaved.at?_eq_directory ?_ (hway w hm)
        rwa [way_snoc] at hm
      obtain ⟨t', hg⟩ := exists_gets (hpaved.files ▸ hlast)
      exact ⟨t', makeDirectoryIn_eq_ok_iff.mpr ⟨t₁, _, hp₁, hg, .inr ⟨ha, hp⟩⟩⟩

/-! ## Writing the file -/

/-- A file can be opened at the path: its text can be asked for and is not too long, no file stands on the
way, and at its end there is a file, or nothing that making the way would turn into a directory. -/
structure Takes (t : Tree) (p : Path) : Prop where
  allowed : p.refusal? = none
  notTooLong : p.isTooLong = false
  names : ∀ name ∈ p.names, Path.nameTooLong name = false
  way : ∀ w ∈ p.way, ∀ bytes, t.at? w ≠ some (.file bytes)
  target : (∃ bytes, t.at? p.target = some (.file bytes)) ∨ t.at? p.target = none ∧ ∀ w ∈ p.way, ¬ p.target <+: w

theorem lookup_eq_none_iff {q : Place} : t.files.lookup q = none ↔ ∀ bytes, t.at? q ≠ some (.file bytes) := by
  simp only [Ne, at?_eq_file_iff, Option.eq_none_iff_forall_ne_some]

/-- Once the way is made, there is no directory at a place exactly if it held a file before, or if it
held nothing and the way does not lead through it. -/
theorem Paves.at?_ne_directory_iff {way : List Place} (h : t'.Paves t way) (q : Place) :
    t'.at? q ≠ some .directory ↔
      (∃ bytes, t.at? q = some (.file bytes)) ∨ t.at? q = none ∧ ∀ w ∈ way, ¬ q <+: w := by
  rw [Ne, at?_eq_directory_iff, h.files, h.directory_iff]
  cases hl : t.files.lookup q with
  | some bytes =>
    simp [at?_eq_file_iff.mpr hl]
  | none =>
    have hf := lookup_eq_none_iff.mp hl
    have hd := at?_eq_directory_iff (t := t) (q := q)
    rcases at?_of_lookup hl with ha | ha
    · simp [ha, (hd.mp ha).2]
    · rw [ha, hl] at hd
      simp only [ha]
      simp at hd
      simp [hd]

theorem opened_iff_takes (t : Tree) (p : Path) :
    (∃ t₁, t.makeDirectories p.parent = .ok t₁ ∧ ∃ place, t₁.Opens p place) ↔ t.Takes p := by
  have hrev : wayFrom (Path.start p.parent.root) p.parent.names.reverse.reverse = p.way := by
    rw [List.reverse_reverse]
    rfl
  constructor
  · rintro ⟨t₁, hm, place, ho⟩
    unfold makeDirectories at hm
    split at hm
    · cases hm
    obtain ⟨hf, hpaved⟩ := paves_of_makeDirectoriesFrom _ hm
    rw [hrev] at hf hpaved
    obtain ⟨hl, hn, -, rfl⟩ := of_place?_eq_ok ho.leads
    exact ⟨ho.allowed, hl, hn, fun w hw => lookup_eq_none_iff.mp (hf w hw), (hpaved.at?_ne_directory_iff _).mp ho.free⟩
  · intro h
    have hf : ∀ w ∈ p.way, t.files.lookup w = none := fun w hw => lookup_eq_none_iff.mpr (h.way w hw)
    obtain ⟨t₁, ht₁⟩ : ∃ t₁, t.makeDirectoriesFrom p.parent.root p.parent.names.reverse = .ok t₁ := by
      refine exists_makeDirectoriesFrom _ ?_ ?_ ?_
      · rw [List.reverse_reverse]
        exact Path.isTooLong_above (List.dropLast_prefix _) h.notTooLong
      · exact fun name hm => h.names name ((List.dropLast_sublist _).subset (List.mem_reverse.mp hm))
      · rw [hrev]
        exact hf
    have hpaved := (paves_of_makeDirectoriesFrom _ ht₁).2
    rw [hrev] at hpaved
    have hr : p.parent.refusal? = none := Path.refusal?_above (List.dropLast_prefix _) h.allowed
    refine ⟨t₁, ?_, p.target, h.allowed, ?_, (hpaved.at?_ne_directory_iff _).mpr h.target⟩
    · rw [makeDirectories, hr]
      exact ht₁
    · exact place?_eq_ok h.notTooLong h.names fun w hw => hpaved.at?_eq_directory hw (hf w hw)

section
variable {later earlier : Tree} {p : Path} {bytes : List UInt8} (h : later.Holds earlier p bytes)
include h

theorem Holds.leads : p.refusal? = none ∧ later.place? p = .ok p.target ∧ later.files.lookup p.target = some bytes := by
  have hfind := h.find
  unfold Tree.find at hfind
  split at hfind
  · cases hfind
  rename_i hallowed
  split at hfind
  · rename_i place hp
    obtain ⟨-, -, -, rfl⟩ := of_place?_eq_ok hp
    exact ⟨by simpa using hallowed, hp, at?_eq_file_iff.mp (Except.ok.inj hfind)⟩
  · cases hfind
  · cases hfind

/-- A path that holds a file takes one, and so did the tree with the same files before. -/
theorem Holds.takes (hf : later.files = earlier.files) : earlier.Takes p := by
  obtain ⟨hallowed, hp, ha⟩ := h.leads
  obtain ⟨hl, hn, hw, -⟩ := of_place?_eq_ok hp
  refine ⟨hallowed, hl, hn, fun w hm => ?_, .inl ⟨bytes, ?_⟩⟩
  · rw [← lookup_eq_none_iff, ← hf]
    exact (at?_eq_directory_iff.mp (hw w hm)).1
  · rw [at?_eq_file_iff, ← hf]
    exact ha

/-- Writing to a path what it holds already changes nothing. -/
theorem Holds.sameFiles_iff : later.SameFiles earlier ↔ earlier.files.lookup p.target = some bytes := by
  obtain ⟨-, hp, ha⟩ := h.leads
  refine ⟨fun hs => (hs _).symm.trans ha, fun he q => ?_⟩
  by_cases hq : q = p.target
  · rw [hq, ha, he]
  · refine h.others q fun hq' => hq ?_
    exact Except.ok.inj (hq'.symm.trans hp)

end

end Tree

end ZigDecls
