import ZigDecls.Command.Run
import ZigDecls.Proofs.Placement
import ZigDecls.Proofs.Surrogates

/-!
# Delivering the code

A run that succeeds has made the code and delivers all of it, to standard output or to the file that
was asked for. A run that ends in any other way leaves every file as it was and prints nothing but
the help text, with one exception: where the code has surrogates, the file was opened before that is found,
and stays empty.
-/

namespace ZigDecls.Command
open Text

/-! ## The file -/

section
variable {tree : Tree} {output : CodePoints}

theorem deliver_eq (code : CodePoints) : deliver tree output code =
    tree.makeDirectories (Path.ofPoints output).parent >>= fun t => t.writeFile (.ofPoints output) code := rfl

theorem deliver_of_not_takes (h : ¬ tree.Takes (.ofPoints output)) (code : CodePoints) :
    ∃ tree' f, deliver tree output code = .error (tree', f) ∧ tree'.files = tree.files := by
  have hf := tree.files_makeDirectories (Path.ofPoints output).parent
  rw [deliver_eq]
  cases hm : tree.makeDirectories (Path.ofPoints output).parent with
  | error e =>
    rw [hm] at hf
    exact ⟨e.1, e.2, rfl, hf⟩
  | ok t₁ =>
    rw [hm] at hf
    obtain ⟨f, hw⟩ := Tree.writeFile_of_not_opens (t := t₁) (p := .ofPoints output)
      (fun place ho => h ((tree.opened_iff_takes _).mp ⟨t₁, hm, place, ho⟩)) code
    exact ⟨t₁, f, hw, hf⟩

variable (h : tree.Takes (.ofPoints output))
include h

/-- What is written to a path that takes a file, and what is left of it where it has no bytes. -/
theorem deliver_of_takes : ∃ tree' : List UInt8 → Tree,
    (∀ bytes, (tree' bytes).Holds tree (.ofPoints output) bytes) ∧ ∀ code, deliver tree output code =
      match code.encode with
      | .error fault => .error (tree' [], .noBytes fault)
      | .ok bytes => .ok (tree' bytes) := by
  obtain ⟨t₁, hm, place, ho⟩ := (tree.opened_iff_takes _).mpr h
  have hf := tree.files_makeDirectories (Path.ofPoints output).parent
  rw [hm] at hf
  refine ⟨fun bytes => t₁.putFile place bytes, fun bytes => ?_, fun code => ?_⟩
  · have hh := ho.holds_putFile bytes
    exact ⟨hh.find, fun q hq => (hh.others q hq).trans (congrArg _ hf)⟩
  · rw [deliver_eq, hm]
    exact Tree.writeFile_of_opens ho code

theorem deliver_string (code : String) : ∃ tree', deliver tree output code = .ok tree' ∧
    tree'.Holds tree (.ofPoints output) code.toUTF8.data.toList := by
  obtain ⟨tree', hh, hd⟩ := deliver_of_takes h
  exact ⟨tree' _, by rw [hd, CodePoints.encode_string], hh _⟩

theorem deliver_surrogates {code : CodePoints} (hc : ∀ text : String, code ≠ text) : ∃ tree' fault,
    deliver tree output code = .error (tree', .noBytes fault) ∧ tree'.Holds tree (.ofPoints output) [] := by
  obtain ⟨tree', hh, hd⟩ := deliver_of_takes h
  obtain ⟨fault, he⟩ := CodePoints.encode_eq_error hc
  exact ⟨tree' [], fault, by rw [hd, he], hh _⟩

end

theorem deliver_eq_ok {tree tree' : Tree} {output code : CodePoints} (hd : deliver tree output code = .ok tree') :
    ∃ text : String, code = text ∧ tree.Takes (.ofPoints output) ∧
      tree'.Holds tree (.ofPoints output) text.toUTF8.data.toList := by
  by_cases ht : tree.Takes (.ofPoints output)
  · by_cases hc : ∃ text : String, code = text
    · obtain ⟨text, rfl⟩ := hc
      obtain ⟨t, hd', hh⟩ := deliver_string ht text
      obtain rfl : t = tree' := Except.ok.inj (hd'.symm.trans hd)
      exact ⟨text, rfl, ht, hh⟩
    · obtain ⟨t, fault, hd', -⟩ := deliver_surrogates ht (not_exists.mp hc)
      cases hd'.symm.trans hd
  · obtain ⟨t, f, hd', -⟩ := deliver_of_not_takes ht code
    cases hd'.symm.trans hd

/-- Where delivering fails the file was opened, and is empty, or no file has changed. -/
theorem deliver_eq_error {tree tree' : Tree} {output code : CodePoints} {f : Failure}
    (hd : deliver tree output code = .error (tree', f)) :
    ((∀ text : String, code ≠ text) ∧ tree.Takes (.ofPoints output) ∧ tree'.Holds tree (.ofPoints output) []) ∨
    (¬ tree.Takes (.ofPoints output) ∧ tree'.files = tree.files) := by
  by_cases ht : tree.Takes (.ofPoints output)
  · by_cases hc : ∃ text : String, code = text
    · obtain ⟨text, rfl⟩ := hc
      obtain ⟨t, hd', -⟩ := deliver_string ht text
      cases hd'.symm.trans hd
    · obtain ⟨t, fault, hd', hh⟩ := deliver_surrogates ht (not_exists.mp hc)
      cases hd'.symm.trans hd
      exact .inl ⟨not_exists.mp hc, ht, hh⟩
  · obtain ⟨t, f', hd', hf⟩ := deliver_of_not_takes ht code
    cases hd'.symm.trans hd
    exact .inr ⟨ht, hf⟩

/-! ## The code -/

/-- What the request asks for can be made: the page is there, the settings can be read, and the work
on the page comes to this. -/
structure Request.Makes (r : Request) (i : Invocation) (settings : Settings) (product : Product) : Prop where
  page : ∃ node, i.tree.find (.ofPoints r.path) = .ok (some node)
  inForce : r.settings i.env = .ok settings
  work : (Run.onPage i.tree (Path.ofPoints r.path).text r.region i.items
    (produceBy (r.overrides.declare settings))).result = .ok product

theorem Overrides.declareRecords_of_declare {o : Overrides} {settings : Settings} {records : List Record}
    {events : List Event} {code : Code} (h : o.declare settings records = (events, .ok code)) :
    declareRecords settings records = (events, .ok code) := by
  unfold declare at h
  dsimp only at h
  split at h
  · exact h
  · split at h
    · cases h
    · cases h

theorem produce_of_produceBy {declare : List Record → List Event × Except Failure Code} {settings : Settings}
    {elements : List Element} {product : Product}
    (hd : ∀ records events code, declare records = (events, .ok code) →
      declareRecords settings records = (events, .ok code))
    (h : (produceBy declare elements).2 = .ok product) : (produce settings elements).2 = .ok product := by
  unfold produce
  unfold produceBy at h ⊢
  dsimp only at h ⊢
  split at h
  · cases h
  · rename_i events code hc
    rw [hd _ _ _ hc]
    exact h

theorem Request.Makes.ofPage {r : Request} {i : Invocation} {settings : Settings} {product : Product}
    (h : r.Makes i settings product) :
    (Run.ofPage i.tree (Path.ofPoints r.path).text r.region settings i.items).result = .ok product := by
  have hw := h.work
  unfold Run.ofPage
  unfold Run.onPage at hw ⊢
  split at hw
  · cases hw
  · exact produce_of_produceBy (fun _ _ _ => Overrides.declareRecords_of_declare) hw

theorem declared_of_produceBy {declare : List Record → List Event × Except Failure Code} {elements : List Element}
    {product : Product} (h : (produceBy declare elements).2 = .ok product) :
    ∃ events, declare product.records = (events, .ok product.code) := by
  unfold produceBy at h
  dsimp only at h
  split at h
  · cases h
  · rename_i events code hc
    cases h
    exact ⟨events, hc⟩

/-- The code of a run is that of the work on the page, but for what stands in there for surrogates. -/
theorem Request.Makes.standIn_code {r : Request} {i : Invocation} {settings : Settings} {product : Product}
    (h : r.Makes i settings product) : CodePoints.standIn (r.code settings product) = product.code.text := by
  have hw := h.work
  unfold Run.onPage at hw
  split at hw
  · cases hw
  · obtain ⟨events, hd⟩ := declared_of_produceBy hw
    exact Overrides.standIn_code h.inForce (Overrides.declareRecords_of_declare hd)

/-! ## The ways a run can end -/

/-- How a run on the request ends, what it prints, and the tree it leaves. -/
inductive Request.Leaves (r : Request) (i : Invocation) : Ending → CodePoints → Tree → Prop
  | stopped : (∀ settings product, ¬ r.Makes i settings product) → Leaves r i (.exited 1) [] i.tree
  | unsearchable {f} : i.tree.find (.ofPoints r.path) = .error f → Leaves r i (.broken f) [] i.tree
  | nowhere {settings product} : r.Makes i settings product → r.output = none → Leaves r i (.broken .noOutput) [] i.tree
  | printed {settings product} : r.Makes i settings product → r.output = some ("-" : CodePoints) →
      Leaves r i (.exited 0) (r.code settings product) i.tree
  | written {settings product output tree} : r.Makes i settings product → r.output = some output → output ≠ "-" →
      deliver i.tree output (r.code settings product) = .ok tree → Leaves r i (.exited 0) [] tree
  | unwritten {settings product output tree f} : r.Makes i settings product → r.output = some output → output ≠ "-" →
      deliver i.tree output (r.code settings product) = .error (tree, f) → Leaves r i (.broken f) [] tree

theorem Request.run_leaves (r : Request) (i : Invocation) :
    r.Leaves i (r.run i).ending (r.run i).stdout (r.run i).tree := by
  unfold Request.run
  dsimp only
  split
  · rename_i f hf
    exact .unsearchable hf
  · rename_i hf
    refine .stopped fun settings product hm => ?_
    obtain ⟨node, hn⟩ := hm.page
    rw [hf] at hn
    cases hn
  · rename_i node hf
    split
    · rename_i problems hs
      refine .stopped fun settings product hm => ?_
      have := hm.inForce
      rw [hs] at this
      cases this
    · rename_i settings hs
      split
      · rename_i f hw
        refine .stopped fun settings' product hm => ?_
        obtain rfl : settings = settings' := Except.ok.inj (hs.symm.trans hm.inForce)
        have := hm.work
        rw [hw] at this
        cases this
      · rename_i product hw
        have hm : r.Makes i settings product := ⟨⟨node, hf⟩, hs, hw⟩
        split
        · rename_i ho
          exact .nowhere hm ho
        · rename_i output ho
          split
          · rename_i hstdout
            subst hstdout
            exact .printed hm ho
          · rename_i hne
            split
            · rename_i hd
              exact .written hm ho hne hd
            · rename_i hd
              exact .unwritten hm ho hne hd

inductive Leaves (i : Invocation) : Ending → CodePoints → Tree → Prop
  | helped : Leaves i .helped helpText i.tree
  | misused {m} : Leaves i (.misused m) [] i.tree
  | unlogged {r} : Request.ofArgs i.args = .ok r → r.level = none → Leaves i (.broken .noLevel) [] i.tree
  | ran {r ending stdout tree} : Request.ofArgs i.args = .ok r → r.level.isSome → r.Leaves i ending stdout tree →
      Leaves i ending stdout tree

theorem run_of_level {i : Invocation} {r : Request} {level : Level} (hr : Request.ofArgs i.args = .ok r)
    (hl : r.level = some level) : run i = { r.run i with log := visibleAt level (r.run i).log } := by
  simp only [run, hr, hl]

theorem run_leaves (i : Invocation) : Leaves i (run i).ending (run i).stdout (run i).tree := by
  cases hr : Request.ofArgs i.args with
  | error stop =>
    cases stop with
    | help =>
      have h : run i = ⟨.helped, helpText, i.tree, none, []⟩ := by rw [run, hr]
      simp only [h]
      exact .helped
    | misuse m =>
      have h : run i = ⟨.misused m, [], i.tree, none, []⟩ := by rw [run, hr]
      simp only [h]
      exact .misused
  | ok r =>
    cases hl : r.level with
    | none =>
      have h : run i = ⟨.broken .noLevel, [], i.tree, none, []⟩ := by simp only [run, hr, hl]
      simp only [h]
      exact .unlogged hr hl
    | some level =>
      simp only [run_of_level hr hl]
      exact .ran hr (by rw [hl]; rfl) (r.run_leaves i)

theorem Request.Makes.unique {r : Request} {i : Invocation} {settings settings' : Settings} {product product' : Product}
    (h : r.Makes i settings product) (h' : r.Makes i settings' product') :
    settings = settings' ∧ product = product' := by
  obtain rfl : settings = settings' := Except.ok.inj (h.inForce.symm.trans h'.inForce)
  exact ⟨rfl, Except.ok.inj (h.work.symm.trans h'.work)⟩

theorem Request.Makes.find_ne_error {r : Request} {i : Invocation} {settings : Settings} {product : Product}
    (h : r.Makes i settings product) (f : Failure) : i.tree.find (.ofPoints r.path) ≠ .error f := by
  intro hf
  obtain ⟨node, hp⟩ := h.page
  rw [hf] at hp
  cases hp

/-- Once the code is made and is to go to a file, the run ends as the delivery does. -/
theorem Request.Leaves.delivered {r : Request} {i : Invocation} {settings : Settings} {product : Product}
    {output stdout : CodePoints} {ending : Ending} {tree : Tree} (h : r.Leaves i ending stdout tree)
    (hm : r.Makes i settings product) (ho : r.output = some output) (hne : output ≠ "-") : stdout = [] ∧
    match deliver i.tree output (r.code settings product) with
    | .ok tree' => ending = .exited 0 ∧ tree = tree'
    | .error (tree', f) => ending = .broken f ∧ tree = tree' := by
  cases h with
  | stopped hn => exact absurd hm (hn _ _)
  | unsearchable hf => exact absurd hf (hm.find_ne_error _)
  | nowhere _ hn =>
    rw [hn] at ho
    cases ho
  | printed _ ho' => exact absurd (Option.some.inj (ho.symm.trans ho')) hne
  | written hm' ho' _ hd =>
    obtain ⟨rfl, rfl⟩ := hm.unique hm'
    obtain rfl := Option.some.inj (ho.symm.trans ho')
    rw [hd]
    exact ⟨rfl, rfl, rfl⟩
  | unwritten hm' ho' _ hd =>
    obtain ⟨rfl, rfl⟩ := hm.unique hm'
    obtain rfl := Option.some.inj (ho.symm.trans ho')
    rw [hd]
    exact ⟨rfl, rfl, rfl⟩

/-! ## All or nothing -/

/-- A run that succeeds delivers exactly the code that the work on the page comes to, and changes no
file but the one it is delivered to. A run that does not succeed changes no file and prints nothing,
unless it was asked for help. -/
def AllOrNothing (i : Invocation) (o : Outcome) : Prop :=
  match o.ending with
  | .exited 0 => ∃ r output settings product, Request.ofArgs i.args = .ok r ∧ r.output = some output ∧
      r.settings i.env = .ok settings ∧
      (Run.ofPage i.tree (Path.ofPoints r.path).text r.region settings i.items).result = .ok product ∧
      CodePoints.standIn (r.code settings product) = product.code.text ∧
      if output = "-" then o.stdout = r.code settings product ∧ o.tree = i.tree
      else o.stdout = [] ∧ ∃ text : String, r.code settings product = text ∧
        o.tree.Holds i.tree (.ofPoints output) text.toUTF8.data.toList
  | .helped => o.stdout = helpText ∧ o.tree = i.tree
  | _ => o.stdout = [] ∧ o.tree.SameFiles i.tree

/-- The code can be made, but has surrogates, and was to go to a file that can be opened and is not there or
not empty. -/
def Empties (i : Invocation) (output : CodePoints) : Prop :=
  ∃ r settings product, Request.ofArgs i.args = .ok r ∧ r.level.isSome ∧ r.Makes i settings product ∧
    r.output = some output ∧ output ≠ "-" ∧ i.tree.Takes (.ofPoints output) ∧
    i.tree.files.lookup (Path.ofPoints output).target ≠ some [] ∧ ∀ text : String, r.code settings product ≠ text

theorem Empties.leaves {i : Invocation} {output : CodePoints} (h : Empties i output) :
    (∃ fault, (run i).ending = .broken (.noBytes fault)) ∧ (run i).stdout = [] ∧
    (run i).tree.Holds i.tree (.ofPoints output) [] := by
  obtain ⟨r, settings, product, hr, hl, hm, ho, hne, ht, -, hc⟩ := h
  obtain ⟨level, hl⟩ := Option.isSome_iff_exists.mp hl
  obtain ⟨tree, fault, hd, hh⟩ := deliver_surrogates ht hc
  have hleaves := (r.run_leaves i).delivered hm ho hne
  rw [hd] at hleaves
  obtain ⟨hstdout, hending, htree⟩ := hleaves
  simp only [run_of_level hr hl]
  exact ⟨⟨fault, hending⟩, hstdout, htree ▸ hh⟩

theorem not_allOrNothing_of_empties {i : Invocation} {output : CodePoints} (h : Empties i output) :
    ¬ AllOrNothing i (run i) := by
  obtain ⟨⟨fault, hending⟩, -, hh⟩ := h.leaves
  obtain ⟨r, settings, product, -, -, -, -, -, -, hl, -⟩ := h
  unfold AllOrNothing
  rw [hending]
  exact fun hs => hl (hh.sameFiles_iff.mp hs.2)

theorem allOrNothing_of_ran {i : Invocation} {r : Request} (hr : Request.ofArgs i.args = .ok r) (hl : r.level.isSome)
    (hn : ∀ output, ¬ Empties i output) {o : Outcome} (h : r.Leaves i o.ending o.stdout o.tree) : AllOrNothing i o := by
  obtain ⟨ending, stdout, tree, stream, log⟩ := o
  dsimp only at h
  cases h with
  | stopped => exact ⟨rfl, fun _ => rfl⟩
  | unsearchable => exact ⟨rfl, fun _ => rfl⟩
  | nowhere => exact ⟨rfl, fun _ => rfl⟩
  | printed hm ho =>
    exact ⟨r, "-", _, _, hr, ho, hm.inForce, hm.ofPage, hm.standIn_code, by simp⟩
  | written hm ho hne hd =>
    refine ⟨r, _, _, _, hr, ho, hm.inForce, hm.ofPage, hm.standIn_code, ?_⟩
    obtain ⟨text, hc, -, hh⟩ := deliver_eq_ok hd
    rw [if_neg hne]
    exact ⟨rfl, text, hc, hh⟩
  | @unwritten settings product output _ f hm ho hne hd =>
    refine ⟨rfl, ?_⟩
    rcases deliver_eq_error hd with ⟨hc, ht, hh⟩ | ⟨-, hf⟩
    · -- The file was emptied, so it was empty before.
      refine hh.sameFiles_iff.mpr (Classical.byContradiction fun he => ?_)
      exact hn output ⟨r, settings, product, hr, hl, hm, ho, hne, ht, he, hc⟩
    · exact fun q => congrArg _ hf

/-- A run delivers all or nothing, unless it empties the file that the code should go to. It does just where
the code can be made and has surrogates, and then it breaks off with the path leading to an empty file. -/
theorem run_delivers_all_or_nothing (i : Invocation) :
    (AllOrNothing i (run i) ↔ ∀ output, ¬ Empties i output) ∧
    ∀ output, Empties i output → (∃ fault, (run i).ending = .broken (.noBytes fault)) ∧ (run i).stdout = [] ∧
      (run i).tree.Holds i.tree (.ofPoints output) [] := by
  refine ⟨⟨fun h output he => not_allOrNothing_of_empties he h, fun hn => ?_⟩, fun output => Empties.leaves⟩
  have h := run_leaves i
  generalize run i = o at h
  obtain ⟨ending, stdout, tree, stream, log⟩ := o
  dsimp only at h
  unfold AllOrNothing
  cases h with
  | helped => simp only [and_self]
  | misused => exact ⟨rfl, fun _ => rfl⟩
  | unlogged => exact ⟨rfl, fun _ => rfl⟩
  | ran hr hl h => exact allOrNothing_of_ran hr hl hn h

/-- The type of integers is one surrogate, and the file that holds the earlier code is emptied. -/
theorem run_empties_file :
    let items : List Item := [⟨"section_header", some "Point", none, []⟩, ⟨"text", some "A point.", none, []⟩,
      ⟨"table", none, none,
        [[some "Field", some "Type", some "Description"], [some "x", some "Integer", some "The x."]]⟩]
    let tree : Tree := ⟨[(["page.html"], [60, 112, 62]), (["types.zig"], [10])], []⟩
    let i : Invocation :=
      ⟨["page.html", "--no-region", "--integer-repr", [.surrogate 0x4FF], "-o", "types.zig"], [], tree, items⟩
    (run i).ending = .broken (.noBytes ⟨62, 0x4FF, 1⟩) ∧ (run i).tree.files.lookup (["types.zig"] : Place) = some [] ∧
      ¬ AllOrNothing i (run i) := by
  intro items tree i
  have hending : (run i).ending = .broken (.noBytes ⟨62, 0x4FF, 1⟩) := by decide +kernel
  have hfile : (run i).tree.files.lookup (["types.zig"] : Place) = some [] := by decide +kernel
  refine ⟨hending, hfile, ?_⟩
  unfold AllOrNothing
  rw [hending]
  rintro ⟨-, hs⟩
  have h := hs ["types.zig"]
  rw [hfile] at h
  revert h
  decide +kernel

end ZigDecls.Command
