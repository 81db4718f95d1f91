import ZigDecls.Proofs.Delivery
import ZigDecls.Proofs.NumberTypes
import ZigDecls.Proofs.Placement

/-!
# How a run ends

A run on a request succeeds exactly if the code is where it was asked for. It succeeds or stops with a
status of failure exactly if all that it has to reach can be reached, and that is settled before the run:
the log has a level, the page can be looked for, and the code, if it can be made, has a place to go to.
-/

namespace ZigDecls.Command
open Text

theorem exists_deliver_iff {tree : Tree} {output code : CodePoints} :
    (∃ tree', deliver tree output code = .ok tree') ↔ tree.Takes (.ofPoints output) ∧ ∃ text : String, code = text := by
  constructor
  · rintro ⟨tree', hd⟩
    obtain ⟨text, hc, ht, -⟩ := deliver_eq_ok hd
    exact ⟨ht, text, hc⟩
  · rintro ⟨ht, text, rfl⟩
    obtain ⟨tree', hd, -⟩ := deliver_string ht text
    exact ⟨tree', hd⟩

namespace Request

/-- The code that the request asks for can be made, and the run leaves it where it was asked for. -/
def Delivered (r : Request) (i : Invocation) (o : Outcome) : Prop :=
  ∃ settings product output, r.Makes i settings product ∧ r.output = some output ∧
    if output = "-" then o.stdout = r.code settings product ∧ o.tree = i.tree
    else o.stdout = [] ∧ ∃ text : String, r.code settings product = text ∧
      o.tree.Holds i.tree (.ofPoints output) text.toUTF8.data.toList

/-- The page can be looked for, and the code, if it can be made, can be printed or written to a file. -/
structure Reaches (r : Request) (i : Invocation) : Prop where
  page : ∀ f, i.tree.find (.ofPoints r.path) ≠ .error f
  output : ∀ settings product, r.Makes i settings product → ∃ output, r.output = some output ∧
    (output = "-" ∨ i.tree.Takes (.ofPoints output) ∧ ∃ text : String, r.code settings product = text)

theorem run_ending_of_find {r : Request} {i : Invocation} {f : Failure}
    (h : i.tree.find (.ofPoints r.path) = .error f) :
    (r.run i).ending = .broken f := by
  unfold run
  rw [h]

theorem run_exited_zero_iff (r : Request) (i : Invocation) :
    (r.run i).ending = .exited 0 ↔ r.Delivered i (r.run i) := by
  have h := r.run_leaves i
  unfold Delivered
  generalize (r.run i).ending = ending, (r.run i).stdout = stdout, (r.run i).tree = tree at h ⊢
  constructor
  · rintro rfl
    cases h with
    | printed hm ho => exact ⟨_, _, "-", hm, ho, by simp⟩
    | written hm ho hne hd =>
      refine ⟨_, _, _, hm, ho, ?_⟩
      rw [if_neg hne]
      obtain ⟨text, hc, -, hh⟩ := deliver_eq_ok hd
      exact ⟨rfl, text, hc, hh⟩
  · rintro ⟨settings, product, output, hm, ho, hd⟩
    by_cases hne : output = "-"
    · subst hne
      cases h with
      | stopped hn => exact absurd hm (hn settings product)
      | unsearchable hf => exact absurd hf (hm.find_ne_error _)
      | nowhere _ hn =>
        rw [hn] at ho
        cases ho
      | printed => rfl
      | written => rfl
      | unwritten _ ho' hne => exact absurd (Option.some.inj (ho'.symm.trans ho)) hne
    · rw [if_neg hne] at hd
      obtain ⟨-, text, hc, hh⟩ := hd
      have hends := (h.delivered hm ho hne).2
      cases hd : deliver i.tree output (r.code settings product) with
      | ok tree' =>
        rw [hd] at hends
        exact hends.1
      | error e =>
        rw [hd] at hends
        rcases deliver_eq_error hd with ⟨hs, -, -⟩ | ⟨ht, hf⟩
        · exact absurd hc (hs text)
        · -- The files are as before, so the file was there already, and then it could be written again.
          rw [hends.2] at hh
          exact absurd (hh.takes hf) ht

theorem run_ending_cases (r : Request) (i : Invocation) :
    r.Reaches i ∧ ((r.run i).ending = .exited 0 ∨ (r.run i).ending = .exited 1) ∨
      ¬ r.Reaches i ∧ ∃ f, (r.run i).ending = .broken f := by
  have h := r.run_leaves i
  have hf : ∀ f, i.tree.find (.ofPoints r.path) = .error f → (r.run i).ending = .broken f :=
    fun f => run_ending_of_find
  generalize (r.run i).ending = ending, (r.run i).stdout = stdout, (r.run i).tree = tree at h hf ⊢
  cases h with
  | stopped hn =>
    refine .inl ⟨⟨fun f he => ?_, fun settings product hm => absurd hm (hn settings product)⟩, .inr rfl⟩
    cases hf f he
  | unsearchable he => exact .inr ⟨fun hr => hr.page _ he, _, rfl⟩
  | nowhere hm ho =>
    refine .inr ⟨fun hr => ?_, _, rfl⟩
    obtain ⟨output, ho', -⟩ := hr.output _ _ hm
    rw [ho] at ho'
    cases ho'
  | printed hm ho =>
    exact .inl ⟨⟨hm.find_ne_error, fun _ _ _ => ⟨"-", ho, .inl rfl⟩⟩, .inl rfl⟩
  | written hm ho hne hd =>
    refine .inl ⟨⟨hm.find_ne_error, fun settings product hm' => ⟨_, ho, .inr ?_⟩⟩, .inl rfl⟩
    obtain ⟨rfl, rfl⟩ := hm.unique hm'
    exact exists_deliver_iff.mp ⟨_, hd⟩
  | unwritten hm ho hne hd =>
    refine .inr ⟨fun hr => ?_, _, rfl⟩
    obtain ⟨output, ho', hto⟩ := hr.output _ _ hm
    obtain rfl := Option.some.inj (ho'.symm.trans ho)
    obtain ⟨tree', hd'⟩ := exists_deliver_iff.mpr (hto.resolve_left hne)
    rw [hd'] at hd
    cases hd

end Request

/-- A run on a request succeeds exactly if the log has a level and the code was delivered. It succeeds or
stops exactly if the log has a level and all that the run needs can be reached, and else it breaks off.

This holds within the limits of `Command`: surrogates come from the arguments alone, standard output takes
every text, so a run that prints its code does not break off, and nothing is refused for want of a permission. -/
theorem run_exits_iff {i : Invocation} {r : Request} (hr : Request.ofArgs i.args = .ok r) :
    ((run i).ending = .exited 0 ↔ r.level.isSome ∧ r.Delivered i (run i)) ∧
    ((run i).ending = .exited 0 ∨ (run i).ending = .exited 1 ↔ r.level.isSome ∧ r.Reaches i) ∧
    (¬ (r.level.isSome ∧ r.Reaches i) → ∃ f, (run i).ending = .broken f) := by
  cases hl : r.level with
  | none =>
    have h : run i = ⟨.broken .noLevel, [], i.tree, none, []⟩ := by simp only [run, hr, hl]
    simp [h]
  | some level =>
    have h := run_of_level hr hl
    have hd : r.Delivered i (run i) = r.Delivered i (r.run i) := by
      simp only [Request.Delivered, h]
    have he : (run i).ending = (r.run i).ending := by simp only [h]
    rw [hd, he]
    refine ⟨?_, ?_, ?_⟩
    · simp [r.run_exited_zero_iff i]
    · rcases r.run_ending_cases i with ⟨hreach, hends⟩ | ⟨hreach, f, hbroken⟩
      · simp [hreach, hends]
      · simp [hreach, hbroken]
    · intro hn
      rcases r.run_ending_cases i with ⟨hreach, -⟩ | ⟨-, hbroken⟩
      · exact absurd ⟨rfl, hreach⟩ hn
      · exact hbroken

theorem run_exits_iff_written :
    let items : List Item := [⟨"section_header", some "Point", none, []⟩, ⟨"text", some "A point.", none, []⟩,
      ⟨"table", none, none,
        [[some "Field", some "Type", some "Description"], [some "x", some "Integer", some "The x."]]⟩]
    let tree : Tree := ⟨[(["page.html"], [60, 112, 62])], []⟩
    let i : Invocation := ⟨["page.html", "--no-region", "-o", "out"], [], tree, items⟩
    ∃ r, Request.ofArgs i.args = .ok r ∧ r.Delivered i (run i) ∧ r.Reaches i := by
  intro items tree i
  have hr : Request.ofArgs i.args =
      .ok { Request.standard with path := "page.html", region := none, output := some "out" } :=
    eq_ok_of_toOption (by decide +kernel)
  have he : (run i).ending = .exited 0 := by decide +kernel
  obtain ⟨hzero, hends, -⟩ := run_exits_iff hr
  exact ⟨_, hr, (hzero.mp he).2, (hends.mp (.inl he)).2⟩

/-- The code is made, but a directory stands where the file should be. -/
theorem run_breaks_at_directory :
    let items : List Item := [⟨"section_header", some "Point", none, []⟩, ⟨"text", some "A point.", none, []⟩,
      ⟨"table", none, none,
        [[some "Field", some "Type", some "Description"], [some "x", some "Integer", some "The x."]]⟩]
    let tree : Tree := ⟨[(["page.html"], [60, 112, 62])], [["out"]]⟩
    let i : Invocation := ⟨["page.html", "--no-region", "-o", "out"], [], tree, items⟩
    (∃ r, Request.ofArgs i.args = .ok r) ∧ (run i).ending = .broken (.isDirectory "out") ∧
      (run i).ending ≠ .exited 0 ∧ (run i).ending ≠ .exited 1 := by
  intro items tree i
  have h : (run i).ending = .broken (.isDirectory "out") := by decide +kernel
  refine ⟨⟨{ Request.standard with path := "page.html", region := none, output := some "out" },
    eq_ok_of_toOption (by decide +kernel)⟩, h, ?_, ?_⟩
  · rw [h]
    nofun
  · rw [h]
    nofun

end ZigDecls.Command
