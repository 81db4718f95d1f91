/-!
# Line endings

A carriage return and line feed, and a carriage return alone, both become one line feed.
-/

namespace ZigDecls.Text

def unifyNewlines : List Char → List Char
  | [] => []
  | '\r' :: '\n' :: cs => '\n' :: unifyNewlines cs
  | c :: cs => (if c = '\r' then '\n' else c) :: unifyNewlines cs

/-- The same change made to the bytes of a text. -/
def unifyNewlineBytes : List UInt8 → List UInt8
  | [] => []
  | 13 :: 10 :: bs => 10 :: unifyNewlineBytes bs
  | b :: bs => (if b = 13 then 10 else b) :: unifyNewlineBytes bs

theorem return_not_mem_unifyNewlines : ∀ cs, '\r' ∉ unifyNewlines cs := by
  intro cs
  fun_induction unifyNewlines cs with
  | case1 => simp
  | case2 cs ih => simpa using ih
  | case3 c cs _ ih =>
    rw [List.mem_cons, not_or]
    refine ⟨?_, ih⟩
    by_cases h : c = '\r'
    · rw [if_pos h]; decide
    · rw [if_neg h]; exact fun e => h e.symm

theorem unifyNewlines_self : ∀ cs, '\r' ∉ cs → unifyNewlines cs = cs
  | [], _ => by rw [unifyNewlines]
  | c :: cs, h => by
    rw [List.mem_cons, not_or] at h
    have hc : c ≠ '\r' := fun e => h.1 e.symm
    rw [unifyNewlines, if_neg hc, unifyNewlines_self cs h.2]
    exact fun _ e => absurd e hc

/-- Line endings are those of the parts, unless one stands across them. -/
theorem unifyNewlines_append (cs ds : List Char) (apart : cs.getLast? = some '\r' → ds.head? ≠ some '\n') :
    unifyNewlines (cs ++ ds) = unifyNewlines cs ++ unifyNewlines ds := by
  fun_induction unifyNewlines cs with
  | case1 => rfl
  | case2 cs ih =>
    rw [List.cons_append, List.cons_append, unifyNewlines, ih, List.cons_append]
    intro hl
    refine apart ?_
    rw [List.getLast?_cons, List.getLast?_cons, hl]
    rfl
  | case3 c cs hno ih =>
    rw [List.cons_append, unifyNewlines, ih, List.cons_append]
    · intro hl
      refine apart ?_
      rw [List.getLast?_cons, hl]
      rfl
    · -- the character before the second part does not end a line with it
      rintro rest rfl h
      cases cs with
      | nil => exact apart rfl (congrArg List.head? h)
      | cons d cs => exact hno _ rfl (by rw [← List.cons.inj h |>.1])

theorem mem_unifyNewlines {c : Char} {cs : List Char} (h : c ∈ unifyNewlines cs) : c = '\n' ∨ c ∈ cs := by
  fun_induction unifyNewlines cs with
  | case1 => cases h
  | case2 cs ih =>
    rcases List.mem_cons.mp h with rfl | h
    · exact .inl rfl
    · exact (ih h).imp_right fun hm => List.mem_cons_of_mem _ (List.mem_cons_of_mem _ hm)
  | case3 d cs hno ih =>
    rcases List.mem_cons.mp h with rfl | h
    · split
      · exact .inl rfl
      · exact .inr List.mem_cons_self
    · exact (ih h).imp_right (List.mem_cons_of_mem _)

theorem mem_unifyNewlines_iff {c : Char} (hr : c ≠ '\r') (hn : c ≠ '\n') {cs : List Char} :
    c ∈ unifyNewlines cs ↔ c ∈ cs := by
  refine ⟨fun h => (mem_unifyNewlines h).resolve_left hn, fun h => ?_⟩
  fun_induction unifyNewlines cs with
  | case1 => cases h
  | case2 cs ih => simp_all
  | case3 d cs hno ih =>
    rcases List.mem_cons.mp h with rfl | h
    · rw [if_neg hr]
      exact List.mem_cons_self
    · exact List.mem_cons_of_mem _ (ih h)

theorem unifyNewlines_eq_nil {cs : List Char} : unifyNewlines cs = [] ↔ cs = [] := by
  fun_induction unifyNewlines cs <;> simp

end ZigDecls.Text
