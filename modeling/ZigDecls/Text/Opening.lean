/-!
# How a text begins

Taking a fixed beginning off a list, or the longest run of one class, loses nothing of it. The parts
that a list is split in hold nothing of what it is split at.
-/

namespace ZigDecls.Text

theorem eq_append_of_isPrefixOf? {α} [BEq α] [LawfulBEq α] :
    ∀ {p l r : List α}, p.isPrefixOf? l = some r → l = p ++ r
  | [], _, _, h => Option.some.inj h
  | _ :: _, [], _, h => nomatch (h : none = some _)
  | a :: p, b :: l, r, h => by
    have h : (if a == b then p.isPrefixOf? l else none) = some r := h
    split at h
    · next he => rw [eq_append_of_isPrefixOf? h, eq_of_beq he]; rfl
    · cases h

theorem isPrefixOf?_append {α} [BEq α] [LawfulBEq α] (p rest : List α) : p.isPrefixOf? (p ++ rest) = some rest := by
  induction p with
  | nil => cases rest <;> rfl
  | cons a p ih =>
    show (if a == a then p.isPrefixOf? (p ++ rest) else none) = some rest
    rw [if_pos (beq_self_eq_true a), ih]

theorem length_takeWhile_add {α} (p : α → Bool) (l : List α) :
    (l.takeWhile p).length + (l.dropWhile p).length = l.length := by
  rw [← List.length_append, List.takeWhile_append_dropWhile]

theorem of_mem_splitOnP {α} {p : α → Bool} :
    ∀ {l part : List α}, part ∈ l.splitOnP p → ∀ a ∈ part, a ∈ l ∧ p a = false
  | [], part, h, _, ha => by
    rw [List.splitOnP_nil, List.mem_singleton] at h
    subst h
    cases ha
  | b :: l, part, h, a, ha => by
    have later {part : List α} (h : part ∈ l.splitOnP p) (ha : a ∈ part) : a ∈ b :: l ∧ p a = false :=
      (of_mem_splitOnP h a ha).imp_left (List.mem_cons_of_mem _)
    rw [List.splitOnP_cons_eq_if_modifyHead] at h
    split at h
    · rcases List.mem_cons.mp h with rfl | h
      · cases ha
      · exact later h ha
    · next hb =>
      obtain ⟨first, parts, hl⟩ := List.exists_cons_of_ne_nil (List.splitOnP_ne_nil p l)
      rw [hl, List.modifyHead_cons] at h
      rcases List.mem_cons.mp h with rfl | h
      · rcases List.mem_cons.mp ha with rfl | ha
        · exact ⟨List.mem_cons_self, Bool.eq_false_iff.mpr hb⟩
        · exact later (hl ▸ List.mem_cons_self) ha
      · exact later (hl ▸ List.mem_cons_of_mem _ h) ha

theorem mem_intercalate {α} {a sep : α} : ∀ {parts : List (List α)},
    a ∈ [sep].intercalate parts → a = sep ∨ ∃ part ∈ parts, a ∈ part
  | [], h => by cases h
  | [part], h => .inr ⟨part, List.mem_cons_self, by rwa [List.intercalate_singleton] at h⟩
  | part :: next :: parts, h => by
    rw [List.intercalate_cons_cons, List.append_assoc, List.mem_append, List.mem_append, List.mem_singleton] at h
    rcases h with h | h | h
    · exact .inr ⟨part, List.mem_cons_self, h⟩
    · exact .inl h
    · exact (mem_intercalate h).imp_right fun ⟨p, hp, ha⟩ => ⟨p, List.mem_cons_of_mem _ hp, ha⟩

end ZigDecls.Text
