import ZigDecls.Markup.Reference
import ZigDecls.Markup.Writer
import ZigDecls.Text.Utf8

/-!
# References that are written

Reading undoes what writing escapes (`resolve_escape`, `resolve_quoted`): of all the names of entities
only the one that was written fits between its ampersand and its semicolon. No reference stands for NUL
(`resolve_nulFree`).
-/

namespace ZigDecls.Markup
open Text

/-! ## The names -/

def written : List (Char × String) := [('&', "amp"), ('<', "lt"), ('>', "gt"), ('"', "quot")]

/-- The bytes of a name. The kernel compares them much faster than the characters. -/
def octets (s : String) : List UInt8 := s.toUTF8.data.toList

/-- No name holds a semicolon, and one that begins a written name is that name with its character. -/
theorem names_apart : (namedCharacters.all fun e => !(octets e.1).contains 59 &&
    written.all fun w => !(octets e.1).isPrefixOf (octets w.2) || e == (w.2, [w.1.toNat])) = true := by
  decide +kernel

theorem written_mem : ∀ w ∈ written, (w.2, [w.1.toNat]) ∈ namedCharacters := by decide +kernel

theorem codes_ne_zero : (namedCharacters.all fun e => e.2.all fun n => (Char.ofNat n).toNat != 0) = true := by
  decide +kernel

theorem prefix_before {α} {s : α} : ∀ {l a b : List α}, l <+: a ++ s :: b → s ∉ l → l <+: a
  | [], _, _, _, _ => List.nil_prefix
  | x :: l, [], b, h, hs => absurd (List.cons_prefix_cons.mp h).1 fun e => hs (e ▸ List.mem_cons_self)
  | x :: l, y :: a, b, h, hs => by
    obtain ⟨rfl, ht⟩ := List.cons_prefix_cons.mp h
    exact List.cons_prefix_cons.mpr ⟨rfl, prefix_before ht fun hm => hs (List.mem_cons_of_mem _ hm)⟩

theorem octets_before {name s : String} {rest r : List Char} (h : s.toList ++ ';' :: rest = name.toList ++ r)
    (hs : 59 ∉ octets name) : octets name <+: octets s := by
  have he := congrArg Utf8.encode h
  simp only [Utf8.encode, List.flatMap_append, List.flatMap_cons] at he
  simp only [← Utf8.encode.eq_1, Utf8.encode_toList] at he
  exact prefix_before ⟨_, he.symm⟩ hs

section
variable {place : Place} {w : Char × String} {rest : List Char}

theorem rest?_written (hw : w ∈ written) {e : String × List Nat} (he : e ∈ namedCharacters) {bare : Bool}
    {content r : List Char}
    (h : Entity.rest? place (w.2.toList ++ ';' :: rest) ⟨e.1.toList, content, bare⟩ = some r) :
    e = (w.2, [w.1.toNat]) ∧ r = rest := by
  have apart := List.all_eq_true.mp names_apart e he
  simp only [Bool.and_eq_true, Bool.not_eq_true', List.contains_eq_mem, decide_eq_false_iff_not,
    List.all_eq_true, Bool.or_eq_true, beq_iff_eq] at apart
  have named {left : List Char} (hp : e.1.toList.isPrefixOf? (w.2.toList ++ ';' :: rest) = some left) :
      e = (w.2, [w.1.toNat]) ∧ left = ';' :: rest := by
    have hl := eq_append_of_isPrefixOf? hp
    have same : e = (w.2, [w.1.toNat]) := by
      refine (apart.2 w hw).resolve_left fun hn => ?_
      rw [List.isPrefixOf_iff_prefix.mpr (octets_before hl apart.1)] at hn
      cases hn
    refine ⟨same, ?_⟩
    rw [same] at hl
    exact (List.append_cancel_left hl).symm
  unfold Entity.rest? at h
  split at h
  · next left hp =>
    obtain ⟨same, hl⟩ := named hp
    exact ⟨same, (Option.some.inj h).symm.trans (List.cons.inj hl).2⟩
  · next left hnot hp => exact absurd (named hp).2 (hnot rest)
  · cases h

theorem entity?_written (hw : w ∈ written) :
    entity? place (w.2.toList ++ ';' :: rest) = some ([w.1], rest) := by
  unfold entity?
  generalize hl : (entities.filterMap fun e => (e.rest? place (w.2.toList ++ ';' :: rest)).map fun r =>
    (e.content, r)) = l
  have only : ∀ found ∈ l, found = ([w.1], rest) := by
    intro found hf
    rw [← hl] at hf
    obtain ⟨entity, hentity, hr⟩ := List.mem_filterMap.mp hf
    obtain ⟨e, he, rfl⟩ := List.mem_map.mp hentity
    obtain ⟨r, hrest, rfl⟩ := Option.map_eq_some_iff.mp hr
    obtain ⟨same, hr⟩ := rest?_written hw he hrest
    simp [same, hr]
  have found : ([w.1], rest) ∈ l := by
    rw [← hl]
    refine List.mem_filterMap.mpr ⟨_, List.mem_map_of_mem (written_mem w hw), ?_⟩
    simp [Entity.rest?, isPrefixOf?_append]
  rw [List.getLast?_eq_some_getLast (List.ne_nil_of_mem found), only _ (List.getLast_mem _)]

theorem reference?_written (hw : w ∈ written) :
    reference? place (w.2.toList ++ ';' :: rest) = some ([w.1], rest) := by
  have hn : ∀ w ∈ written, w.2.toList.head? ≠ some '#' ∧ w.2.toList ≠ [] := by decide
  obtain ⟨hn, he⟩ := hn w hw
  rw [← entity?_written hw]
  cases h : w.2.toList with
  | nil => exact absurd h he
  | cons c cs =>
    rw [h] at hn
    have hc : c ≠ '#' := fun e => hn (by rw [e]; rfl)
    rw [List.cons_append, reference?]
    all_goals intros; simp_all

end

/-! ## Texts and values -/

section
variable {place : Place} {cs content rest : List Char} {c : Char}

theorem resolve_reference (h : reference? place cs = some (content, rest)) :
    resolve place ('&' :: cs) = content ++ resolve place rest := by
  rw [resolve, if_pos rfl]
  split
  · next hf => rw [h] at hf; cases hf; rfl
  · next hf => rw [h] at hf; cases hf

theorem resolve_cons (hc : c ≠ '&') : resolve place (c :: cs) = c :: resolve place cs := by
  rw [resolve, if_neg hc]

def Spells (f : Char → List Char) : Prop :=
  ∀ c, f c = [c] ∧ c ≠ '&' ∨ ∃ name, (c, name) ∈ written ∧ f c = '&' :: (name.toList ++ [';'])

theorem resolve_flatMap {f : Char → List Char} (hf : Spells f) (cs : List Char) :
    resolve place (cs.flatMap f) = cs := by
  induction cs with
  | nil => rw [List.flatMap_nil, resolve]
  | cons c cs ih =>
    rw [List.flatMap_cons]
    obtain ⟨hc, hn⟩ | ⟨name, hw, hc⟩ := hf c
    · rw [hc, List.singleton_append, resolve_cons hn, ih]
    · rw [hc, List.cons_append, List.append_assoc, List.singleton_append,
        resolve_reference (reference?_written hw), ih]
      rfl

def escapeChar (c : Char) : List Char :=
  if c = '&' then "&amp;".toList
  else if c = '<' then "&lt;".toList
  else if c = '>' then "&gt;".toList
  else [c]

theorem escape_eq (cs : List Char) : escape cs = cs.flatMap escapeChar := rfl

theorem escapeChar_cases (c : Char) : escapeChar c = [c] ∧ c ≠ '&' ∧ c ≠ '<' ∧ c ≠ '>' ∨
    ∃ name, (c, name) ∈ written ∧ escapeChar c = '&' :: (name.toList ++ [';']) := by
  unfold escapeChar
  by_cases h₁ : c = '&'
  · subst h₁; exact .inr ⟨"amp", by decide, rfl⟩
  by_cases h₂ : c = '<'
  · subst h₂; exact .inr ⟨"lt", by decide, rfl⟩
  by_cases h₃ : c = '>'
  · subst h₃; exact .inr ⟨"gt", by decide, rfl⟩
  · rw [if_neg h₁, if_neg h₂, if_neg h₃]
    exact .inl ⟨rfl, h₁, h₂, h₃⟩

theorem spells_escapeChar : Spells escapeChar := fun c => (escapeChar_cases c).imp_left fun h => ⟨h.1, h.2.1⟩

theorem resolve_escape (cs : List Char) : resolve place (escape cs) = cs := resolve_flatMap spells_escapeChar cs

/-- What a double quote is written as where both marks stand in the value. -/
def quoteChar (c : Char) : List Char := if c = '"' then "&quot;".toList else [c]

def quotedChar (c : Char) : List Char := (escapeChar c).flatMap quoteChar

theorem spells_quotedChar : Spells quotedChar := fun c => by
  unfold quotedChar
  by_cases hq : c = '"'
  · subst hq; exact .inr ⟨"quot", by decide, rfl⟩
  · obtain ⟨hc, hn, -⟩ | ⟨name, hw, hc⟩ := escapeChar_cases c
    · rw [hc]
      exact .inl ⟨by simp [quoteChar, hq], hn⟩
    · refine .inr ⟨name, hw, ?_⟩
      have noQuote : ∀ w ∈ written, ('&' :: (w.2.toList ++ [';'])).flatMap quoteChar =
          '&' :: (w.2.toList ++ [';']) := by
        decide
      rw [hc, noQuote _ hw]

theorem escape_flatMap_quoteChar (cs : List Char) : (escape cs).flatMap quoteChar = cs.flatMap quotedChar := by
  rw [escape_eq, List.flatMap_assoc]
  rfl

theorem resolve_quoted (cs : List Char) : resolve place ((escape cs).flatMap quoteChar) = cs := by
  rw [escape_flatMap_quoteChar, resolve_flatMap spells_quotedChar]

theorem escape_nil : escape [] = [] := rfl

theorem escape_injective {cs ds : List Char} (h : escape cs = escape ds) : cs = ds := by
  rw [← @resolve_escape .text cs, h, resolve_escape]

theorem length_le_escape (cs : List Char) : cs.length ≤ (escape cs).length := by
  induction cs with
  | nil => exact Nat.le_refl _
  | cons c cs ih =>
    rw [escape_eq, List.flatMap_cons, ← escape_eq, List.length_append, List.length_cons]
    obtain ⟨hc, -⟩ | ⟨name, -, hc⟩ := escapeChar_cases c
    all_goals
      rw [hc, List.length_cons]
      omega

/-- What needs no reference is written as it is, and nothing else is. -/
theorem escape_eq_self_iff : escape cs = cs ↔ ∀ c ∈ cs, c ≠ '&' ∧ c ≠ '<' ∧ c ≠ '>' := by
  induction cs with
  | nil => simp [escape_nil]
  | cons c cs ih =>
    rw [escape_eq, List.flatMap_cons, ← escape_eq, List.forall_mem_cons, ← ih]
    obtain ⟨hc, plain⟩ | ⟨name, hw, hc⟩ := escapeChar_cases c
    · rw [hc, List.singleton_append, List.cons_inj_right]
      exact ⟨fun h => ⟨plain, h⟩, fun h => h.2⟩
    · constructor
      · intro h
        have hl := congrArg List.length h
        have := length_le_escape cs
        rw [hc, List.length_append, List.length_cons, List.length_append, List.length_singleton, List.length_cons] at hl
        omega
      · intro h
        unfold escapeChar
        rw [if_neg h.1.1, if_neg h.1.2.1, if_neg h.1.2.2, h.2, List.singleton_append]

theorem less_not_mem_escape (cs : List Char) : '<' ∉ escape cs := by
  rw [escape_eq, List.mem_flatMap]
  rintro ⟨c, -, hm⟩
  obtain ⟨hc, -, hl, -⟩ | ⟨name, hw, hc⟩ := escapeChar_cases c
  · rw [hc, List.mem_singleton] at hm
    exact hl hm.symm
  · have apart : ∀ w ∈ written, '<' ∉ '&' :: (w.2.toList ++ [';']) := by decide
    exact apart _ hw (hc ▸ hm)

/-! ## Texts without NUL -/

def NulFree (cs : List Char) : Prop := '\x00' ∉ cs

theorem nulFree_append {ds : List Char} : NulFree (cs ++ ds) ↔ NulFree cs ∧ NulFree ds := by
  simp [NulFree]

theorem nulFree_cons : NulFree (c :: cs) ↔ c ≠ '\x00' ∧ NulFree cs := by
  simp [NulFree, eq_comm]

theorem nulFree_reverse : NulFree cs.reverse ↔ NulFree cs := by
  simp [NulFree]

theorem numbered_ne_nul (n : Nat) : numbered n ≠ '\x00' := by
  have key : ∀ m : Nat, (if h : m.isValidChar ∧ m ≠ 0 then Char.ofNatAux m h.1 else Char.ofNat 0xFFFD) ≠ '\x00' := by
    intro m
    by_cases h : m.isValidChar ∧ m ≠ 0
    · rw [dif_pos h]
      exact fun e => h.2 (congrArg Char.toNat e)
    · rw [dif_neg h]
      decide
  exact key _

theorem number?_suffix {base n : Nat} (h : number? base cs = some (n, rest)) : rest <:+ cs := by
  unfold number? at h
  dsimp only at h
  have hs := List.dropWhile_suffix (fun c => (digitValue? base c).isSome) (l := cs)
  split at h
  · cases h
  · split at h
    · next hr => cases h; rw [hr] at hs; exact (List.suffix_cons _ _).trans hs
    · cases h; exact hs

theorem entity?_suffix (h : entity? place cs = some (content, rest)) : NulFree content ∧ rest <:+ cs := by
  obtain ⟨e, he, hr⟩ := List.mem_filterMap.mp (List.mem_of_getLast? h)
  obtain ⟨r, hr, heq⟩ := Option.map_eq_some_iff.mp hr
  cases heq
  obtain ⟨named, hn, rfl⟩ := List.mem_map.mp he
  constructor
  · intro hm
    obtain ⟨n, hmem, hn0⟩ := List.mem_map.mp hm
    have := List.all_eq_true.mp (List.all_eq_true.mp codes_ne_zero _ hn) n hmem
    rw [hn0] at this
    cases this
  · unfold Entity.rest? at hr
    split at hr
    · next hp =>
      cases hr
      rw [eq_append_of_isPrefixOf? hp]
      exact (List.suffix_cons _ _).trans (List.suffix_append _ _)
    · next hp =>
      split at hr
      · cases hr
        rw [eq_append_of_isPrefixOf? hp]
        exact List.suffix_append _ _
      · cases hr
    · cases hr

theorem reference?_suffix (h : reference? place cs = some (content, rest)) : NulFree content ∧ rest <:+ cs := by
  have single (n : Nat) : NulFree [numbered n] := nulFree_cons.mpr ⟨numbered_ne_nul n, List.not_mem_nil⟩
  unfold reference? at h
  split at h
  case h_4 => exact entity?_suffix h
  all_goals
    obtain ⟨⟨n, r⟩, hn, heq⟩ := Option.map_eq_some_iff.mp h
    cases heq
    refine ⟨single n, (number?_suffix hn).trans ?_⟩
    first
      | exact List.suffix_cons _ _
      | exact (List.suffix_cons _ _).trans (List.suffix_cons _ _)

theorem resolve_nulFree (h : NulFree cs) : NulFree (resolve place cs) := by
  fun_induction resolve place cs with
  | case1 => exact h
  | case2 cs content rest hr ih =>
    obtain ⟨hc, hs⟩ := reference?_suffix hr
    exact nulFree_append.mpr ⟨hc, ih fun hm => (nulFree_cons.mp h).2 (hs.subset hm)⟩
  | case3 cs hr ih => exact nulFree_cons.mpr ⟨(nulFree_cons.mp h).1, ih (nulFree_cons.mp h).2⟩
  | case4 c cs hc ih => exact nulFree_cons.mpr ⟨(nulFree_cons.mp h).1, ih (nulFree_cons.mp h).2⟩

end

end ZigDecls.Markup
