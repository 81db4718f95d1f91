import Mathlib.Algebra.Ring.Parity
import Mathlib.Data.List.DropRight
import ZigDecls.Proofs.Phrases

/-!
# What one pass leaves

Phrases stand in a row if each one begins in the word of the one before it. A pass puts brackets for
the first phrase of a row, the third and so on, and a phrase in between may lose its word to the next
one. So a phrase is left exactly if it is the second of its row, the fourth and so on, and none begins
where its word does. A second pass leaves no phrase.
-/

namespace ZigDecls
open Text

/-! ## Phrases as the pass finds them -/

def StartsPhrase (cs : List Char) : Prop := ∃ word rest, BeginsPhrase word rest cs

theorem hasPhrase_iff {cs : List Char} : HasPhrase cs ↔ ∃ before tail, cs = before ++ tail ∧ StartsPhrase tail := by
  constructor
  · rintro ⟨before, word, rest, tail, he, ht⟩
    exact ⟨before, tail, he, word, rest, ht⟩
  · rintro ⟨before, tail, he, word, rest, ht⟩
    exact ⟨before, word, rest, tail, he, ht⟩

theorem head_of_startsPhrase {cs : List Char} (h : StartsPhrase cs) : cs.head? = some 'A' := by
  obtain ⟨word, rest, gap, rfl, -⟩ := h
  rfl

theorem not_startsPhrase_nil : ¬ StartsPhrase [] := fun h => by simpa using head_of_startsPhrase h

theorem not_hasPhrase_nil : ¬ HasPhrase [] := fun h => by simpa using mem_of_hasPhrase h

theorem hasPhrase_cons {c : Char} {cs : List Char} (h : ¬ StartsPhrase (c :: cs)) :
    HasPhrase (c :: cs) ↔ HasPhrase cs := by
  rw [hasPhrase_iff, hasPhrase_iff]
  constructor
  · rintro ⟨before, tail, he, hs⟩
    cases before with
    | nil => exact absurd (he ▸ hs) h
    | cons d before => exact ⟨before, tail, (List.cons.inj he).2, hs⟩
  · rintro ⟨before, tail, rfl, hs⟩
    exact ⟨c :: before, tail, rfl, hs⟩

theorem hasPhrase_behind_brackets (cs : List Char) : HasPhrase ("[]".toList ++ cs) ↔ HasPhrase cs := by
  have hopen : ¬ StartsPhrase ('[' :: ']' :: cs) := fun h => by simpa using head_of_startsPhrase h
  have hclose : ¬ StartsPhrase (']' :: cs) := fun h => by simpa using head_of_startsPhrase h
  exact (hasPhrase_cons hopen).trans (hasPhrase_cons hclose)

theorem not_isWord_behind {cs : List Char} {c : Char} (h : (cs.dropWhile isWord).head? = some c) :
    isWord c = false := by
  have hd := List.head?_dropWhile_not isWord cs
  rw [h] at hd
  simpa using hd

theorem head_of_arrayPhrase? {cs word rest : List Char} (h : arrayPhrase? cs = some (word, rest)) :
    ∀ c, rest.head? = some c → isWord c = false := by
  unfold arrayPhrase? at h
  split at h
  · cases h
  · dsimp only at h
    split at h
    · cases h
    · cases h
      exact fun _ => not_isWord_behind

theorem exists_arrayPhrase? {cs : List Char} (h : StartsPhrase cs) :
    ∃ word rest, arrayPhrase? cs = some (word, rest) := by
  obtain ⟨word, rest, gap, rfl, hgap, hblank, hword, hw⟩ := h
  refine ⟨(word ++ rest).takeWhile isWord, (word ++ rest).dropWhile isWord, arrayPhrase?_eq_some
    ⟨gap, by rw [List.takeWhile_append_dropWhile], hgap, hblank, ?_, List.all_eq_true.mp List.all_takeWhile⟩
    fun _ => not_isWord_behind⟩
  rw [List.takeWhile_append_of_pos hw]
  exact List.append_ne_nil_of_left_ne_nil hword _

theorem arrayPhrase?_eq_none_iff {cs : List Char} : arrayPhrase? cs = none ↔ ¬ StartsPhrase cs := by
  constructor
  · intro h hs
    obtain ⟨word, rest, hp⟩ := exists_arrayPhrase? hs
    rw [h] at hp
    cases hp
  · intro h
    cases hp : arrayPhrase? cs with
    | none => rfl
    | some p => exact absurd ⟨p.1, p.2, beginsPhrase_of_arrayPhrase? hp⟩ h

theorem bracketArrays_of_some {cs word rest : List Char} (h : arrayPhrase? cs = some (word, rest)) :
    bracketArrays cs = "[]".toList ++ (word ++ bracketArrays rest) :=
  bracketArrays_of_beginsPhrase (beginsPhrase_of_arrayPhrase? h) (head_of_arrayPhrase? h)

/-! ## What a pass copies -/

theorem not_mem_append_blanks {c : Char} {front gap : List Char} (hf : c ∉ front) (hc : isBlank c = false)
    (hgap : ∀ d ∈ gap, isBlank d = true) : c ∉ front ++ gap := by
  intro hm
  rcases List.mem_append.mp hm with hm | hm
  · exact hf hm
  · rw [hgap c hm] at hc
    cases hc

theorem bracket_not_mem_word {word : List Char} (hw : ∀ c ∈ word, isWord c = true) : '[' ∉ word := by
  intro hm
  have hbracket : isWord '[' = false := isWord_delimiter (by simp)
  rw [hw _ hm] at hbracket
  cases hbracket

/-- A beginning of the result without a bracket has been copied, so the rest is the result of the rest. -/
theorem eq_append_of_bracketArrays : ∀ {front cs back : List Char}, '[' ∉ front → bracketArrays cs = front ++ back →
    ∃ rest, cs = front ++ rest ∧ back = bracketArrays rest
  | [], cs, _, _, h => ⟨cs, rfl, h.symm⟩
  | c :: front, cs, back, hf, h => by
    rw [List.mem_cons, not_or] at hf
    cases hp : arrayPhrase? cs with
    | some p =>
      rw [bracketArrays_of_some hp] at h
      exact absurd (List.cons.inj h).1 hf.1
    | none =>
      cases cs with
      | nil =>
        rw [bracketArrays_of_not_hasPhrase not_hasPhrase_nil] at h
        cases h
      | cons d cs =>
        rw [bracketArrays_cons hp] at h
        obtain ⟨rfl, hcopy⟩ := List.cons.inj h
        obtain ⟨rest, rfl, hb⟩ := eq_append_of_bracketArrays hf.2 hcopy
        exact ⟨rest, rfl, hb⟩

theorem not_startsPhrase_bracketArrays (cs : List Char) : ¬ StartsPhrase (bracketArrays cs) := by
  rintro ⟨word, rest, gap, he, hgap, hblank, hword, hw⟩
  have hsplit : bracketArrays cs = "Array of".toList ++ gap ++ (word ++ rest) := by rw [he, List.append_assoc]
  have hgap' : '[' ∉ "Array of".toList ++ gap := not_mem_append_blanks (by decide) (by decide) hblank
  obtain ⟨behind, rfl, hb⟩ := eq_append_of_bracketArrays hgap' hsplit
  obtain ⟨rest', rfl, -⟩ := eq_append_of_bracketArrays (bracket_not_mem_word hw) hb.symm
  have hs : StartsPhrase ("Array of".toList ++ gap ++ (word ++ rest')) :=
    ⟨word, rest', gap, List.append_assoc _ _ _, hgap, hblank, hword, hw⟩
  obtain ⟨word', rest'', hp⟩ := exists_arrayPhrase? hs
  rw [bracketArrays_of_some hp] at he
  exact absurd (List.cons.inj he).1 (by decide)

/-! ## Rows of phrases -/

/-- A phrase begins behind `front`, and `before` ends within its word or right in front of it. -/
def InWord (front before : List Char) : Prop := ∃ gap part, before = front ++ ("Array of".toList ++ (gap ++ part)) ∧
  gap ≠ [] ∧ (∀ c ∈ gap, isBlank c = true) ∧ ∀ c ∈ part, isWord c = true

/-- So many phrases of one row are in front of a place. The word of the last one reaches the place, and the
word of each other one the next. -/
inductive RowBefore : Nat → List Char → Prop
  | none {before} : (∀ front, ¬ InWord front before) → RowBefore 0 before
  | next {n front before} : RowBefore n front → InWord front before → RowBefore (n + 1) before

/-- The phrase behind `before` is the second of its row, the fourth and so on, and none begins where its
word does. -/
def PassedOver (before tail : List Char) : Prop := ∃ word rest n, BeginsPhrase word rest tail ∧
  ¬ StartsPhrase (word ++ rest) ∧ RowBefore n before ∧ Odd n

theorem rdropWhile_append {p : Char → Bool} {front part : List Char} (hp : ∀ c ∈ part, p c = true)
    (hf : ∀ c, front.getLast? = some c → p c = false) : (front ++ part).rdropWhile p = front := by
  rw [List.rdropWhile, List.reverse_append, List.dropWhile_append_of_pos (by simpa using hp)]
  rcases List.eq_nil_or_concat front with rfl | ⟨front, c, rfl⟩
  · rfl
  · have hc := hf c (by simp)
    simp [hc]

theorem not_isWord_of_isBlank {c : Char} (h : isBlank c = true) : isWord c = false := by
  rw [Bool.eq_false_iff]
  intro hw
  rw [not_isBlank_of_isWord hw] at h
  cases h

section
variable {front front' before : List Char}

theorem InWord.rdropWhile_eq (h : InWord front before) :
    ∃ gap, before.rdropWhile isWord = front ++ "Array of".toList ++ gap ∧
    gap ≠ [] ∧ ∀ c ∈ gap, isBlank c = true := by
  obtain ⟨gap, part, rfl, hgap, hblank, hw⟩ := h
  refine ⟨gap, ?_, hgap, hblank⟩
  rw [← List.append_assoc, ← List.append_assoc]
  refine rdropWhile_append hw fun c hc => ?_
  rw [List.getLast?_append_of_ne_nil _ hgap] at hc
  exact not_isWord_of_isBlank (hblank c (List.mem_of_getLast? hc))

theorem InWord.rdropWhile_twice (h : InWord front before) :
    (before.rdropWhile isWord).rdropWhile isBlank = front ++ "Array of".toList := by
  obtain ⟨gap, hword, -, hblank⟩ := h.rdropWhile_eq
  rw [hword]
  refine rdropWhile_append hblank fun c hc => ?_
  rw [List.getLast?_append_of_ne_nil _ (by decide)] at hc
  have hf : some 'f' = some c := hc
  cases hf
  decide

theorem InWord.unique (h : InWord front before) (h' : InWord front' before) : front = front' :=
  List.append_cancel_right (h.rdropWhile_twice.symm.trans h'.rdropWhile_twice)

theorem InWord.append (h : InWord front before) (earlier : List Char) :
    InWord (earlier ++ front) (earlier ++ before) := by
  obtain ⟨gap, part, rfl, hgap, hblank, hw⟩ := h
  exact ⟨gap, part, by simp only [List.append_assoc], hgap, hblank, hw⟩

theorem InWord.length_lt (h : InWord front before) : front.length < before.length := by
  obtain ⟨gap, part, rfl, -⟩ := h
  simp

end

theorem RowBefore.unique {n m : Nat} {before : List Char} (h : RowBefore n before) (h' : RowBefore m before) :
    n = m := by
  induction h generalizing m with
  | none hn =>
    cases h' with
    | none => rfl
    | next _ hi => exact absurd hi (hn _)
  | next _ hi ih =>
    cases h' with
    | none hn => exact absurd hi (hn _)
    | next hr hi' =>
      rw [hi'.unique hi] at hr
      rw [ih hr]

theorem exists_rowBefore (before : List Char) : ∃ n, RowBefore n before := by
  induction before using (measure List.length).wf.induction with
  | _ before ih =>
    by_cases h : ∃ front, InWord front before
    · obtain ⟨front, hi⟩ := h
      obtain ⟨n, hn⟩ := ih front hi.length_lt
      exact ⟨n + 1, .next hn hi⟩
    · exact ⟨0, .none (not_exists.mp h)⟩

/-! ## Where phrases overlap -/

theorem takeWhile_append_eq {p : Char → Bool} {front back : List Char} (hf : ∀ c ∈ front, p c = true)
    (hb : ∀ c, back.head? = some c → p c = false) : (front ++ back).takeWhile p = front := by
  rw [List.takeWhile_append_of_pos hf]
  cases back with
  | nil => simp
  | cons c back =>
    have hc := hb c rfl
    simp [hc]

theorem eq_array_of_startsPhrase {front back : List Char} (hf : ∀ c ∈ front, isWord c = true)
    (hb : ∀ c, back.head? = some c → isWord c = false) (h : StartsPhrase (front ++ back)) : front = "Array".toList := by
  obtain ⟨word, rest, gap, he, -⟩ := h
  have hs : isWord ' ' = false := isWord_delimiter (by simp)
  have harray : ("Array".toList ++ ' ' :: ("of".toList ++ (gap ++ (word ++ rest)))).takeWhile isWord = "Array".toList :=
    takeWhile_append_eq (List.all_eq_true.mp (by decide)) (by simpa using hs)
  have hfront := takeWhile_append_eq hf hb
  rw [he] at hfront
  exact hfront.symm.trans harray

/-- No phrase begins in the blanks of another one, nor in front of them. -/
theorem behind_blanks_of_inside {gap back front tail : List Char} (hblank : ∀ c ∈ gap, isBlank c = true)
    (he : "Array of".toList ++ (gap ++ back) = front ++ tail) (hne : front ≠ []) (hs : StartsPhrase tail) :
    ∃ part, front = "Array of".toList ++ (gap ++ part) ∧ back = part ++ tail := by
  obtain ⟨c, front, rfl⟩ := List.exists_cons_of_ne_nil hne
  have hsplit : 'A' :: ("rray of".toList ++ gap ++ back) = c :: (front ++ tail) := by
    rw [List.append_assoc]
    exact he
  obtain ⟨rfl, hbehind⟩ := List.cons.inj hsplit
  have hA : 'A' ∉ "rray of".toList ++ gap := not_mem_append_blanks (by decide) (by decide) hblank
  rcases List.append_eq_append_iff.mp hbehind with ⟨part, rfl, hback⟩ | ⟨late, hlate, ht⟩
  · exact ⟨part, by simp, hback⟩
  · cases late with
    | nil => exact ⟨[], by simpa using hlate.symm, by simpa using ht.symm⟩
    | cons d late =>
      have hd := head_of_startsPhrase hs
      rw [ht] at hd
      have hd : some d = some 'A' := hd
      cases hd
      exact absurd (hlate ▸ by simp) hA

section
variable {cs word rest : List Char} (hp : arrayPhrase? cs = some (word, rest))
include hp

/-- A phrase that begins within another one begins with the end of its word. -/
theorem eq_array_of_inside {front tail : List Char} (he : cs = front ++ tail) (hne : front ≠ [])
    (hl : rest.length < tail.length) (hs : StartsPhrase tail) :
    ∃ part, word = part ++ "Array".toList ∧ InWord [] front ∧ tail = "Array".toList ++ rest := by
  obtain ⟨gap, hcs, hgap, hblank, hword, hw⟩ := beginsPhrase_of_arrayPhrase? hp
  obtain ⟨part, hfront, hbehind⟩ := behind_blanks_of_inside hblank (hcs.symm.trans he) hne hs
  rcases List.append_eq_append_iff.mp hbehind with ⟨beyond, -, ht⟩ | ⟨inside, hpart, ht⟩
  · rw [ht, List.length_append] at hl
    omega
  · rw [hpart, List.forall_mem_append] at hw
    rw [ht] at hs
    have hi : inside = "Array".toList := eq_array_of_startsPhrase hw.2 (head_of_arrayPhrase? hp) hs
    subst hi
    exact ⟨part, hpart, ⟨gap, part, hfront, hgap, hblank, hw.1⟩, ht⟩

/-- What a pass leaves of a phrase is behind its brackets: its word, whose end may begin a phrase with what
comes of the rest, and the phrases in what comes of the rest. -/
theorem hasPhrase_brackets_iff : HasPhrase ("[]".toList ++ (word ++ bracketArrays rest)) ↔
    (∃ part, word = part ++ "Array".toList ∧ StartsPhrase ("Array".toList ++ bracketArrays rest)) ∨
      HasPhrase (bracketArrays rest) := by
  obtain ⟨gap, -, -, -, -, hw⟩ := beginsPhrase_of_arrayPhrase? hp
  have hhead : ∀ c, (bracketArrays rest).head? = some c → isWord c = false := by
    intro c hc
    obtain ⟨back, hb⟩ := List.head?_eq_some_iff.mp hc
    by_cases hbracket : c = '['
    · exact hbracket ▸ isWord_delimiter (by simp)
    · have hf : '[' ∉ [c] := by simpa using Ne.symm hbracket
      obtain ⟨rest', rfl, -⟩ := eq_append_of_bracketArrays hf hb
      exact head_of_arrayPhrase? hp c rfl
  rw [hasPhrase_behind_brackets, hasPhrase_iff, hasPhrase_iff]
  constructor
  · rintro ⟨before, tail, he, hs⟩
    rcases List.append_eq_append_iff.mp he with ⟨front, -, hb⟩ | ⟨inside, hword, hb⟩
    · exact .inr ⟨front, tail, hb, hs⟩
    · rw [hword, List.forall_mem_append] at hw
      rw [hb] at hs
      have hi := eq_array_of_startsPhrase hw.2 hhead hs
      exact .inl ⟨before, hi ▸ hword, hi ▸ hs⟩
  · rintro (⟨part, rfl, hs⟩ | ⟨before, tail, hb, hs⟩)
    · exact ⟨part, _, List.append_assoc _ _ _, hs⟩
    · exact ⟨word ++ before, tail, by rw [hb, List.append_assoc], hs⟩

end

/-- What a pass makes of the text behind an `Array` leaves a phrase there if there was one, and if its word
begins no other. -/
theorem startsPhrase_array_iff (cs : List Char) : StartsPhrase ("Array".toList ++ bracketArrays cs) ↔
    ∃ word rest, BeginsPhrase word rest ("Array".toList ++ cs) ∧ ¬ StartsPhrase (word ++ rest) := by
  constructor
  · rintro ⟨word, rest, gap, he, hgap, hblank, hword, hw⟩
    have he : bracketArrays cs = " of".toList ++ gap ++ (word ++ rest) := by
      rw [List.append_assoc]
      exact List.append_cancel_left he
    have hg : '[' ∉ " of".toList ++ gap := not_mem_append_blanks (by decide) (by decide) hblank
    obtain ⟨behind, rfl, hb⟩ := eq_append_of_bracketArrays hg he
    have hbracket := bracket_not_mem_word hw
    obtain ⟨rest', rfl, -⟩ := eq_append_of_bracketArrays hbracket hb.symm
    refine ⟨word, rest', ⟨gap, by simp, hgap, hblank, hword, hw⟩, fun hs => ?_⟩
    obtain ⟨w, r, hp⟩ := exists_arrayPhrase? hs
    rw [bracketArrays_of_some hp] at hb
    obtain ⟨c, word, rfl⟩ := List.exists_cons_of_ne_nil hword
    have hc : c = '[' := (List.cons.inj hb).1
    exact hbracket (hc ▸ List.mem_cons_self)
  · rintro ⟨word, rest, ⟨gap, he, hgap, hblank, hword, hw⟩, hn⟩
    have he : cs = " of".toList ++ gap ++ (word ++ rest) := by
      rw [List.append_assoc]
      exact List.append_cancel_left he
    obtain ⟨c, word, rfl⟩ := List.exists_cons_of_ne_nil hword
    have hA : 'A' ∉ " of".toList ++ gap := not_mem_append_blanks (by decide) (by decide) hblank
    have hc : bracketArrays (c :: (word ++ rest)) = c :: bracketArrays (word ++ rest) :=
      bracketArrays_cons (arrayPhrase?_eq_none_iff.mpr hn)
    refine ⟨[c], bracketArrays (word ++ rest), gap, ?_, hgap, hblank, by simp, by simpa using hw c (by simp)⟩
    rw [he, bracketArrays_append hA, List.cons_append, hc]
    simp

/-! ## The pass over a text -/

/-- The pass stands between the two texts: a phrase that began in front of the place and ends behind it has
not been taken, as the second of its row, the fourth and so on. -/
def Standing (before cs : List Char) : Prop := ∀ front inner word rest n, before = front ++ inner → inner ≠ [] →
  arrayPhrase? (inner ++ cs) = some (word, rest) → rest.length < cs.length → RowBefore n front → Odd n

theorem standing_nil (cs : List Char) : Standing [] cs := by
  intro front inner word rest n he hne
  exact absurd (List.append_eq_nil_iff.mp he.symm).2 hne

theorem Standing.skip {before cs : List Char} {c : Char} (h : Standing before (c :: cs))
    (hn : ¬ StartsPhrase (c :: cs)) : Standing (before ++ [c]) cs := by
  intro front inner word rest n he hne hp hl hr
  rcases List.eq_nil_or_concat inner with rfl | ⟨inner, d, rfl⟩
  · exact absurd rfl hne
  rw [List.concat_eq_append, ← List.append_assoc] at he
  obtain ⟨rfl, hd⟩ := List.append_inj' he rfl
  cases hd
  rw [List.concat_eq_append, List.append_assoc, List.singleton_append] at hp
  by_cases hi : inner = []
  · subst hi
    exact absurd ⟨word, rest, beginsPhrase_of_arrayPhrase? hp⟩ hn
  · exact h front inner word rest n rfl hi hp (Nat.lt_succ_of_lt hl) hr

/-- Where a phrase is found, an even number of its row is in front of it. -/
theorem Standing.even {before cs : List Char} (h : Standing before cs) (hs : StartsPhrase cs) {n : Nat}
    (hr : RowBefore n before) : Even n := by
  cases hr with
  | none => exact Even.zero
  | @next n front _ hr hi =>
    obtain ⟨gap, part, rfl, hgap, hblank, hw⟩ := hi
    obtain ⟨word, rest, gap', rfl, -⟩ := hs
    have hb : BeginsPhrase (part ++ "Array".toList) (" of".toList ++ (gap' ++ (word ++ rest)))
        ("Array of".toList ++ (gap ++ part) ++ ("Array of".toList ++ (gap' ++ (word ++ rest)))) := by
      refine ⟨gap, by simp, hgap, hblank, by simp, ?_⟩
      exact List.forall_mem_append.mpr ⟨hw, List.all_eq_true.mp (by decide)⟩
    have hp := arrayPhrase?_eq_some hb (by simp [isWord_delimiter])
    exact (h front _ _ _ n rfl (by simp) hp (by simp) hr).add_one

theorem Standing.take {before cs word rest taken : List Char} (h : Standing before cs)
    (hp : arrayPhrase? cs = some (word, rest)) (he : cs = taken ++ rest) : Standing (before ++ taken) rest := by
  intro front inner word' rest' n hsplit hne hp' hl hr
  have hs : StartsPhrase (inner ++ rest) := ⟨word', rest', beginsPhrase_of_arrayPhrase? hp'⟩
  have hother : inner ≠ taken := by
    rintro rfl
    rw [← he, hp] at hp'
    cases hp'
    exact absurd hl (Nat.lt_irrefl _)
  rcases List.append_eq_append_iff.mp hsplit with ⟨begun, hfront, ht⟩ | ⟨earlier, hbefore, hi⟩
  · -- Within the phrase that is taken.
    have hb : begun ≠ [] := by
      rintro rfl
      exact hother ht.symm
    have hcs : cs = begun ++ (inner ++ rest) := by rw [he, ht, List.append_assoc]
    have hlong : rest.length < (inner ++ rest).length := by
      have := List.length_pos_iff.mpr hne
      rw [List.length_append]
      omega
    obtain ⟨part, -, hin, -⟩ := eq_array_of_inside hp hcs hb hlong hs
    have hin : InWord before front := by simpa [hfront] using hin.append before
    cases hr with
    | none hn => exact absurd hin (hn _)
    | next hr hin' =>
      rw [hin'.unique hin] at hr
      exact (h.even ⟨word, rest, beginsPhrase_of_arrayPhrase? hp⟩ hr).add_one
  · -- In front of the phrase that is taken.
    have hearly : earlier ≠ [] := by
      rintro rfl
      exact hother hi
    rw [hi, List.append_assoc, ← he] at hp'
    refine h front earlier word' rest' n hbefore hearly hp' ?_ hr
    rw [he, List.length_append]
    omega

theorem PassedOver.startsPhrase {before tail : List Char} (h : PassedOver before tail) : StartsPhrase tail := by
  obtain ⟨word, rest, n, hb, -⟩ := h
  exact ⟨word, rest, hb⟩

/-- Where a phrase is taken, those that are passed over begin with the end of its word or behind it. -/
theorem Standing.passedOver_take {before cs word rest taken : List Char} (h : Standing before cs)
    (hp : arrayPhrase? cs = some (word, rest)) (he : cs = taken ++ rest) :
    (∃ front tail, cs = front ++ tail ∧ PassedOver (before ++ front) tail) ↔
      (∃ part, word = part ++ "Array".toList ∧
        ∃ w r, BeginsPhrase w r ("Array".toList ++ rest) ∧ ¬ StartsPhrase (w ++ r)) ∨
      ∃ front tail, rest = front ++ tail ∧ PassedOver (before ++ taken ++ front) tail := by
  have hb := beginsPhrase_of_arrayPhrase? hp
  have hs : StartsPhrase cs := ⟨word, rest, hb⟩
  constructor
  · rintro ⟨front, tail, hsplit, hpass⟩
    by_cases hf : front = []
    · -- The phrase that is taken has an even number in front of it.
      subst hf
      obtain ⟨w, r, n, -, -, hr, hodd⟩ := hpass
      rw [List.append_nil] at hr
      exact absurd (h.even hs hr) (Nat.not_even_iff_odd.mpr hodd)
    by_cases hl : rest.length < tail.length
    · obtain ⟨part, hpart, -, ht⟩ := eq_array_of_inside hp hsplit hf hl hpass.startsPhrase
      obtain ⟨w, r, n, hinside, hn, -⟩ := hpass
      exact .inl ⟨part, hpart, w, r, ht ▸ hinside, hn⟩
    · have hle : taken.length ≤ front.length := by
        have hlen := congrArg List.length (he.symm.trans hsplit)
        simp only [List.length_append] at hlen
        omega
      obtain ⟨front, rfl⟩ := List.prefix_of_prefix_length_le ⟨rest, he.symm⟩ ⟨tail, hsplit.symm⟩ hle
      rw [he, List.append_assoc taken] at hsplit
      exact .inr ⟨front, tail, List.append_cancel_left hsplit, by rwa [List.append_assoc before]⟩
  · rintro (⟨part, rfl, w, r, hinside, hn⟩ | ⟨front, tail, rfl, hpass⟩)
    · obtain ⟨gap, hcs, hgap, hblank, -, hw⟩ := hb
      obtain ⟨n, hr⟩ := exists_rowBefore before
      have hin : InWord before (before ++ ("Array of".toList ++ (gap ++ part))) :=
        ⟨gap, part, rfl, hgap, hblank, fun c hc => hw c (List.mem_append_left _ hc)⟩
      refine ⟨"Array of".toList ++ (gap ++ part), "Array".toList ++ rest, ?_, w, r, n + 1,
        hinside, hn, .next hr hin, ?_⟩
      · simp only [hcs, List.append_assoc]
      · exact (h.even hs hr).add_one
    · rw [List.append_assoc before] at hpass
      exact ⟨taken ++ front, tail, by rw [he, List.append_assoc], hpass⟩

theorem passedOver_skip {before cs : List Char} {c : Char} (hn : ¬ StartsPhrase (c :: cs)) :
    (∃ front tail, c :: cs = front ++ tail ∧ PassedOver (before ++ front) tail) ↔
      ∃ front tail, cs = front ++ tail ∧ PassedOver (before ++ [c] ++ front) tail := by
  constructor
  · rintro ⟨front, tail, he, hpass⟩
    rcases List.cons_eq_append_iff.mp he with ⟨-, rfl⟩ | ⟨front, rfl, hcs⟩
    · exact absurd hpass.startsPhrase hn
    · exact ⟨front, tail, hcs, by rwa [List.append_assoc]⟩
  · rintro ⟨front, tail, rfl, hpass⟩
    rw [List.append_assoc] at hpass
    exact ⟨c :: front, tail, rfl, hpass⟩

/-- By induction on the pass. What stands in front of the rest is carried along, since the row of a phrase
may have begun there. -/
theorem Standing.hasPhrase_iff (cs : List Char) : ∀ {before : List Char}, Standing before cs →
    (HasPhrase (bracketArrays cs) ↔ ∃ front tail, cs = front ++ tail ∧ PassedOver (before ++ front) tail) := by
  fun_induction bracketArrays cs with
  | case1 cs word rest hp ih =>
    intro before h
    obtain ⟨gap, hcs, -⟩ := beginsPhrase_of_arrayPhrase? hp
    have he : cs = "Array of".toList ++ (gap ++ word) ++ rest := by simp only [hcs, List.append_assoc]
    have hbrackets : HasPhrase ('[' :: ']' :: (word ++ bracketArrays rest)) ↔ _ := hasPhrase_brackets_iff hp
    rw [hbrackets, startsPhrase_array_iff, ih (h.take hp he), h.passedOver_take hp he]
  | case2 =>
    intro before _
    refine iff_of_false not_hasPhrase_nil ?_
    rintro ⟨front, tail, he, hpass⟩
    exact not_startsPhrase_nil ((List.append_eq_nil_iff.mp he.symm).2 ▸ hpass.startsPhrase)
  | case3 c cs hp ih =>
    intro before h
    have hn := arrayPhrase?_eq_none_iff.mp hp
    have hcopied : ¬ StartsPhrase (c :: bracketArrays cs) := bracketArrays_cons hp ▸ not_startsPhrase_bracketArrays _
    rw [hasPhrase_cons hcopied, ih (h.skip hn), passedOver_skip hn]

/-! ## A second pass -/

/-- What is left of a phrase stands right behind brackets, but for the beginning of a word. -/
theorem brackets_of_startsPhrase (cs : List Char) : ∀ {before tail : List Char}, bracketArrays cs = before ++ tail →
    StartsPhrase tail → ∃ front part, before = front ++ "[]".toList ++ part ∧ ∀ c ∈ part, isWord c = true := by
  fun_induction bracketArrays cs with
  | case1 cs word rest hp ih =>
    intro before tail he hs
    have hA := head_of_startsPhrase hs
    obtain ⟨gap, -, -, -, -, hw⟩ := beginsPhrase_of_arrayPhrase? hp
    rcases List.cons_eq_append_iff.mp he with ⟨-, rfl⟩ | ⟨_, rfl, hclose⟩
    · simp at hA
    rcases List.cons_eq_append_iff.mp hclose with ⟨-, rfl⟩ | ⟨before, rfl, hword⟩
    · simp at hA
    rcases List.append_eq_append_iff.mp hword with ⟨front, rfl, hb⟩ | ⟨inside, rfl, -⟩
    · obtain ⟨front, part, rfl, hpart⟩ := ih hb hs
      exact ⟨"[]".toList ++ (word ++ front), part, by simp, hpart⟩
    · exact ⟨[], before, by simp, fun c hc => hw c (List.mem_append_left _ hc)⟩
  | case2 =>
    intro before tail he hs
    exact absurd ((List.append_eq_nil_iff.mp he.symm).2 ▸ hs) not_startsPhrase_nil
  | case3 c cs hp ih =>
    intro before tail he hs
    rcases List.cons_eq_append_iff.mp he with ⟨-, rfl⟩ | ⟨before, rfl, hcs⟩
    · exact absurd (bracketArrays_cons hp ▸ hs) (not_startsPhrase_bracketArrays _)
    · obtain ⟨front, part, rfl, hpart⟩ := ih hcs hs
      exact ⟨c :: front, part, by simp, hpart⟩

theorem not_hasPhrase_twice (cs : List Char) : ¬ HasPhrase (bracketArrays (bracketArrays cs)) := by
  rw [(standing_nil _).hasPhrase_iff]
  rintro ⟨before, tail, he, hpass⟩
  obtain ⟨front, part, hb, hpart⟩ := brackets_of_startsPhrase cs he hpass.startsPhrase
  obtain ⟨word, rest, n, -, -, hr, hodd⟩ := hpass
  rw [List.nil_append] at hr
  cases hr with
  | none => exact absurd hodd (by decide)
  | next _ hi =>
    obtain ⟨gap, hgap, hne, hblank⟩ := hi.rdropWhile_eq
    have hbrackets : before.rdropWhile isWord = front ++ "[]".toList := by
      rw [hb]
      refine rdropWhile_append hpart fun c hc => ?_
      have hc : ']' = c := by simpa using hc
      exact hc ▸ isWord_delimiter (by simp)
    have hlast := congrArg List.getLast? (hbrackets.symm.trans hgap)
    rw [List.getLast?_append_of_ne_nil _ hne, List.getLast?_append_of_ne_nil _ (by decide)] at hlast
    exact absurd (hblank ']' (List.mem_of_getLast? hlast.symm)) (by decide)

/-- A pass leaves a phrase exactly if one is passed over, and only then a second pass changes anything. The
second pass leaves none. -/
theorem hasPhrase_bracketArrays_iff (cs : List Char) :
    (HasPhrase (bracketArrays cs) ↔ ∃ before tail, cs = before ++ tail ∧ PassedOver before tail) ∧
    (bracketArrays (bracketArrays cs) = bracketArrays cs ↔ ¬ HasPhrase (bracketArrays cs)) ∧
    ¬ HasPhrase (bracketArrays (bracketArrays cs)) := by
  have htwice := not_hasPhrase_twice cs
  refine ⟨(standing_nil cs).hasPhrase_iff, ⟨fun he hp => ?_, bracketArrays_of_not_hasPhrase⟩, htwice⟩
  rw [he] at htwice
  exact htwice hp

/-- Of two phrases in a row the second is left, also in the type that is written. -/
theorem second_phrase_is_left :
    let documented := "Tree of Array of Array of Node"
    bracketArrays documented.toList = "Tree of []Array of Node".toList ∧ HasPhrase (bracketArrays documented.toList) ∧
      bracketArrays (bracketArrays documented.toList) = "Tree of [][]Node".toList ∧
      typeFor .standard documented = .ok "Tree of []Array of Node" := by
  intro documented
  have hpass : bracketArrays documented.toList = "Tree of []Array of Node".toList := by decide +kernel
  have hagain : bracketArrays "Tree of []Array of Node".toList = "Tree of [][]Node".toList := by decide +kernel
  have hn : nesting documented.toList = (0, "Tree of []Array of Node".toList) := by
    rw [nesting_of_not_brackets, hpass]
    rw [hpass]
    decide
  have hor : ¬ StandsAlone "or".toList "Tree of []Array of Node".toList := mt (hasOr_iff _).mpr (by decide +kernel)
  refine ⟨hpass, ?_, by rw [hpass, hagain], typeFor_of_writes hn (.itself (by decide) hor)⟩
  rw [hpass]
  exact ⟨"Tree of []".toList, "Node".toList, [], "Array of Node".toList, by decide, " ".toList, by decide, by decide,
    List.all_eq_true.mp (by decide), by decide, List.all_eq_true.mp (by decide)⟩

end ZigDecls
