import ZigDecls.Proofs.Cores

/-!
# Arrays of arrays

One pass over a documented type replaces the phrases that do not overlap, and the word of one phrase
may be the first word of the next. The pass is repeated only behind brackets at the front. So up to
two phrases in a row become brackets, and of three or more only the first does.
-/

namespace ZigDecls
open Text

/-! ## Phrases -/

theorem not_isBlank_of_isWord {c : Char} (h : isWord c = true) : isBlank c = false := by
  have hd : (blanks.all fun b => wordSpans.all fun w => Nat.blt w.2 b.1 || Nat.blt b.2 w.1) = true := by decide +kernel
  simp only [List.all_eq_true, Bool.or_eq_true, Nat.blt_eq] at hd
  obtain ⟨w, hw, hl, hr⟩ := Spans.has_iff.mp h
  rw [Bool.eq_false_iff]
  intro hb
  obtain ⟨b, hb, hl', hr'⟩ := Spans.has_iff.mp hb
  have := hd b hb w hw
  omega

/-- The text begins with `Array of`, blanks and the word, and the rest is behind it. -/
def BeginsPhrase (word rest cs : List Char) : Prop := ∃ gap, cs = "Array of".toList ++ (gap ++ (word ++ rest)) ∧
  gap ≠ [] ∧ (∀ c ∈ gap, isBlank c = true) ∧ word ≠ [] ∧ ∀ c ∈ word, isWord c = true

def HasPhrase (cs : List Char) : Prop := ∃ before word rest tail, cs = before ++ tail ∧ BeginsPhrase word rest tail

theorem beginsPhrase_of_arrayPhrase? {cs word rest : List Char} (h : arrayPhrase? cs = some (word, rest)) :
    BeginsPhrase word rest cs := by
  unfold arrayPhrase? at h
  split at h
  · cases h
  · rename_i after he
    dsimp only at h
    split at h
    · cases h
    · rename_i hne
      simp only [Bool.or_eq_true, List.isEmpty_iff, not_or] at hne
      cases h
      refine ⟨after.takeWhile isBlank, ?_, hne.1, List.all_eq_true.mp List.all_takeWhile, hne.2,
        List.all_eq_true.mp List.all_takeWhile⟩
      rw [List.takeWhile_append_dropWhile, List.takeWhile_append_dropWhile]
      exact eq_append_of_isPrefixOf? he

theorem arrayPhrase?_eq_some {cs word rest : List Char} (h : BeginsPhrase word rest cs)
    (hr : ∀ c, rest.head? = some c → isWord c = false) : arrayPhrase? cs = some (word, rest) := by
  obtain ⟨gap, rfl, hgap, hblank, hword, hw⟩ := h
  obtain ⟨c, word, rfl⟩ := List.exists_cons_of_ne_nil hword
  have hc : isBlank c = false := not_isBlank_of_isWord (hw c (by simp))
  have hg : (gap ++ (c :: word ++ rest)).takeWhile isBlank = gap := by
    rw [List.takeWhile_append_of_pos hblank, List.cons_append, List.takeWhile_cons_of_neg (by simp [hc]),
      List.append_nil]
  have hg' : (gap ++ (c :: word ++ rest)).dropWhile isBlank = c :: word ++ rest := by
    rw [List.dropWhile_append_of_pos hblank, List.cons_append, List.dropWhile_cons_of_neg (by simp [hc])]
  have ht : (c :: word ++ rest).takeWhile isWord = c :: word ∧ (c :: word ++ rest).dropWhile isWord = rest := by
    rw [List.takeWhile_append_of_pos hw, List.dropWhile_append_of_pos hw]
    cases rest with
    | nil => simp
    | cons d rest =>
      have hd := hr d rfl
      simp [hd]
  unfold arrayPhrase?
  rw [isPrefixOf?_append]
  simp only [hg, hg', ht.1, ht.2]
  simp [hgap]

theorem bracketArrays_of_beginsPhrase {cs word rest : List Char} (h : BeginsPhrase word rest cs)
    (hr : ∀ c, rest.head? = some c → isWord c = false) :
    bracketArrays cs = "[]".toList ++ (word ++ bracketArrays rest) := by
  have hp := arrayPhrase?_eq_some h hr
  rw [bracketArrays]
  split
  · rename_i word' rest' hp'
    rw [hp] at hp'
    cases hp'
    rfl
  · rename_i hn
    rw [hp] at hn
    cases hn

theorem bracketArrays_of_not_hasPhrase {cs : List Char} (h : ¬ HasPhrase cs) : bracketArrays cs = cs := by
  fun_induction bracketArrays cs with
  | case1 cs word rest hp ih => exact absurd ⟨[], word, rest, cs, rfl, beginsPhrase_of_arrayPhrase? hp⟩ h
  | case2 => rfl
  | case3 c cs hp ih =>
    rw [ih]
    rintro ⟨before, word, rest, tail, rfl, ht⟩
    exact h ⟨c :: before, word, rest, tail, rfl, ht⟩

theorem bracketArrays_cons {c : Char} {cs : List Char} (h : arrayPhrase? (c :: cs) = none) :
    bracketArrays (c :: cs) = c :: bracketArrays cs := by
  rw [bracketArrays]
  split
  · rename_i hp
    rw [h] at hp
    cases hp
  · rfl

theorem arrayPhrase?_of_ne {c : Char} (hc : c ≠ 'A') (cs : List Char) : arrayPhrase? (c :: cs) = none := by
  cases hp : arrayPhrase? (c :: cs) with
  | none => rfl
  | some p =>
    obtain ⟨gap, he, -⟩ := beginsPhrase_of_arrayPhrase? hp
    exact absurd (List.cons.inj he).1 hc

theorem bracketArrays_append {front : List Char} (hf : 'A' ∉ front) (cs : List Char) :
    bracketArrays (front ++ cs) = front ++ bracketArrays cs := by
  induction front with
  | nil => rfl
  | cons c front ih =>
    rw [List.mem_cons, not_or] at hf
    rw [List.cons_append, bracketArrays_cons (arrayPhrase?_of_ne (Ne.symm hf.1) _), ih hf.2, List.cons_append]

/-- A phrase needs a word behind its blanks, and brackets are none. -/
theorem bracketArrays_before_brackets (cs : List Char) :
    bracketArrays ("Array of ".toList ++ ("[]".toList ++ cs)) =
      "Array of ".toList ++ bracketArrays ("[]".toList ++ cs) := by
  have hp : arrayPhrase? ('A' :: ("rray of ".toList ++ ("[]".toList ++ cs))) = none := by
    cases hp : arrayPhrase? ('A' :: ("rray of ".toList ++ ("[]".toList ++ cs))) with
    | none => rfl
    | some p =>
      obtain ⟨gap, he, hgap, hblank, hword, hw⟩ := beginsPhrase_of_arrayPhrase? hp
      obtain ⟨b, gap, rfl⟩ := List.exists_cons_of_ne_nil hgap
      obtain ⟨c, word, hc⟩ := List.exists_cons_of_ne_nil hword
      rw [hc] at he hw
      have he : ' ' = b ∧ '[' :: ']' :: cs = gap ++ (c :: word ++ p.2) := by simpa using he
      cases gap with
      | nil =>
        have hc' : '[' = c := (List.cons.inj he.2).1
        exact absurd (hw '[' (hc' ▸ List.mem_cons_self)) (by simp [isWord_delimiter])
      | cons b' gap =>
        have hb' : '[' = b' := (List.cons.inj he.2).1
        exact absurd (hblank '[' (hb' ▸ by simp)) (by decide)
  have hcons := bracketArrays_cons hp
  rw [bracketArrays_append (by decide)] at hcons
  exact hcons

/-! ## Phrases in a row -/

theorem nesting_of_brackets {cs rest : List Char} (h : bracketArrays cs = "[]".toList ++ rest) :
    nesting cs = ((nesting rest).1 + 1, (nesting rest).2) := by
  have h : bracketArrays cs = '[' :: ']' :: rest := h
  rw [nesting]
  split
  · rename_i rest' hp
    rw [h] at hp
    cases hp
    rfl
  · rename_i hp
    exact absurd h (hp rest)

theorem nesting_of_not_brackets {cs : List Char} (h : ¬ "[]".toList <+: bracketArrays cs) :
    nesting cs = (0, bracketArrays cs) := by
  rw [nesting]
  split
  · rename_i rest hp
    exact absurd ⟨rest, hp.symm⟩ h
  · rfl

/-- What is left of three or more phrases in a row behind the first one: one pass more has been made
over the rest of them, and no phrase stands in front of a word any more. -/
def leftOver : Nat → String → String
  | 0, s => "[]" ++ s
  | 1, s => "[][]" ++ s
  | n + 2, s => "[]Array of " ++ leftOver n s

section
variable {s : String} (hs : ∃ c cs, s.toList = c :: cs ∧ isWord c = true) (hp : ¬ HasPhrase s.toList)

theorem bracketArrays_two (n : Nat) : bracketArrays (copiesThen (n + 2) "Array of " s).toList =
    "[]".toList ++ ("Array of ".toList ++ bracketArrays (copiesThen n "Array of " s).toList) := by
  have hb : BeginsPhrase "Array".toList (" of ".toList ++ (copiesThen n "Array of " s).toList)
      (copiesThen (n + 2) "Array of " s).toList := by
    refine ⟨" ".toList, ?_, by simp, List.all_eq_true.mp (by decide), by simp, List.all_eq_true.mp (by decide)⟩
    rw [copiesThen_succ, copiesThen_succ, String.toList_append, String.toList_append]
    rfl
  rw [bracketArrays_of_beginsPhrase hb (by simp [isWord_delimiter]), bracketArrays_append (by decide)]
  rfl

include hs hp

theorem bracketArrays_one : bracketArrays (copiesThen 1 "Array of " s).toList = "[]".toList ++ s.toList := by
  have hsplit := List.takeWhile_append_dropWhile (p := isWord) (l := s.toList)
  have hb : BeginsPhrase (s.toList.takeWhile isWord) (s.toList.dropWhile isWord)
      (copiesThen 1 "Array of " s).toList := by
    obtain ⟨c, cs, he, hc⟩ := hs
    refine ⟨" ".toList, ?_, by simp, List.all_eq_true.mp (by decide), by simp [he, hc],
      List.all_eq_true.mp List.all_takeWhile⟩
    rw [copiesThen_succ, copiesThen_zero, String.toList_append, hsplit]
    rfl
  have hr : ¬ HasPhrase (s.toList.dropWhile isWord) := by
    rintro ⟨before, word, rest, tail, he, ht⟩
    refine hp ⟨s.toList.takeWhile isWord ++ before, word, rest, tail, ?_, ht⟩
    rw [List.append_assoc, ← he, hsplit]
  rw [bracketArrays_of_beginsPhrase hb, bracketArrays_of_not_hasPhrase hr, hsplit]
  intro c hc
  have := List.head?_dropWhile_not isWord s.toList
  rw [hc] at this
  simpa using this

theorem exists_brackets : ∀ n, ∃ tail, bracketArrays (copiesThen (n + 1) "Array of " s).toList = "[]".toList ++ tail
  | 0 => ⟨_, bracketArrays_one hs hp⟩
  | n + 1 => ⟨_, bracketArrays_two n⟩

/-- Two phrases more in a row bring one pair of brackets more, and one phrase that both passes leave. -/
theorem bracketArrays_again : ∀ n,
    bracketArrays (bracketArrays (copiesThen (n + 1) "Array of " s).toList) = (leftOver n s).toList
  | 0 => by
    rw [bracketArrays_one hs hp, bracketArrays_append (by decide), bracketArrays_of_not_hasPhrase hp]
    simp [leftOver]
  | 1 => by
    have hone : bracketArrays ("Array of ".toList ++ bracketArrays (copiesThen 0 "Array of " s).toList) =
        "[]".toList ++ s.toList := by
      rw [← bracketArrays_one hs hp, copiesThen_succ, copiesThen_zero, bracketArrays_of_not_hasPhrase hp,
        String.toList_append]
    rw [bracketArrays_two, bracketArrays_append (by decide), hone]
    simp [leftOver]
  | n + 2 => by
    have ih := bracketArrays_again n
    obtain ⟨tail, ht⟩ := exists_brackets hs hp n
    rw [ht] at ih
    rw [bracketArrays_two, ht, bracketArrays_append (by decide), bracketArrays_before_brackets, ih]
    simp [leftOver]

theorem nesting_none : nesting s.toList = (0, s.toList) := by
  have hb := bracketArrays_of_not_hasPhrase hp
  rw [nesting_of_not_brackets, hb]
  rw [hb]
  obtain ⟨c, cs, he, hc⟩ := hs
  rintro ⟨rest, hr⟩
  rw [he] at hr
  have : '[' = c := (List.cons.inj hr).1
  exact absurd (this ▸ hc) (by simp [isWord_delimiter])

theorem nesting_one : nesting (copiesThen 1 "Array of " s).toList = (1, s.toList) := by
  rw [nesting_of_brackets (bracketArrays_one hs hp), nesting_none hs hp]

theorem nesting_two : nesting (copiesThen 2 "Array of " s).toList = (2, s.toList) := by
  have h := bracketArrays_two (s := s) 0
  rw [copiesThen_zero, bracketArrays_of_not_hasPhrase hp, ← String.toList_append] at h
  have hone : "Array of " ++ s = copiesThen 1 "Array of " s := by rw [copiesThen_succ, copiesThen_zero]
  rw [nesting_of_brackets h, hone, nesting_one hs hp]

theorem nesting_many (n : Nat) :
    nesting (copiesThen (n + 3) "Array of " s).toList = (1, ("Array of " ++ leftOver n s).toList) := by
  obtain ⟨tail, ht⟩ := exists_brackets hs hp n
  have hcore : bracketArrays ("Array of ".toList ++ bracketArrays (copiesThen (n + 1) "Array of " s).toList) =
      ("Array of " ++ leftOver n s).toList := by
    have ih := bracketArrays_again hs hp n
    rw [ht] at ih ⊢
    rw [bracketArrays_before_brackets, ih, String.toList_append]
  rw [nesting_of_brackets (bracketArrays_two (n + 1)), nesting_of_not_brackets, hcore]
  rw [hcore, String.toList_append]
  rintro ⟨rest, hr⟩
  have : '[' = 'A' := (List.cons.inj hr).1
  exact absurd this (by decide)

end

/-! ## What is written for a row -/

theorem hasOr_brackets (cs : List Char) : hasWord "or" ("[]".toList ++ cs) = hasWord "or" cs := by
  have hopen : hasWord "or" ([] ++ '[' :: (']' :: cs)) = hasWord "or" (']' :: cs) :=
    hasWord_append rfl (isWord_delimiter (by simp)) _
  have hclose : hasWord "or" ([] ++ ']' :: cs) = hasWord "or" cs :=
    hasWord_append rfl (isWord_delimiter (by simp)) cs
  exact hopen.trans hclose

theorem hasOr_phrase (cs : List Char) : hasWord "or" ("Array of ".toList ++ cs) = hasWord "or" cs := by
  have hc : isWord ' ' = false := isWord_delimiter (by simp)
  have hword : hasWord "or" ("Array".toList ++ ' ' :: ("of".toList ++ ' ' :: cs)) =
      hasWord "or" ("of".toList ++ ' ' :: cs) := hasWord_append (by decide) hc _
  have hof : hasWord "or" ("of".toList ++ ' ' :: cs) = hasWord "or" cs := hasWord_append (by decide) hc cs
  exact hword.trans hof

theorem hasOr_leftOver (s : String) : ∀ n, hasWord "or" (leftOver n s).toList = hasWord "or" s.toList
  | 0 => by
    rw [leftOver, String.toList_append, hasOr_brackets]
  | 1 => by
    rw [leftOver, String.toList_append]
    exact (hasOr_brackets _).trans (hasOr_brackets _)
  | n + 2 => by
    rw [leftOver, String.toList_append, ← hasOr_leftOver s n]
    exact (hasOr_brackets _).trans (hasOr_phrase _)

theorem standsAlone_row_iff (n : Nat) (s : String) :
    StandsAlone "or".toList ("Array of " ++ leftOver n s).toList ↔ StandsAlone "or".toList s.toList := by
  rw [← hasOr_iff, ← hasOr_iff, ← hasOr_leftOver s n, String.toList_append, hasOr_phrase]

theorem array_ne {s t : String} (hs : t ∈ "Integer or String" :: primitives) : "Array of " ++ s ≠ t := by
  intro he
  have hall : ∀ t ∈ "Integer or String" :: primitives, t.toList.head? ≠ some 'A' := by decide
  refine hall t hs ?_
  rw [← he, String.toList_append]
  rfl

theorem not_levelwise (n : Nat) {rest : String} (hr : rest.toList.head? ≠ some '[') (inner : Option String) :
    some ("[]" ++ rest) ≠ inner.map (copiesThen (n + 2) "[]") := by
  intro he
  cases inner with
  | none => cases he
  | some leaf =>
    have he : "[]" ++ rest = copiesThen (n + 2) "[]" leaf := Option.some.inj he
    rw [copiesThen_succ, copiesThen_succ, ← String.toList_inj, String.toList_append, String.toList_append,
      List.append_cancel_left_eq] at he
    rw [he, String.toList_append] at hr
    exact hr rfl

section
variable (settings : Settings) {s : String} (hs : ∃ c cs, s.toList = c :: cs ∧ isWord c = true)
  (hp : ¬ HasPhrase s.toList)
include hs hp

theorem typeFor_few {n : Nat} (hn : n ≤ 2) :
    (typeFor settings (copiesThen n "Array of " s)).toOption =
      (typeFor settings s).toOption.map (copiesThen n "[]") := by
  have h : ∀ m, m ≤ 2 → nesting (copiesThen m "Array of " s).toList = (m, s.toList) := by
    intro m hm
    match m, hm with
    | 0, _ => rw [copiesThen_zero, nesting_none hs hp]
    | 1, _ => exact nesting_one hs hp
    | 2, _ => exact nesting_two hs hp
  have h₀ := h 0 (by omega)
  rw [copiesThen_zero] at h₀
  rcases settings.writes_or_lacks s with ⟨leaf, hw⟩ | ⟨cause, hl⟩
  · rw [typeFor_of_writes (h n hn) hw, typeFor_of_writes h₀ hw, copiesThen_zero]
    rfl
  · rw [typeFor_of_lacks (h n hn) hl, typeFor_of_lacks h₀ hl]
    rfl

theorem typeFor_many (n : Nat) :
    (¬ StandsAlone "or".toList s.toList →
      typeFor settings (copiesThen (n + 3) "Array of " s) = .ok ("[]Array of " ++ leftOver n s)) ∧
    (StandsAlone "or".toList s.toList → typeFor settings (copiesThen (n + 3) "Array of " s) =
      if settings.unionsAsJson then .ok "[]std.json.Value" else .error ⟨copiesThen (n + 3) "Array of " s, .union⟩) := by
  have h := nesting_many hs hp n
  have ho := standsAlone_row_iff n s
  constructor
  · intro hno
    have hprim : "Array of " ++ leftOver n s ∉ primitives := fun hm => array_ne (List.mem_cons_of_mem _ hm) rfl
    rw [typeFor_of_writes h (.itself hprim (mt ho.mp hno)), copiesThen_succ, copiesThen_zero, ← String.append_assoc]
    rfl
  · intro hor
    have hu : NamesUnion ("Array of " ++ leftOver n s) := ⟨ho.mpr hor, array_ne List.mem_cons_self⟩
    cases hj : settings.unionsAsJson with
    | false =>
      rw [typeFor_of_lacks h (.union hu hj)]
      rfl
    | true =>
      rw [typeFor_of_writes h (.union hu hj), copiesThen_succ, copiesThen_zero]
      rfl

/-- A union has no rendering exactly if unions are not written as JSON values and it is not the one
union with a type of its own. -/
theorem typeFor_union (hor : StandsAlone "or".toList s.toList) :
    (typeFor settings s).toOption = none ↔ settings.unionsAsJson = false ∧ s ≠ "Integer or String" := by
  have h := nesting_none hs hp
  by_cases hi : s = "Integer or String"
  · subst hi
    rw [typeFor_of_writes h .integerOrString]
    simp [Except.toOption]
  · cases hj : settings.unionsAsJson with
    | false =>
      rw [typeFor_of_lacks h (.union ⟨hor, hi⟩ hj)]
      simp [hi, Except.toOption]
    | true =>
      rw [typeFor_of_writes h (.union ⟨hor, hi⟩ hj)]
      simp [Except.toOption]

end

/-- Up to two phrases in a row become one pair of brackets each, in front of what the type behind
them becomes. Of three or more only the first one does, and all that is left is taken for one core.
So a longer row comes out level by level only where neither side has a rendering. -/
theorem typeFor_row (settings : Settings) {s : String} (hs : ∃ c cs, s.toList = c :: cs ∧ isWord c = true)
    (hp : ¬ HasPhrase s.toList) (n : Nat) :
    let row := copiesThen n "Array of " s
    let levelwise := (typeFor settings s).toOption.map (copiesThen n "[]")
    ((typeFor settings row).toOption = levelwise ↔
      n ≤ 2 ∨ StandsAlone "or".toList s.toList ∧ settings.unionsAsJson = false ∧ s ≠ "Integer or String") ∧
    (3 ≤ n →
      (¬ StandsAlone "or".toList s.toList → typeFor settings row = .ok ("[]Array of " ++ leftOver (n - 3) s)) ∧
      (StandsAlone "or".toList s.toList → typeFor settings row =
        if settings.unionsAsJson then .ok "[]std.json.Value" else .error ⟨row, .union⟩)) := by
  intro row levelwise
  by_cases hn : n ≤ 2
  · have hfew : (typeFor settings row).toOption = levelwise := typeFor_few settings hs hp hn
    exact ⟨⟨fun _ => .inl hn, fun _ => hfew⟩, fun hn' => absurd hn (by omega)⟩
  obtain ⟨m, rfl⟩ : ∃ m, n = m + 3 := ⟨n - 3, by omega⟩
  have hmany := typeFor_many settings hs hp m
  refine ⟨?_, fun _ => hmany⟩
  rw [or_iff_right hn]
  by_cases hor : StandsAlone "or".toList s.toList
  · have hrow : typeFor settings row = _ := hmany.2 hor
    rw [hrow, and_iff_right hor, ← typeFor_union settings hs hp hor]
    cases hj : settings.unionsAsJson with
    | false =>
      have hl : levelwise = none ↔ (typeFor settings s).toOption = none := Option.map_eq_none_iff
      rw [← hl]
      exact eq_comm
    | true =>
      have hr : "std.json.Value".toList.head? ≠ some '[' := by decide
      have hne : some "[]std.json.Value" ≠ levelwise := not_levelwise (m + 1) hr _
      have hu := typeFor_union settings hs hp hor
      rw [hj] at hu
      exact ⟨fun he => absurd he hne, fun hr => absurd (hu.mp hr).1 (by decide)⟩
  · have hrow : typeFor settings row = _ := hmany.1 hor
    have hr : ("Array of " ++ leftOver m s).toList.head? ≠ some '[' := by simp
    have hne := not_levelwise (m + 1) hr (typeFor settings s).toOption
    rw [← String.append_assoc] at hne
    rw [hrow]
    exact ⟨fun he => absurd he hne, fun hr => absurd hr.1 hor⟩

theorem mem_of_hasPhrase {cs : List Char} (h : HasPhrase cs) : 'A' ∈ cs := by
  obtain ⟨before, word, rest, tail, rfl, gap, rfl, -⟩ := h
  simp

theorem typeFor_row_of_five :
    let s := "Photo or Video"
    (∃ c cs, s.toList = c :: cs ∧ isWord c = true) ∧ ¬ HasPhrase s.toList ∧
      typeFor .standard (copiesThen 5 "Array of " s) = .ok "[]std.json.Value" := by
  intro s
  have hs : ∃ c cs, s.toList = c :: cs ∧ isWord c = true := ⟨'P', "hoto or Video".toList, by decide⟩
  have hp : ¬ HasPhrase s.toList := fun h => absurd (mem_of_hasPhrase h) (by decide)
  have hor : StandsAlone "or".toList "Photo or Video".toList :=
    standsAlone_between "Photo".toList "or".toList "Video".toList
  exact ⟨hs, hp, ((typeFor_row .standard hs hp 5).2 (by decide)).2 hor⟩

/-- Three arrays of texts are written as one array of something that is no type. -/
theorem three_arrays_of_strings :
    typeFor .standard "Array of Array of Array of String" = .ok "[]Array of []String" ∧
      typeFor .standard "String" = .ok "[]u8" ∧ "[]Array of []String" ≠ copiesThen 3 "[]" "[]u8" := by
  have hs : ∃ c cs, "String".toList = c :: cs ∧ isWord c = true := ⟨'S', "tring".toList, by decide⟩
  have hp : ¬ HasPhrase "String".toList := fun h => absurd (mem_of_hasPhrase h) (by decide)
  have hor : ¬ StandsAlone "or".toList "String".toList := mt (hasOr_iff _).mpr (by decide)
  refine ⟨?_, ?_, by decide⟩
  · have hrow : "Array of Array of Array of String" = copiesThen 3 "Array of " "String" := by decide
    rw [hrow]
    exact (typeFor_many .standard hs hp 0).1 hor
  · exact typeFor_of_writes (nesting_none hs hp) .string

end ZigDecls
