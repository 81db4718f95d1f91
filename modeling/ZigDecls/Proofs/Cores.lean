import ZigDecls.Zig.TypeName

/-!
# Cores

A documented type is a core with arrays around it. Which core and how many arrays does not depend on
the settings. They decide only what the core is written as, or that it has no rendering, and then
the failure names the type as it was documented.
-/

namespace ZigDecls
open Text

/-! ## Words that stand alone -/

def StandsAlone (w cs : List Char) : Prop := ∃ before after, cs = before ++ (w ++ after) ∧
  (∀ c, before.getLast? = some c → isWord c = false) ∧ ∀ c, after.head? = some c → isWord c = false

theorem isWord_delimiter {c : Char} (h : c ∈ [' ', '[', ']']) : isWord c = false := by
  have hall : ([' ', '[', ']'].all fun c => !isWord c) = true := by decide +kernel
  simpa using List.all_eq_true.mp hall c h

/-- A word between blanks stands alone. -/
theorem standsAlone_between (before w after : List Char) : StandsAlone w (before ++ ' ' :: (w ++ ' ' :: after)) := by
  have hc : isWord ' ' = false := isWord_delimiter (by simp)
  refine ⟨before ++ [' '], ' ' :: after, by simp, ?_, ?_⟩
  · intro c h
    simp at h
    exact h ▸ hc
  · intro c h
    cases h
    exact hc

theorem words_append_cons {c : Char} (hc : isWord c = false) (cs ds : List Char) :
    words (cs ++ c :: ds) = words cs ++ words ds := by
  unfold words
  rw [List.splitOnP_append_cons _ _ (by simp [hc]), List.filter_append]

theorem words_eq_singleton {w : List Char} (hne : w ≠ []) (hw : ∀ c ∈ w, isWord c = true) : words w = [w] := by
  unfold words
  rw [List.splitOnP_eq_singleton (by simpa using hw)]
  simp [hne]

theorem mem_words_of_standsAlone {w cs : List Char} (hne : w ≠ []) (hw : ∀ c ∈ w, isWord c = true)
    (h : StandsAlone w cs) : w ∈ words cs := by
  obtain ⟨before, after, rfl, hb, ha⟩ := h
  have hmem : w ∈ words (w ++ after) := by
    cases after with
    | nil => simp [words_eq_singleton hne hw]
    | cons c after =>
      rw [words_append_cons (ha c rfl), words_eq_singleton hne hw]
      simp
  rcases List.eq_nil_or_concat before with rfl | ⟨before, c, rfl⟩
  · exact hmem
  · rw [List.concat_eq_append, List.append_assoc, List.singleton_append, words_append_cons (hb c (by simp))]
    exact List.mem_append_right _ hmem

/-- By induction on the text, with the words cut off at its first character that is in none. -/
theorem standsAlone_of_mem_words {w : List Char} : ∀ cs : List Char, w ∈ words cs → StandsAlone w cs := by
  intro cs
  induction cs using (measure List.length).wf.induction with
  | _ cs ih =>
    intro hm
    have hsplit := List.takeWhile_append_dropWhile (p := isWord) (l := cs)
    have hall : ∀ c ∈ cs.takeWhile isWord, isWord c = true := List.all_eq_true.mp List.all_takeWhile
    cases hd : cs.dropWhile isWord with
    | nil =>
      rw [hd, List.append_nil] at hsplit
      rw [hsplit] at hall
      have hne : cs ≠ [] := by
        rintro rfl
        simp [words] at hm
      rw [words_eq_singleton hne hall, List.mem_singleton] at hm
      subst hm
      exact ⟨[], [], by simp, by simp, by simp⟩
    | cons c rest =>
      have hc : isWord c = false := by
        have := List.head?_dropWhile_not isWord cs
        rw [hd] at this
        simpa using this
      rw [hd] at hsplit
      rw [← hsplit, words_append_cons hc, List.mem_append] at hm
      rcases hm with hm | hm
      · have hne : cs.takeWhile isWord ≠ [] := by
          intro he
          rw [he] at hm
          simp [words] at hm
        rw [words_eq_singleton hne hall, List.mem_singleton] at hm
        refine ⟨[], c :: rest, ?_, by simp, by simpa using hc⟩
        rw [hm, List.nil_append, hsplit]
      · have hlt : rest.length < cs.length := by
          rw [← hsplit, List.length_append, List.length_cons]
          omega
        obtain ⟨before, after, he, hb, ha⟩ := ih rest hlt hm
        refine ⟨cs.takeWhile isWord ++ c :: before, after, ?_, ?_, ha⟩
        · rw [List.append_assoc, List.cons_append, ← he, hsplit]
        · intro d hl
          cases before with
          | nil =>
            simp at hl
            exact hl ▸ hc
          | cons b before => exact hb d (by simpa [List.getLast?_append, List.getLast?_cons] using hl)

theorem hasWord_iff {w : String} (hne : w.toList ≠ []) (hw : ∀ c ∈ w.toList, isWord c = true) (cs : List Char) :
    hasWord w cs = true ↔ StandsAlone w.toList cs := by
  unfold hasWord
  rw [List.contains_iff_mem]
  exact ⟨standsAlone_of_mem_words cs, mem_words_of_standsAlone hne hw⟩

theorem hasWord_append {w : String} {front : List Char} {c : Char} (hf : hasWord w front = false)
    (hc : isWord c = false) (cs : List Char) : hasWord w (front ++ c :: cs) = hasWord w cs := by
  unfold hasWord at hf ⊢
  rw [words_append_cons hc, List.contains_append, hf, Bool.false_or]

theorem hasOr_iff (cs : List Char) : hasWord "or" cs = true ↔ StandsAlone "or".toList cs :=
  hasWord_iff (by simp) (List.all_eq_true.mp (by decide)) cs

/-! ## What a core is written as -/

def primitives : List String := ["Integer", "Float", "Boolean", "True", "String"]

def NamesUnion (core : String) : Prop := StandsAlone "or".toList core.toList ∧ core ≠ "Integer or String"

inductive Settings.Writes (settings : Settings) : String → String → Prop
  | integer {type} : settings.integerType = some type → Writes settings "Integer" type
  | float {type} : settings.floatType = some type → Writes settings "Float" type
  | boolean : Writes settings "Boolean" "bool"
  | trueAsBool : settings.trueAsBool = true → Writes settings "True" "bool"
  | trueItself : settings.trueAsBool = false → Writes settings "True" "@TypeOf(true)"
  | string : Writes settings "String" "[]u8"
  | integerOrString : Writes settings "Integer or String" "integer_or_string"
  | union {core} : NamesUnion core → settings.unionsAsJson = true → Writes settings core "std.json.Value"
  | itself {core} : core ∉ primitives → ¬ StandsAlone "or".toList core.toList → Writes settings core core

inductive Settings.Lacks (settings : Settings) : String → NoType → Prop
  | integer : settings.integerType = none → Lacks settings "Integer" .integer
  | float : settings.floatType = none → Lacks settings "Float" .float
  | union {core} : NamesUnion core → settings.unionsAsJson = false → Lacks settings core .union

theorem coreType_of_not_primitive (settings : Settings) {core : String} (h : core ∉ primitives) :
    coreType settings core.toList =
      if core = "Integer or String" then .ok "integer_or_string".toList
      else if hasWord "or" core.toList then
        if settings.unionsAsJson then .ok "std.json.Value".toList else .error .union
      else .ok core.toList := by
  simp only [primitives, List.mem_cons, List.not_mem_nil, or_false, not_or] at h
  simp only [coreType, String.toList_inj, h, if_false]

theorem NamesUnion.not_primitive {core : String} (h : NamesUnion core) : core ∉ primitives := by
  intro hp
  have hall : ∀ p ∈ primitives, hasWord "or" p.toList = false := by decide
  have ho := (hasOr_iff _).mpr h.1
  rw [hall core hp] at ho
  cases ho

namespace Settings
variable {settings : Settings} {core type : String} {cause : NoType}

theorem Writes.coreType_eq (h : settings.Writes core type) : coreType settings core.toList = .ok type.toList := by
  cases h with
  | integer ht => simp [coreType, ht]
  | float ht => simp [coreType, ht]
  | boolean => simp [coreType]
  | trueAsBool ht => simp [coreType, ht]
  | trueItself ht => simp [coreType, ht]
  | string => simp [coreType]
  | integerOrString => simp [coreType]
  | union hu hj =>
    rw [coreType_of_not_primitive settings hu.not_primitive, if_neg hu.2, if_pos ((hasOr_iff _).mpr hu.1), if_pos hj]
  | itself hp ho =>
    have hne : core ≠ "Integer or String" := by
      rintro rfl
      exact ho (standsAlone_between "Integer".toList _ "String".toList)
    rw [coreType_of_not_primitive settings hp, if_neg hne, if_neg (mt (hasOr_iff _).mp ho)]

theorem Lacks.coreType_eq (h : settings.Lacks core cause) : coreType settings core.toList = .error cause := by
  cases h with
  | integer ht => simp [coreType, ht]
  | float ht => simp [coreType, ht]
  | union hu hj =>
    rw [coreType_of_not_primitive settings hu.not_primitive, if_neg hu.2, if_pos ((hasOr_iff _).mpr hu.1),
      if_neg (by simp [hj])]

theorem writes_or_lacks (settings : Settings) (core : String) :
    (∃ type, settings.Writes core type) ∨ ∃ cause, settings.Lacks core cause := by
  by_cases hp : core ∈ primitives
  · simp only [primitives, List.mem_cons, List.not_mem_nil, or_false] at hp
    rcases hp with rfl | rfl | rfl | rfl | rfl
    · cases ht : settings.integerType with
      | none => exact .inr ⟨_, .integer ht⟩
      | some type => exact .inl ⟨_, .integer ht⟩
    · cases ht : settings.floatType with
      | none => exact .inr ⟨_, .float ht⟩
      | some type => exact .inl ⟨_, .float ht⟩
    · exact .inl ⟨_, .boolean⟩
    · cases ht : settings.trueAsBool with
      | false => exact .inl ⟨_, .trueItself ht⟩
      | true => exact .inl ⟨_, .trueAsBool ht⟩
    · exact .inl ⟨_, .string⟩
  by_cases ho : StandsAlone "or".toList core.toList
  · by_cases hi : core = "Integer or String"
    · subst hi
      exact .inl ⟨_, .integerOrString⟩
    · cases hj : settings.unionsAsJson with
      | false => exact .inr ⟨_, .union ⟨ho, hi⟩ hj⟩
      | true => exact .inl ⟨_, .union ⟨ho, hi⟩ hj⟩
  · exact .inl ⟨_, .itself hp ho⟩

theorem writes_iff : settings.Writes core type ↔ coreType settings core.toList = .ok type.toList := by
  refine ⟨Writes.coreType_eq, fun h => ?_⟩
  rcases settings.writes_or_lacks core with ⟨type', hw⟩ | ⟨cause, hl⟩
  · rw [hw.coreType_eq, Except.ok.injEq, String.toList_inj] at h
    exact h ▸ hw
  · rw [hl.coreType_eq] at h
    cases h

theorem lacks_iff : settings.Lacks core cause ↔ coreType settings core.toList = .error cause := by
  refine ⟨Lacks.coreType_eq, fun h => ?_⟩
  rcases settings.writes_or_lacks core with ⟨type, hw⟩ | ⟨cause', hl⟩
  · rw [hw.coreType_eq] at h
    cases h
  · rw [hl.coreType_eq, Except.error.injEq] at h
    exact h ▸ hl

end Settings

/-! ## Cores in arrays -/

theorem nesting_length (cs : List Char) : 2 * (nesting cs).1 + (nesting cs).2.length ≤ cs.length := by
  fun_induction nesting cs with
  | case1 cs rest hpass ih =>
    have hl := bracketArrays_length cs
    rw [hpass, List.length_cons, List.length_cons] at hl
    simp only [Prod.map_fst, Prod.map_snd, id]
    omega
  | case2 cs _ => simpa using bracketArrays_length cs

theorem nesting_core (cs : List Char) : ¬ "[]".toList <+: (nesting cs).2 := by
  fun_induction nesting cs with
  | case1 cs rest hpass ih => exact ih
  | case2 cs hcore =>
    rintro ⟨rest, hr⟩
    exact hcore rest hr.symm

/-- So many copies of a text, and another one behind them. -/
def copiesThen (n : Nat) (s rest : String) : String := String.join (List.replicate n s) ++ rest

@[simp] theorem copiesThen_zero (s rest : String) : copiesThen 0 s rest = rest := by simp [copiesThen]

theorem copiesThen_succ (n : Nat) (s rest : String) : copiesThen (n + 1) s rest = s ++ copiesThen n s rest := by
  rw [← String.toList_inj]
  simp [copiesThen, List.replicate_succ]

theorem inArrays_eq (type : String) : ∀ n, inArrays n type.toList = (copiesThen n "[]" type).toList := by
  intro n
  induction n with
  | zero => rw [inArrays, copiesThen_zero]
  | succ n ih =>
    rw [inArrays, ih, copiesThen_succ, String.toList_append]
    rfl

section
variable (settings : Settings) (documented : String)

theorem typeFor_eq_ok_iff (type : String) : typeFor settings documented = .ok type ↔
    ∃ leaf, settings.Writes (.ofList (nesting documented.toList).2) leaf ∧
      type = copiesThen (nesting documented.toList).1 "[]" leaf := by
  simp only [Settings.writes_iff, String.toList_ofList]
  unfold typeFor zigType
  generalize nesting documented.toList = d
  cases hc : coreType settings d.2 with
  | error cause =>
    simp [Functor.map, Except.map]
  | ok leaf =>
    simp only [Functor.map, Except.map, Except.ok.injEq]
    constructor
    · intro h
      refine ⟨.ofList leaf, String.toList_ofList.symm, ?_⟩
      rw [← String.toList_inj, ← inArrays_eq, ← h, String.toList_ofList, String.toList_ofList]
    · rintro ⟨leaf', rfl, rfl⟩
      rw [← String.toList_inj, ← inArrays_eq, String.toList_ofList]

theorem typeFor_eq_error_iff (e : UnmappedType) : typeFor settings documented = .error e ↔
    e.documented = documented ∧ settings.Lacks (.ofList (nesting documented.toList).2) e.cause := by
  simp only [Settings.lacks_iff, String.toList_ofList]
  unfold typeFor zigType
  obtain ⟨documented', cause'⟩ := e
  cases hc : coreType settings (nesting documented.toList).2 with
  | error cause =>
    simp [Functor.map, Except.map, eq_comm]
  | ok leaf =>
    simp [Functor.map, Except.map]

variable {settings documented} {depth : Nat} {core leaf : String} {cause : NoType}
  (h : nesting documented.toList = (depth, core.toList))
include h

theorem typeFor_of_writes (hw : settings.Writes core leaf) :
    typeFor settings documented = .ok (copiesThen depth "[]" leaf) := by
  rw [typeFor_eq_ok_iff, h]
  exact ⟨leaf, by rwa [String.ofList_toList], rfl⟩

theorem typeFor_of_lacks (hl : settings.Lacks core cause) :
    typeFor settings documented = .error ⟨documented, cause⟩ := by
  rw [typeFor_eq_error_iff, h]
  exact ⟨rfl, by rwa [String.ofList_toList]⟩

end

/-- A documented type is a core in arrays, at most two characters shorter for each of them, whatever
the settings. They write the core as one of the fixed types, as a union or as itself, behind the
brackets, or it has no rendering, and then the failure keeps the type as it was documented. -/
theorem typeFor_by_core (documented : String) : ∃ (depth : Nat) (core : String),
    ¬ "[]".toList <+: core.toList ∧ 2 * depth + core.length ≤ documented.length ∧ ∀ settings : Settings,
      (∀ type, typeFor settings documented = .ok type ↔
        ∃ leaf, settings.Writes core leaf ∧ type = copiesThen depth "[]" leaf) ∧
      ∀ e, typeFor settings documented = .error e ↔ e.documented = documented ∧ settings.Lacks core e.cause := by
  refine ⟨(nesting documented.toList).1, .ofList (nesting documented.toList).2, ?_, ?_, fun settings => ⟨?_, ?_⟩⟩
  · simpa using nesting_core documented.toList
  · rw [String.length_ofList, ← String.length_toList]
    exact nesting_length _
  · exact typeFor_eq_ok_iff settings documented
  · exact typeFor_eq_error_iff settings documented

end ZigDecls
