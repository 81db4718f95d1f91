import ZigDecls.Command.Run
import ZigDecls.Proofs.Acceptance
import ZigDecls.Proofs.Layers
import ZigDecls.Proofs.Surrogates
import ZigDecls.Zig.Inventory

/-!
# Number types

A number type that has been checked is unset or a clean text: not empty, and without a blank at either
end. A word of the command line is laid over the checked settings as it is. So it stays clean if it
was, and exactly then it says what it would say as a variable.
-/

namespace ZigDecls
open Text

def Clean (s : String) : Prop := s ≠ "" ∧ Trimmed s

theorem Clean.allBlank_eq {s : String} (h : Clean s) : allBlank s = false := by
  obtain ⟨hne, hh, -⟩ := h
  obtain ⟨c, cs, hs⟩ := List.exists_cons_of_ne_nil (mt String.toList_eq_nil_iff.mp hne)
  rw [hs] at hh
  rw [allBlank, hs, List.all_cons, hh c rfl]
  rfl

theorem clean_trim {s : String} (h : allBlank s = false) : Clean (trim s) :=
  ⟨fun he => absurd (trim_eq_empty_iff.mp he) (ne_true_of_eq_false h), trimmed_trim s⟩

theorem textSetting_eq_self_iff {s : String} : textSetting s = some s ↔ Clean s := by
  unfold textSetting
  by_cases hb : allBlank s = true
  · rw [if_pos hb]
    refine ⟨fun h => (by cases h), fun h => ?_⟩
    rw [h.allBlank_eq] at hb
    cases hb
  · rw [if_neg hb]
    refine ⟨fun h => ?_, fun h => congrArg some h.2.trim_eq⟩
    have hc := clean_trim (by simpa using hb)
    rwa [Option.some.inj h] at hc

theorem clean_of_textSetting {s type : String} (h : textSetting s = some type) : Clean type := by
  unfold textSetting at h
  split at h
  · cases h
  · rename_i hb
    cases h
    exact clean_trim (by simpa using hb)

/-! ## Checked settings -/

inductive NumberType
  | integer
  | float
deriving DecidableEq, Repr

def NumberType.key : NumberType → String
  | integer => "STRUCTGEN_INTEGER_REPR"
  | float => "STRUCTGEN_FLOAT_REPR"

namespace Choices
variable {t s : Type}

def numberType (c : Choices t s) : NumberType → t
  | .integer => c.integerType
  | .float => c.floatType

def setNumberType (c : Choices t s) (n : NumberType) (type : t) : Choices t s :=
  match n with
  | .integer => { c with integerType := type }
  | .float => { c with floatType := type }

theorem onto_numberType (upper : Choices (Option t) (Option s)) (base : Choices t s) (n : NumberType) :
    (upper.onto base).numberType n = (upper.numberType n).getD (base.numberType n) := by
  cases n <;> rfl

theorem map_numberType {t' s' : Type} (f : t → t') (g : s → s') (c : Choices t s) (n : NumberType) :
    (c.map f g).numberType n = f (c.numberType n) := by
  cases n <;> rfl

theorem setNumberType_inj {c : Choices t s} {n : NumberType} {x y : t} :
    c.setNumberType n x = c.setNumberType n y ↔ x = y := by
  refine ⟨fun h => ?_, congrArg _⟩
  cases n with
  | integer => exact congrArg integerType h
  | float => exact congrArg floatType h

theorem onto_setNumberType (upper : Choices (Option t) (Option s)) (base : Choices t s) (n : NumberType) (type : t) :
    (upper.setNumberType n (some type)).onto base = (upper.setNumberType n none).onto (base.setNumberType n type) ∧
    (upper.setNumberType n (some type)).onto base = (upper.onto base).setNumberType n type := by
  cases n <;> exact ⟨rfl, rfl⟩

end Choices

/-- Every number type is unset or clean. -/
def Settings.CleanTypes (settings : Settings) : Prop := ∀ n type, settings.numberType n = some type → Clean type

theorem clean_of_readSetting {standard : Option String} {name type : String} {value : Option Value}
    (hs : ∀ type, standard = some type → Clean type)
    (h : readSetting readText standard name value = .ok (some type)) : Clean type := by
  cases value with
  | none => exact hs type (Except.ok.inj h)
  | some value =>
    cases value with
    | text s => exact clean_of_textSetting (Except.ok.inj h)
    | null => cases h
    | bool b => cases h
    | int n => cases h
    | list values => cases h
    | dict entries => cases h

theorem cleanTypes_standard : Settings.standard.CleanTypes := by
  intro n type h
  apply textSetting_eq_self_iff.mp
  cases n with
  | integer => cases h; decide +kernel
  | float => cases h; decide +kernel

theorem cleanTypes_of_check {given : Layer} {settings : Settings} (h : given.check = .ok settings) :
    settings.CleanTypes := by
  unfold Layer.check at h
  dsimp only at h
  split at h
  · rename_i hi hf _ _ _
    cases h
    intro n type hn
    cases n with
    | integer => cases hn; exact clean_of_readSetting (cleanTypes_standard .integer) hi
    | float => cases hn; exact clean_of_readSetting (cleanTypes_standard .float) hf
  · cases h

theorem isVariableOf_key (n : NumberType) :
    isVariableOf settingNames.integerType n.key = (n == .integer) ∧
    isVariableOf settingNames.floatType n.key = (n == .float) ∧
    ∀ name ∈ switchNames, isVariableOf name n.key = false := by
  cases n <;> decide +kernel

/-- A variable of a number type is read into that type, and nothing else. -/
theorem settings_snoc (env : Environment) (n : NumberType) (word : String) :
    (env ++ [(n.key, word)]).problems = env.problems ∧
    (env ++ [(n.key, word)]).settings = env.settings.setNumberType n (textSetting word) := by
  obtain ⟨hi, hf, hs⟩ := isVariableOf_key n
  unfold switchNames at hs
  simp only [List.forall_mem_cons] at hs
  obtain ⟨ht, hu, hs, -⟩ := hs
  constructor
  · simp only [Environment.problems, switchNames, List.filterMap_cons, List.filterMap_nil, Environment.value?_snoc,
      ht, hu, hs]
    rfl
  · simp only [Environment.settings, Environment.value?_snoc, hi, hf, ht, hu, hs]
    cases n <;> rfl

/-! ## Words of the command line -/

namespace Command

/-- The number types and the switches that a command line gives by words. -/
def Overrides.ofWords (words : Choices (Option String) (Option Bool)) : Overrides :=
  words.map (·.map fun (word : String) => some (word : CodePoints)) id

def laidOver (words : Choices (Option String) (Option Bool)) : Choices (Option (Option String)) (Option Bool) :=
  words.map (·.map some) id

theorem Overrides.settings_ofWords (words : Choices (Option String) (Option Bool)) (env : Environment) :
    (ofWords words).settings env =
      if env.problems.isEmpty then .ok ((laidOver words).onto env.settings) else .error env.problems := by
  have hw : (ofWords words).map (·.map fun type => some (type.elim valueless CodePoints.standIn)) id =
      laidOver words := by
    unfold ofWords laidOver Choices.map
    simp [Function.comp_def, CodePoints.standIn_string]
  rw [settings, hw, load_eq]
  by_cases he : env.problems.isEmpty = true
  · rw [if_pos he, if_pos he]; rfl
  · rw [if_neg he, if_neg he]; rfl

theorem cleanTypes_onto_iff {base : Settings} (hb : base.CleanTypes) (words : Choices (Option String) (Option Bool)) :
    Settings.CleanTypes ((laidOver words).onto base) ↔ ∀ n word, words.numberType n = some word → Clean word := by
  unfold Settings.CleanTypes
  refine forall_congr' fun n => ?_
  rw [Choices.onto_numberType, laidOver, Choices.map_numberType]
  cases hw : words.numberType n with
  | none => simpa using hb n
  | some word => simp

theorem laidOver_setNumberType (words : Choices (Option String) (Option Bool)) (n : NumberType) (word : Option String) :
    laidOver (words.setNumberType n word) = (laidOver words).setNumberType n (word.map some) := by
  cases n <;> rfl

theorem settings_word_eq_variable_iff {env : Environment} (he : env.problems.isEmpty = true)
    (words : Choices (Option String) (Option Bool)) (n : NumberType) (word : String) :
    (Overrides.ofWords (words.setNumberType n (some word))).settings env =
      (Overrides.ofWords (words.setNumberType n none)).settings (env ++ [(n.key, word)]) ↔ Clean word := by
  obtain ⟨hp, hs⟩ := settings_snoc env n word
  rw [Overrides.settings_ofWords, Overrides.settings_ofWords, hp, hs, if_pos he, if_pos he, Except.ok.injEq,
    laidOver_setNumberType, laidOver_setNumberType, Option.map_some, Option.map_none]
  rw [← (Choices.onto_setNumberType _ _ n _).1, (Choices.onto_setNumberType _ _ n _).2,
    (Choices.onto_setNumberType _ _ n _).2, Choices.setNumberType_inj, eq_comm]
  exact textSetting_eq_self_iff

/-- Checked settings have clean number types, from whatever layers they are made. The words of a
command line are laid over them as they are: the number types stay clean exactly if these words are,
and a word says what it would say as a variable exactly if it is clean. -/
theorem cleanTypes_iff_words {env : Environment} {made base : Settings} (init : Layer)
    (hm : (init.above (.ofEnvironment env)).check = .ok made) (hb : Settings.load env = .ok base)
    (words : Choices (Option String) (Option Bool)) :
    made.CleanTypes ∧
    (∃ settings, (Overrides.ofWords words).settings env = .ok settings ∧
      (settings.CleanTypes ↔ ∀ n word, words.numberType n = some word → Clean word)) ∧
    ∀ n word, (Overrides.ofWords (words.setNumberType n (some word))).settings env =
      (Overrides.ofWords (words.setNumberType n none)).settings (env ++ [(n.key, word)]) ↔ Clean word := by
  have hc : base.CleanTypes := cleanTypes_of_check hb
  rw [load_eq] at hb
  split at hb
  · rename_i he
    cases hb
    refine ⟨cleanTypes_of_check hm, ⟨_, ?_, cleanTypes_onto_iff hc words⟩, settings_word_eq_variable_iff he words⟩
    rw [Overrides.settings_ofWords, if_pos he]
  · cases hb

theorem eq_ok_of_toOption {ε α : Type} {e : Except ε α} {a : α} (h : e.toOption = some a) : e = .ok a := by
  cases e with
  | error problem => cases h
  | ok b => exact congrArg Except.ok (Option.some.inj h)

theorem cleanTypes_iff_words_padded :
    let env : Environment := [("STRUCTGEN_FLOAT_REPR", " f32 ")]
    let init : Layer := ⟨some (.text " u8 "), none, none, none, none⟩
    let words : Choices (Option String) (Option Bool) := ⟨some " i32", none, none, none, some true⟩
    (∃ made, (init.above (.ofEnvironment env)).check = .ok made ∧ made.CleanTypes) ∧
    (∃ base, Settings.load env = .ok base) ∧
    ∃ settings, (Overrides.ofWords words).settings env = .ok settings ∧ ¬ settings.CleanTypes := by
  intro env init words
  have hm : (init.above (.ofEnvironment env)).check = .ok ⟨some "u8", some "f32", false, true, false⟩ :=
    eq_ok_of_toOption (by decide +kernel)
  have hb : Settings.load env = .ok ⟨some "i64", some "f32", false, true, false⟩ :=
    eq_ok_of_toOption (by decide +kernel)
  obtain ⟨hc, ⟨settings, hs, hi⟩, -⟩ := cleanTypes_iff_words init hm hb words
  refine ⟨⟨_, hm, hc⟩, ⟨_, hb⟩, settings, hs, fun h => ?_⟩
  have hn : textSetting " i32" ≠ some " i32" := by decide +kernel
  exact hn (textSetting_eq_self_iff.mpr (hi.mp h .integer " i32" rfl))

/-- An empty word is kept as a type, where the empty variable leaves the type unset. -/
theorem empty_word_is_kept :
    let field : Field := ⟨"x", "Integer", "The x."⟩
    (∃ r settings, Request.ofArgs ["page.html", "--integer-repr", ""] = .ok r ∧ r.settings [] = .ok settings ∧
      settings.integerType = some "" ∧ ¬ settings.CleanTypes ∧ field.typeText settings = "") ∧
    ∃ r settings, Request.ofArgs ["page.html"] = .ok r ∧ r.settings [("STRUCTGEN_INTEGER_REPR", "")] = .ok settings ∧
      settings.integerType = none ∧
      field.typeText settings = "@compileError(\"It's a Integer, choose one integer type\")" := by
  constructor
  · refine ⟨{ Request.standard with path := "page.html", overrides := ⟨some (some ""), none, none, none, none⟩ },
      { Settings.standard with integerType := some "" }, eq_ok_of_toOption (by decide +kernel),
      eq_ok_of_toOption (by decide +kernel), rfl, fun h => (h .integer "" rfl).1 rfl, by decide +kernel⟩
  · exact ⟨{ Request.standard with path := "page.html" }, { Settings.standard with integerType := none },
      eq_ok_of_toOption (by decide +kernel), eq_ok_of_toOption (by decide +kernel), rfl, by decide +kernel⟩

end Command

end ZigDecls
