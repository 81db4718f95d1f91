import ZigDecls.Proofs.Trimming
import ZigDecls.Settings.Load

/-!
# Settings, layer by layer

Every setting is settled by itself: by the value laid over it if there is one, else by its variable,
else it is standard. Only the variable of a switch can be refused; every one that is refused is a
problem, also where a value is laid over it.
-/

namespace ZigDecls
open Text

/-! ## Variables -/

def isVariableOf (setting key : String) : Bool := key.toList.map Char.toLower == (variableMark ++ setting).toList

def Environment.valuesOf (env : Environment) (setting : String) : List String :=
  (env.filter fun v => isVariableOf setting v.1).map (·.2)

/-- Of several variables of one setting the last counts. -/
def Environment.value? (env : Environment) (setting : String) : Option String := (env.valuesOf setting).getLast?

theorem Environment.setting?_eq (env : Environment) (setting : String) : env.setting? setting = env.value? setting := by
  unfold setting? value? valuesOf
  rw [List.getLast?_map, List.getLast?_eq_head?_reverse, ← List.filter_reverse, List.head?_filter]
  rfl

theorem Environment.value?_snoc (env : Environment) (key word setting : String) :
    (env ++ [(key, word)]).value? setting = if isVariableOf setting key then some word else env.value? setting := by
  unfold value? valuesOf
  rw [List.filter_append, List.map_append]
  by_cases hv : isVariableOf setting key = true
  · simp [hv]
  · simp [hv]

/-! ## One setting -/

/-- What is in force for one setting: the value laid over it, else what is read from the environment,
else the standard one. -/
def inForce {α β : Type} (upper : Option β) (lift : α → β) (read : String → Option α) (given : Option String)
    (standard : α) : β :=
  upper.getD (lift ((given.bind read).getD standard))

/-- The problem with the switch, if it is given by a word that cannot be read. -/
def refused? (name : String) (given : Option String) : Option Problem :=
  given.bind fun word => if (switchOfWord? word).isNone then some ⟨name, .unreadableSwitch, .text word⟩ else none

theorem readSetting_text (standard : Option String) (name : String) (given : Option String) :
    readSetting readText standard name (given.map .text) = .ok ((given.map textSetting).getD standard) := by
  cases given with
  | none => rfl
  | some s => rfl

theorem readSetting_switch (standard : Bool) (name : String) (given : Option String) :
    readSetting readSwitch standard name (given.map .text) =
      (refused? name given).elim (.ok ((given.bind switchOfWord?).getD standard)) .error := by
  cases given with
  | none => rfl
  | some word =>
    simp only [readSetting, readSwitch, refused?, Option.map_some, Option.bind_some]
    cases switchOfWord? word with
    | none => rfl
    | some b => rfl

/-! ## All settings -/

def switchNames : List String := [settingNames.trueAsBool, settingNames.unionsAsJson, settingNames.strict]

def Environment.problems (env : Environment) : List Problem :=
  switchNames.filterMap fun name => refused? name (env.value? name)

/-- The settings that an environment without problems gives. -/
def Environment.settings (env : Environment) : Settings where
  integerType := ((env.value? settingNames.integerType).map textSetting).getD (some "i64")
  floatType := ((env.value? settingNames.floatType).map textSetting).getD (some "f64")
  trueAsBool := ((env.value? settingNames.trueAsBool).bind switchOfWord?).getD false
  unionsAsJson := ((env.value? settingNames.unionsAsJson).bind switchOfWord?).getD true
  strict := ((env.value? settingNames.strict).bind switchOfWord?).getD false

theorem load_eq (env : Environment) :
    Settings.load env = if env.problems.isEmpty then .ok env.settings else .error env.problems := by
  unfold Settings.load Layer.check Layer.ofEnvironment Layer.ofNames Choices.map Environment.problems switchNames
  simp only [Environment.setting?_eq, readSetting_text, readSetting_switch, List.filterMap_cons, List.filterMap_nil]
  rcases Option.eq_none_or_eq_some (refused? settingNames.trueAsBool (env.value? settingNames.trueAsBool)) with
    ht | ⟨pt, ht⟩ <;>
  rcases Option.eq_none_or_eq_some (refused? settingNames.unionsAsJson (env.value? settingNames.unionsAsJson)) with
    hu | ⟨pu, hu⟩ <;>
  rcases Option.eq_none_or_eq_some (refused? settingNames.strict (env.value? settingNames.strict)) with
    hs | ⟨ps, hs⟩ <;>
  simp only [ht, hu, hs] <;> rfl

theorem problems_isEmpty_iff (env : Environment) : env.problems.isEmpty = true ↔
    ∀ name ∈ switchNames, ∀ word, env.value? name = some word → (switchOfWord? word).isSome = true := by
  unfold Environment.problems
  rw [List.isEmpty_iff, List.filterMap_eq_nil_iff]
  refine forall_congr' fun name => forall_congr' fun _ => ?_
  unfold refused?
  cases env.value? name with
  | none => simp
  | some word => simp [Option.isSome_iff_ne_none]

theorem exists_error_load_iff (env : Environment) : (∃ problems, Settings.load env = .error problems) ↔
    ∃ name ∈ switchNames, ∃ word, env.value? name = some word ∧ switchOfWord? word = none := by
  have hp := not_congr (problems_isEmpty_iff env)
  simp only [Classical.not_forall, exists_prop, Option.not_isSome_iff_eq_none] at hp
  rw [← hp, load_eq]
  by_cases he : env.problems.isEmpty = true
  · simp [he]
  · simp [he]

theorem textSetting_eq (s : String) : textSetting s = if trim s = "" then none else some (trim s) :=
  if_congr trim_eq_empty_iff.symm rfl rfl

theorem switchOfWord?_eq (word : String) : switchOfWord? word =
    let word := String.ofList (word.toList.map Char.toLower)
    if word ∈ ["1", "on", "t", "true", "y", "yes"] then some true
    else if word ∈ ["0", "off", "f", "false", "n", "no"] then some false
    else none :=
  if_congr List.contains_iff_mem rfl (if_congr List.contains_iff_mem rfl rfl)

/-- Reading the environment fails exactly if a switch is given by a word that cannot be read, with one
problem for each such switch, whatever is laid over the settings. Otherwise each of the five settings
is what is laid over it, or else what its variable says, or else standard. A variable says a text
without the blanks at its ends, which is no text if nothing is left, or whether a switch is on. -/
theorem load_settles_each {t s : Type} (env : Environment) (upper : Choices (Option t) (Option s))
    (text : Option String → t) (switch : Bool → s) :
    let given := env.value?
    let switches := ["true_as_bool", "prefer_json_value_for_unions", "strict"]
    let text? (word : String) : Option (Option String) :=
      let word := String.ofList ((word.toList.dropWhile isBlank).rdropWhile isBlank)
      some (if word = "" then none else some word)
    let switch? (word : String) : Option Bool :=
      let word := String.ofList (word.toList.map Char.toLower)
      if word ∈ ["1", "on", "t", "true", "y", "yes"] then some true
      else if word ∈ ["0", "off", "f", "false", "n", "no"] then some false
      else none
    let problems : List Problem := switches.filterMap fun name => (given name).bind fun word =>
      if (switch? word).isNone then some ⟨name, .unreadableSwitch, .text word⟩ else none
    ((∃ ps, Settings.load env = .error ps) ↔
      ∃ name ∈ switches, ∃ word, given name = some word ∧ switch? word = none) ∧
    (fun base => upper.onto (base.map text switch)) <$> Settings.load env =
      if problems.isEmpty then .ok
        { integerType := inForce upper.integerType text text? (given "integer_repr") (some "i64")
          floatType := inForce upper.floatType text text? (given "float_repr") (some "f64")
          trueAsBool := inForce upper.trueAsBool switch switch? (given "true_as_bool") false
          unionsAsJson := inForce upper.unionsAsJson switch switch? (given "prefer_json_value_for_unions") true
          strict := inForce upper.strict switch switch? (given "strict") false }
      else .error problems := by
  intro given switches text? switch? problems
  have hs : switch? = switchOfWord? := funext fun word => (switchOfWord?_eq word).symm
  have ht : text? = some ∘ textSetting := funext fun word => congrArg some (textSetting_eq word).symm
  have hp : env.problems = problems := by
    unfold problems
    rw [hs]
    rfl
  have read (value : Option String) : value.bind (some ∘ textSetting) = value.map textSetting := by
    cases value <;> rfl
  rw [hs, ht]
  refine ⟨exists_error_load_iff env, ?_⟩
  rw [load_eq, hp]
  by_cases he : problems.isEmpty = true
  · rw [if_pos he, if_pos he]
    simp only [inForce, read]
    rfl
  · rw [if_neg he, if_neg he]
    rfl

end ZigDecls
