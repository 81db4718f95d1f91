import ZigDecls.Settings.Basic
import ZigDecls.Settings.Value

/-!
# Where settings come from

Values given directly come before variables of the environment, and these before the standard
settings, for each setting by itself. All values that are in force are checked, and each that is
refused is one problem.
-/

namespace ZigDecls
open Text

/-- The names of the settings, in the order in which they are checked. -/
def settingNames : Choices String String :=
  ⟨"integer_repr", "float_repr", "true_as_bool", "prefer_json_value_for_unions", "strict"⟩

/-- Settings given in part, with unchecked values. -/
abbrev Layer := Choices (Option Value) (Option Value)

/-- The upper layer where it has a value, the lower one elsewhere. -/
def Layer.above (upper lower : Layer) : Layer where
  integerType := upper.integerType <|> lower.integerType
  floatType := upper.floatType <|> lower.floatType
  trueAsBool := upper.trueAsBool <|> lower.trueAsBool
  unionsAsJson := upper.unionsAsJson <|> lower.unionsAsJson
  strict := upper.strict <|> lower.strict

def Layer.ofNames (lookup : String → Option Value) : Layer := settingNames.map lookup lookup

/-! ## The environment -/

abbrev Environment := List (String × String)

def variableMark : String := "structgen_"

/-- The value of a setting's variable; the case of letters in its name does not matter. -/
def Environment.setting? (env : Environment) (name : String) : Option String :=
  (env.reverse.find? fun v => v.1.toList.map Char.toLower == (variableMark ++ name).toList).map (·.2)

def Layer.ofEnvironment (env : Environment) : Layer :=
  .ofNames fun name => (env.setting? name).map .text

/-! ## Checking -/

structure Problem where
  setting : String
  complaint : Complaint
  value : Value

def Problem.text (p : Problem) : String :=
  p.setting ++ "\n  " ++ p.complaint.text ++ " [type=" ++ p.complaint.code ++ ", input_value=" ++
    .ofList (excerpt 25 p.value.shown.toList) ++ ", input_type=" ++ p.value.kind ++ "]"

def problemsMessage (ps : List Problem) : String :=
  toString ps.length ++ " validation error" ++ (if ps.length = 1 then "" else "s") ++ " for TypeConfig\n" ++
    "\n".intercalate (ps.map Problem.text)

/-- One setting: the value read, or the default if none is given. -/
def readSetting {α} (read : Value → Except Complaint α) (default : α) (name : String) :
    Option Value → Except Problem α
  | none => .ok default
  | some value =>
    match read value with
    | .ok a => .ok a
    | .error complaint => .error ⟨name, complaint, value⟩

def problem? {α} : Except Problem α → Option Problem
  | .ok _ => none
  | .error p => some p

def Layer.check (given : Layer) : Except (List Problem) Settings :=
  let std := Settings.standard
  let i := readSetting readText std.integerType settingNames.integerType given.integerType
  let f := readSetting readText std.floatType settingNames.floatType given.floatType
  let t := readSetting readSwitch std.trueAsBool settingNames.trueAsBool given.trueAsBool
  let u := readSetting readSwitch std.unionsAsJson settingNames.unionsAsJson given.unionsAsJson
  let s := readSetting readSwitch std.strict settingNames.strict given.strict
  match i, f, t, u, s with
  | .ok i, .ok f, .ok t, .ok u, .ok s => .ok ⟨i, f, t, u, s⟩
  | _, _, _, _, _ =>
    .error ([problem? i, problem? f, problem? t, problem? u, problem? s].filterMap id)

def Settings.load (env : Environment) : Except (List Problem) Settings := (Layer.ofEnvironment env).check

/-- Settings as values, so that values no check has seen can be laid over them. -/
def Settings.values (settings : Settings) : Choices Value Value := settings.map .ofText? .bool

end ZigDecls
