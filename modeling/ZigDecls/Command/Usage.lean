import ZigDecls.Log
import ZigDecls.Text.CodePoint

/-!
# Options and usage

The options and their spellings. A switch has a spelling that turns it on and one that turns it
off; both count as spellings of one option where an error names it.
-/

namespace ZigDecls.Command
open Text

inductive Opt
  | help
  | output
  | region
  | noRegion
  | integerType
  | floatType
  | trueAsBool (on : Bool)
  | unionsAsJson (on : Bool)
  | strict (on : Bool)
  | logLevel
deriving DecidableEq, Repr

namespace Opt

/-- In the order in which an ambiguous beginning lists them. -/
def spellings : List (String × Opt) :=
  [("-h", help), ("--help", help), ("--output", output), ("-o", output), ("--region", region),
   ("--no-region", noRegion), ("--integer-repr", integerType), ("--float-repr", floatType),
   ("--true-as-bool", trueAsBool true), ("--no-true-as-bool", trueAsBool false),
   ("--json-value", unionsAsJson true), ("--no-json-value", unionsAsJson false),
   ("--strict", strict true), ("--no-strict", strict false), ("--log-level", logLevel)]

/-- The spelling that is the word, with its option. -/
def spelled? (word : CodePoints) : Option (String × Opt) := spellings.find? fun e => word == (e.1 : CodePoints)

/-- The spellings that begin so. -/
def startingWith (beginning : CodePoints) : List (String × Opt) :=
  spellings.filter fun e => beginning.isPrefixOf (e.1 : CodePoints)

def title : Opt → String
  | help => "-h/--help"
  | output => "--output/-o"
  | region => "--region"
  | noRegion => "--no-region"
  | integerType => "--integer-repr"
  | floatType => "--float-repr"
  | trueAsBool _ => "--true-as-bool/--no-true-as-bool"
  | unionsAsJson _ => "--json-value/--no-json-value"
  | strict _ => "--strict/--no-strict"
  | logLevel => "--log-level"

def takesValue : Opt → Bool
  | output | region | integerType | floatType | logLevel => true
  | help | noRegion | trueAsBool _ | unionsAsJson _ | strict _ => false

end Opt

/-! ## Misuse -/

inductive Misuse
  | ambiguous (word : CodePoints) (candidates : List String)
  | valueExpected (opt : Opt)
  | valueIgnored (opt : Opt) (value : CodePoints)
  | unknownLevel (value : CodePoints)
  | pathRequired
  | unrecognized (words : List CodePoints)
deriving DecidableEq, Repr

def Misuse.message : Misuse → String
  | ambiguous word candidates =>
    "ambiguous option: " ++ word.shown ++ " could match " ++ ", ".intercalate candidates
  | valueExpected opt => "argument " ++ opt.title ++ ": expected one argument"
  | valueIgnored opt value => "argument " ++ opt.title ++ ": ignored explicit argument " ++ value.quoted
  | unknownLevel value =>
    "argument " ++ Opt.logLevel.title ++ ": invalid choice: " ++ value.quoted ++ " (choose from " ++
      ", ".intercalate (Level.all.map fun l => quoted l.name) ++ ")"
  | pathRequired => "the following arguments are required: html_path"
  | unrecognized words => "unrecognized arguments: " ++ " ".intercalate (words.map CodePoints.shown)

/-! ## Usage texts -/

def usage : String := "\n".intercalate
  ["usage: structgen [-h] [--output OUTPUT] [--region REGION] [--no-region]",
   "                 [--integer-repr INTEGER_REPR] [--float-repr FLOAT_REPR]",
   "                 [--true-as-bool | --no-true-as-bool]",
   "                 [--json-value | --no-json-value] [--strict | --no-strict]",
   "                 [--log-level \x7bDEBUG,INFO,WARNING,ERROR\x7d]",
   "                 html_path",
   ""]

def helpText : String := usage ++ "\n".intercalate
  ["",
   "Generate Zig structs from Field/Type/Description tables in an HTML page.",
   "",
   "positional arguments:",
   "  html_path             Path to the HTML documentation page",
   "",
   "options:",
   "  -h, --help            show this help message and exit",
   "  --output OUTPUT, -o OUTPUT",
   "                        Output file, or '-' for stdout",
   "  --region REGION       id of the element holding the type definitions",
   "  --no-region           Use the whole page",
   "  --integer-repr INTEGER_REPR",
   "                        Zig type for documented 'Integer'",
   "  --float-repr FLOAT_REPR",
   "                        Zig type for documented 'Float'",
   "  --true-as-bool, --no-true-as-bool",
   "                        Map documented 'True' to bool instead of @TypeOf(true)",
   "  --json-value, --no-json-value",
   "                        Map 'X or Y' types to std.json.Value (--no-json-value:",
   "                        unsupported)",
   "  --strict, --no-strict",
   "                        Fail when a field type cannot be mapped",
   "  --log-level \x7bDEBUG,INFO,WARNING,ERROR\x7d",
   ""]

/-- What is said of a command line that asks for nothing. -/
def Misuse.report (m : Misuse) : String := usage ++ "structgen: error: " ++ m.message ++ "\n"

end ZigDecls.Command
