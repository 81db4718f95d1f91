import ZigDecls.Text.Classes
import ZigDecls.Text.Quoted
import ZigDecls.Text.Utf8

/-!
# Setting values before they are checked

A setting may be given as any value. Reading turns it into a text or a switch, or complains.
-/

namespace ZigDecls

/-! ## Excerpts -/

namespace Text

/-- The longest beginning that fits into so many bytes; no character is cut in two. -/
def takeBytes : Nat → List Char → List Char
  | _, [] => []
  | room, c :: cs =>
    let size := (Utf8.encodeChar c).length
    if size ≤ room then c :: takeBytes (room - size) cs else []

/-- At most `2 * half` bytes are shown whole; of a longer text, `half` at the front and one less at
the back. -/
def excerpt (half : Nat) (cs : List Char) : List Char :=
  if (Utf8.encode cs).length ≤ 2 * half then cs
  else takeBytes half cs ++ "...".toList ++ (takeBytes (half - 1) cs.reverse).reverse

end Text

open Text

/-! ## Values -/

inductive Value
  | null
  | bool (b : Bool)
  | int (n : Int)
  | text (s : String)
  | list (values : List Value)
  | dict (entries : List (String × Value))
deriving Inhabited

namespace Value

def kind : Value → String
  | null => "NoneType"
  | bool _ => "bool"
  | int _ => "int"
  | text _ => "str"
  | list _ => "list"
  | dict _ => "dict"

mutual
def shown : Value → String
  | null => "None"
  | bool true => "True"
  | bool false => "False"
  | int n => toString n
  | text s => quoted s
  | list values => "[" ++ ", ".intercalate (shownAll values) ++ "]"
  | dict entries => "\x7b" ++ ", ".intercalate (shownEntries entries) ++ "\x7d"
def shownAll : List Value → List String
  | [] => []
  | v :: vs => v.shown :: shownAll vs
def shownEntries : List (String × Value) → List String
  | [] => []
  | (key, v) :: es => (quoted key ++ ": " ++ v.shown) :: shownEntries es
end

def ofText? : Option String → Value
  | none => null
  | some s => text s

end Value

inductive Complaint
  | notText
  | unreadableSwitch
  | notSwitch
  | frozen
deriving DecidableEq, Repr

namespace Complaint

def code : Complaint → String
  | notText => "string_type"
  | unreadableSwitch => "bool_parsing"
  | notSwitch => "bool_type"
  | frozen => "frozen_instance"

def text : Complaint → String
  | notText => "Input should be a valid string"
  | unreadableSwitch => "Input should be a valid boolean, unable to interpret input"
  | notSwitch => "Input should be a valid boolean"
  | frozen => "Instance is frozen"

end Complaint

/-- A blank text is no text. -/
def textSetting (s : String) : Option String := if allBlank s then none else some (trim s)

def readText : Value → Except Complaint (Option String)
  | .text s => .ok (textSetting s)
  | .null => .ok none
  | _ => .error .notText

def onWords : List String := ["1", "on", "t", "true", "y", "yes"]
def offWords : List String := ["0", "off", "f", "false", "n", "no"]

/-- The words are read without regard to the case of their ASCII letters. -/
def switchOfWord? (s : String) : Option Bool :=
  let word := String.ofList (s.toList.map Char.toLower)
  if onWords.contains word then some true
  else if offWords.contains word then some false
  else none

/-- A number that is no word of 64 bits is not read at all. -/
def readSwitch : Value → Except Complaint Bool
  | .bool b => .ok b
  | .int n =>
    if n = 0 then .ok false
    else if n = 1 then .ok true
    else if -0x8000000000000000 ≤ n ∧ n < 0x8000000000000000 then .error .unreadableSwitch
    else .error .notSwitch
  | .text s => (switchOfWord? s).elim (.error .unreadableSwitch) .ok
  | _ => .error .notSwitch

end ZigDecls
