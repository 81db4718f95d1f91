/-!
# Records, and the rejections that stand in for them

A record is what a section of a page says about one type: its name, its documentation and its
fields. A section that yields none leaves a rejection, with the index it would have had.
-/

namespace ZigDecls

structure Field where
  name : String
  typeName : String
  description : String
deriving DecidableEq, Repr

structure Record where
  typeName : String
  documentation : String
  fields : List Field
  index : Int
deriving DecidableEq, Repr

inductive Reason
  | malformedTable
  | incompleteRecord
  | badTypeName
deriving DecidableEq, Repr

namespace Reason

def text : Reason → String
  | malformedTable => "malformed table"
  | incompleteRecord => "incomplete record"
  | badTypeName => "bad type name"

def all : List Reason := [malformedTable, incompleteRecord, badTypeName]

def ofText? (s : String) : Option Reason := all.find? fun r => r.text == s

theorem ofText?_text (r : Reason) : ofText? r.text = some r := by cases r <;> decide

end Reason

structure Rejection where
  index : Int
  typeName : String
  reason : Reason
  detail : String
deriving DecidableEq, Repr

/-- As it is listed in the log. -/
def Rejection.text (r : Rejection) : String :=
  toString r.index ++ ":" ++ r.typeName ++ " (" ++ r.reason.text ++ ": " ++ r.detail ++ ")"

end ZigDecls
