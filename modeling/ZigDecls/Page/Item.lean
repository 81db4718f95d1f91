import ZigDecls.Text.Classes

/-!
# Items and elements

A layout analysis finds labelled items on a page, each with a text or with a grid of cells. Items
labelled as headings, paragraphs and tables become the elements of the page; an item that has no text
and is no table is passed over, whatever its label.
-/

namespace ZigDecls

/-! ## Capital letters -/

namespace Text

/-- Labels are compared with capital ASCII names only. So the letters that matter are those whose capital
form is made of ASCII letters; beyond `a` to `z` there are ten. -/
def capital (c : Char) : List Char :=
  match c.toNat with
  | 0xDF => ['S', 'S']
  | 0x131 => ['I']
  | 0x17F => ['S']
  | 0xFB00 => ['F', 'F']
  | 0xFB01 => ['F', 'I']
  | 0xFB02 => ['F', 'L']
  | 0xFB03 => ['F', 'F', 'I']
  | 0xFB04 => ['F', 'F', 'L']
  | 0xFB05 | 0xFB06 => ['S', 'T']
  | _ => [c.toUpper]

def capitals (s : String) : String := .ofList (s.toList.flatMap capital)

end Text

open Text

/-! ## Elements -/

/-- Elements of other kinds may stand between headings, paragraphs and tables. -/
inductive Element
  | heading (text : String) (level : Int)
  | paragraph (text : String)
  | table (headers : List String) (rows : List (List String))
  | other (kind : String)
deriving DecidableEq, Repr

/-! ## Items -/

structure Item where
  label : String
  text : Option String
  level : Option Int
  grid : List (List (Option String))
deriving DecidableEq, Repr

def headingLabels : List String := ["SECTION_HEADER", "TITLE"]
def paragraphLabels : List String := ["TEXT", "PARAGRAPH"]
def tableLabels : List String := ["TABLE"]

namespace Item

def cells (item : Item) : List (List String) := item.grid.map (·.map fun cell => trim (cell.getD ""))

/-- A level that is absent or zero is the first. -/
def headingLevel (item : Item) : Int :=
  match item.level with
  | none | some 0 => 1
  | some level => level

/-- The label is compared in capitals. The first row of a table's grid is its header. -/
def element? (item : Item) : Option Element :=
  let label := capitals item.label
  if tableLabels.contains label then some (.table (item.cells.headD []) item.cells.tail)
  else
    match item.text with
    | none | some "" => none
    | some text =>
      if headingLabels.contains label then some (.heading (trim text) item.headingLevel)
      else if paragraphLabels.contains label then some (.paragraph text)
      else none

end Item

def elementsOf (items : List Item) : List Element := items.filterMap Item.element?

/-- How many items were passed over. -/
def skippedIn (items : List Item) : Nat := items.countP fun item => item.element?.isNone

end ZigDecls
