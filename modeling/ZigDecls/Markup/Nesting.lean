import ZigDecls.Markup.Tag

/-!
# The nesting of elements

The tokens of a page need not nest. A walk with the elements that are open makes them do so: it
opens the elements that a page always has, ends those that cannot go on where another begins, and
passes over closing tags that close nothing.
-/

namespace ZigDecls.Markup

structure Nesting where
  /-- The names of the open elements, the innermost in front. -/
  elements : List (List Char)
  /-- The text that has not ended. -/
  run : List Char
  /-- The pieces that are settled, the last one in front. -/
  pieces : List Piece
  /-- Whether a `head` has been opened, and whether a `body` has. -/
  hasHead : Bool
  hasBody : Bool
  /-- How many opening tags were passed over whose closing tags are still to come. -/
  passed : Nat
deriving DecidableEq, Repr

namespace Nesting

def start : Nesting := ⟨[], [], [], false, false, 0⟩

/-! ## Texts and comments -/

def settle (s : Nesting) (content : List Char) : List Char :=
  if s.elements.any (isIn preservingNames) then content else settleSpace content

def isVerbatim (s : Nesting) : Bool := (s.elements.head?.map (isIn verbatimNames)).getD false

/-- Ends the text before a piece that is none. -/
def endText (s : Nesting) : Nesting :=
  if s.run.isEmpty then s
  else
    let content := s.settle s.run
    let piece := if s.isVerbatim then .verbatim content else .text content
    { s with run := [], pieces := piece :: s.pieces }

def emit (s : Nesting) (p : Piece) : Nesting :=
  let s := s.endText
  { s with pieces := p :: s.pieces }

def push (s : Nesting) (content : List Char) : Nesting := { s with run := s.run ++ content }

/-! ## Elements -/

def enter (s : Nesting) (tag : Tag) : Nesting :=
  let s := s.emit (.opening tag.settled)
  { s with
    elements := tag.name :: s.elements
    hasHead := s.hasHead || isIn ["head"] tag.name
    hasBody := s.hasBody || isIn ["body"] tag.name }

def enterNamed (s : Nesting) (name : String) : Nesting := s.enter ⟨name.toList, []⟩

/-- Ends the innermost element. -/
def leave (s : Nesting) : Nesting :=
  let s := s.endText
  match s.elements, s.pieces with
  | [], _ => s
  | e :: es, .opening tag :: ps =>
    if isIn voidNames e then { s with elements := es, pieces := .void tag :: ps }
    else { s with elements := es, pieces := .closing e :: s.pieces }
  | e :: es, ps => { s with elements := es, pieces := .closing e :: ps }

def leaveMany (s : Nesting) : Nat → Nesting
  | 0 => s
  | n + 1 => s.leave.leaveMany n

/-- Ends the innermost elements that cannot go on where the tag opens. -/
def endBefore (s : Nesting) (tag : List Char) : Nesting :=
  s.leaveMany (s.elements.takeWhile (endsBefore tag)).length

/-- Elements that a page has in its head if they come before its body. -/
def headNames : List String := ["base", "link", "meta", "script", "style", "title"]

/-- Opens `html`, `head` and `body` as far as the tag needs them. -/
def prepare (s : Nesting) (tag : List Char) : Nesting :=
  if isIn ["html"] tag then s
  else
    let s := if s.elements.isEmpty then s.enterNamed "html" else s
    if isIn ["head", "body"] tag then s
    else if isIn headNames tag && s.elements.length ≤ 1 then
      if s.hasHead || s.hasBody then s else s.enterNamed "head"
    else if isIn ["frame", "frameset", "noframes"] tag then s
    else if s.hasBody || s.elements.any (isIn ["head", "body"]) then s
    else s.enterNamed "body"

/-- Whether a tag stands where a page cannot have it. -/
def misplaced (s : Nesting) (tag : List Char) : Bool :=
  isIn ["html"] tag && !s.elements.isEmpty ||
    isIn ["head"] tag && s.elements.length != 1 ||
    isIn ["body"] tag && s.elements.any (isIn ["body"])

def openTag (s : Nesting) (tag : Tag) (closed : Bool) : Nesting :=
  let s := (s.endBefore tag.name).prepare tag.name
  if s.misplaced tag.name then { s with passed := s.passed + 1 }
  else
    let s := s.enter tag
    if closed || isIn emptyNames tag.name then s.leave else s

/-- Ends the innermost element with the name and all in it, unless one in it has a higher rank. -/
def closeTag (s : Nesting) (name : List Char) : Nesting :=
  if s.passed ≠ 0 ∧ isIn ["html", "head", "body"] name then { s with passed := s.passed - 1 }
  else
    let inner := s.elements.takeWhile fun e => e != name
    match s.elements.dropWhile fun e => e != name with
    | [] => s
    | _ => if inner.all fun e => rank e ≤ rank name then s.leaveMany (inner.length + 1) else s

/-! ## The walk -/

/-- Whether text here stands outside the body. -/
def outside (s : Nesting) : Bool := (s.elements.head?.map (isIn ["html", "head"])).getD true

/-- A text outside the body begins a paragraph in it, but for its white space in front. -/
def addText (s : Nesting) (content : List Char) : Nesting :=
  if s.outside then
    let s := s.push (content.takeWhile isSpace)
    match content.dropWhile isSpace with
    | [] => s
    | rest => (((s.endBefore ['p']).prepare ['p']).enterNamed "p").push rest
  else s.push content

def step (s : Nesting) : Token → Nesting
  | .opening tag closed => s.openTag tag closed
  | .closing name => s.closeTag name
  | .text content => s.addText content
  | .comment content => s.emit (.comment (s.settle content))
  | .documentType content => s.emit (.documentType (Text.trimList content))

def finish (s : Nesting) : List Piece := (s.leaveMany s.elements.length).endText.pieces.reverse

end Nesting

def pieces (ts : List Token) : List Piece := (ts.foldl Nesting.step .start).finish

end ZigDecls.Markup
