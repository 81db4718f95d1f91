import ZigDecls.Failure
import ZigDecls.Markup.Nesting
import ZigDecls.Markup.Reader
import ZigDecls.Markup.Writer

/-!
# Regions of a page

The region with an id is the first element that bears it, from its opening to its closing tag. It
is written out as the body of a page of its own.
-/

namespace ZigDecls.Markup

def Piece.bears (id : List Char) : Piece → Bool
  | .opening tag | .void tag => tag.attribute? "id" == some id
  | _ => false

/-- The pieces up to the one that closes the last of so many open elements. -/
def takeElements : Nat → List Piece → List Piece
  | 0, _ => []
  | _, [] => []
  | depth + 1, p :: ps =>
    match p with
    | .opening _ => p :: takeElements (depth + 2) ps
    | .closing _ => p :: takeElements depth ps
    | _ => p :: takeElements (depth + 1) ps

/-- The element that the first of the pieces is or opens. -/
def firstElement : List Piece → List Piece
  | [] => []
  | .opening tag :: ps => .opening tag :: takeElements 1 ps
  | p :: _ => [p]

/-- The pieces of the first element that bears the id. -/
def findRegion? (id : List Char) (ps : List Piece) : Option (List Piece) :=
  match ps.dropWhile fun p => !p.bears id with
  | [] => none
  | ps => some (firstElement ps)

def pageAround (body : List Char) : List Char :=
  "<html><body>".toList ++ body ++ "</body></html>".toList

def narrowToElement (page id : List Char) : Except Failure (List Char) :=
  match findRegion? id (pieces (tokens page)) with
  | none => .error (.noRegion (id.map .char))
  | some region => .ok (pageAround (write region))

/-- No id, and also the empty one, selects the page as it is. -/
def narrow (page : List Char) (region : Option String) : Except Failure (List Char) :=
  match region with
  | none | some "" => .ok page
  | some id => narrowToElement page id.toList

end ZigDecls.Markup
