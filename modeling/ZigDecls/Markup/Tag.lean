import ZigDecls.Markup.Element
import ZigDecls.Text.Classes

/-!
# Tags, tokens and pieces

A tag has a name and attributes. In settled form two ways of writing the same tag are one: the
attributes are sorted by name, the first of two with one name counts, and lists of words have single
spaces. A tag that names the encoding of its page names the one that pages are written in.

A page is read as a flat run of tokens, each of which stands in the page as it is, and settled as a
flat run of pieces, in which every element that is opened is closed again.
-/

namespace ZigDecls.Markup
open Text

structure Tag where
  name : List Char
  attributes : List (List Char × List Char)
deriving DecidableEq, Repr

def Tag.attribute? (tag : Tag) (name : String) : Option (List Char) :=
  (tag.attributes.find? fun a => a.1 == name.toList).map (·.2)

/-! ## Lists of words -/

/-- Elements and their attributes that hold a list of words. -/
def wordAttributes : List (String × List String) :=
  [("a", ["rel", "rev"]), ("area", ["rel"]), ("form", ["accept-charset"]), ("icon", ["sizes"]),
   ("iframe", ["sandbox"]), ("link", ["rel", "rev"]), ("object", ["archive"]), ("output", ["for"]),
   ("td", ["headers"]), ("th", ["headers"])]

def commonWordAttributes : List String := ["accesskey", "class", "dropzone"]

def holdsWords (element key : List Char) : Bool :=
  isIn commonWordAttributes key ||
    wordAttributes.any fun e => e.1.toList == element && isIn e.2 key

/-- The words of a text with one space between two of them. -/
def singleSpaced (cs : List Char) : List Char :=
  [' '].intercalate ((cs.splitOnP isBlank).filter fun w => !w.isEmpty)

/-! ## The encoding of the page -/

/-- The encoding that pages are written in. -/
def encoding : List Char := "utf-8".toList

/-- A parameter of a content type; what follows `charset=` at its beginning, or behind a blank, is
the encoding. -/
def settleParameter (fresh : Bool) : List Char → List Char
  | [] => []
  | c :: cs =>
    if fresh && "charset=".toList.isPrefixOf (c :: cs) then "charset=".toList ++ encoding
    else c :: settleParameter (isBlank c) cs

def settleContentType (cs : List Char) : List Char :=
  [';'].intercalate ((cs.splitOn ';').map (settleParameter true))

/-- Whether an attribute of the tag names the encoding, and how its value is settled. -/
def Tag.encodingRule? (tag : Tag) : Option (String × (List Char → List Char)) :=
  if !isIn ["meta"] tag.name then none
  else if (tag.attribute? "charset").isSome then some ("charset", fun _ => encoding)
  else if ((tag.attribute? "http-equiv").getD []).map Char.toLower == "content-type".toList then
    some ("content", settleContentType)
  else none

/-! ## The settled form -/

/-- The attributes whose names have not come before, in order. -/
def firstOfEach (seen : List (List Char)) : List (List Char × List Char) → List (List Char × List Char)
  | [] => []
  | a :: as => if seen.contains a.1 then firstOfEach seen as else a :: firstOfEach (a.1 :: seen) as

/-- Names in the order of their code points; a beginning comes before the whole. -/
def nameLe : List Char → List Char → Bool
  | [], _ => true
  | _ :: _, [] => false
  | c :: cs, d :: ds => decide (c.toNat < d.toNat) || c == d && nameLe cs ds

def byName (attributes : List (List Char × List Char)) : List (List Char × List Char) :=
  attributes.mergeSort fun a b => nameLe a.1 b.1

/-- The value that an attribute of the tag is settled to. -/
def Tag.settleValue (tag : Tag) (key value : List Char) : List Char :=
  let value := if holdsWords tag.name key then singleSpaced value else value
  match tag.encodingRule? with
  | some (name, settle) => if name.toList == key then settle value else value
  | none => value

def Tag.settled (tag : Tag) : Tag :=
  let tag := { tag with attributes := firstOfEach [] tag.attributes }
  { tag with attributes := byName (tag.attributes.map fun a => (a.1, tag.settleValue a.1 a.2)) }

/-! ## Tokens -/

/-- References in texts are resolved. -/
inductive Token
  /-- An opening tag; one that ends with `/>` closes its element too. -/
  | opening (tag : Tag) (closed : Bool)
  | closing (name : List Char)
  | text (content : List Char)
  | comment (content : List Char)
  | documentType (content : List Char)
deriving DecidableEq, Repr

/-! ## Pieces -/

/-- Tags are in settled form. -/
inductive Piece
  | opening (tag : Tag)
  | closing (name : List Char)
  /-- An element that is written as one tag. -/
  | void (tag : Tag)
  | text (content : List Char)
  /-- The inside of a script or a style sheet, where nothing is escaped. -/
  | verbatim (content : List Char)
  | comment (content : List Char)
  | documentType (content : List Char)
deriving DecidableEq, Repr

/-- A text of nothing but white space is one line feed if it has any, and else one space. -/
def settleSpace (cs : List Char) : List Char :=
  if cs.all isSpace then if cs.contains '\n' then ['\n'] else [' '] else cs

end ZigDecls.Markup
