import ZigDecls.Markup.Tag

/-!
# Writing markup

Three characters are written as references, in texts and in values. A value stands between double
quotes, and between apostrophes where it holds a double quote and no apostrophe.
-/

namespace ZigDecls.Markup

def escape (cs : List Char) : List Char :=
  cs.flatMap fun c =>
    if c = '&' then "&amp;".toList
    else if c = '<' then "&lt;".toList
    else if c = '>' then "&gt;".toList
    else [c]

def writeValue (value : List Char) : List Char :=
  let text := escape value
  if !text.contains '"' then '"' :: text ++ ['"']
  else if !text.contains '\'' then '\'' :: text ++ ['\'']
  else '"' :: (text.flatMap fun c => if c = '"' then "&quot;".toList else [c]) ++ ['"']

def writeAttribute (a : List Char × List Char) : List Char := ' ' :: a.1 ++ '=' :: writeValue a.2

def Tag.write (tag : Tag) : List Char := '<' :: tag.name ++ tag.attributes.flatMap writeAttribute

def Piece.write : Piece → List Char
  | .opening tag => tag.write ++ ['>']
  | .closing name => '<' :: '/' :: name ++ ['>']
  | .void tag => tag.write ++ ['/', '>']
  | .text content => escape content
  | .verbatim content => content
  | .comment content => "<!--".toList ++ content ++ "-->".toList
  | .documentType content => "<!DOCTYPE ".toList ++ content ++ ['>', '\n']

def write (ps : List Piece) : List Char := ps.flatMap Piece.write

end ZigDecls.Markup
