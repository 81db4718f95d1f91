/-!
# Kinds of elements

What the name of an element says about it: whether it holds anything, how its content is read,
which elements end where it begins, and which closing tags it withstands.
-/

namespace ZigDecls.Markup

def isSpace (c : Char) : Bool := c = ' ' || c = '\n' || c = '\t' || c = '\x0c' || c = '\r'

def isIn (names : List String) (name : List Char) : Bool := names.any fun n => n.toList == name

theorem forall_of_isIn {names : List String} {name : List Char} {P : List Char → Prop}
    (hall : ∀ n ∈ names, P n.toList) (h : isIn names name = true) : P name := by
  obtain ⟨n, hn, he⟩ := List.any_eq_true.mp h
  exact eq_of_beq he ▸ hall n hn

/-! ## Content -/

/-- Elements that end with their opening tag. -/
def emptyNames : List String :=
  ["area", "base", "basefont", "bgsound", "br", "col", "embed", "frame", "hr", "img", "input", "isindex",
   "keygen", "link", "meta", "param", "source", "track", "wbr"]

/-- Elements that are written as one tag where they hold nothing. -/
def voidNames : List String :=
  ["area", "base", "basefont", "bgsound", "br", "col", "command", "embed", "frame", "hr", "image", "img",
   "input", "isindex", "keygen", "link", "menuitem", "meta", "nextid", "param", "source", "spacer", "track",
   "wbr"]

/-- Elements whose text is written without references. -/
def verbatimNames : List String := ["script", "style"]

/-- Elements in which blank texts are kept as they are. -/
def preservingNames : List String := ["pre", "textarea"]

/-- How far a script is inside a comment, and inside a script in the comment. -/
inductive Script
  | plain
  | commented
  | nested
deriving DecidableEq, Repr

/-- The kinds of content that are text whatever stands in it, up to the closing tag. -/
inductive RawContent
  /-- Text with references. -/
  | referring
  | verbatim
  | script (state : Script)
  /-- All that is left of the page. -/
  | endless
deriving DecidableEq, Repr

def rawContent? (name : List Char) : Option RawContent :=
  if isIn ["textarea", "title"] name then some .referring
  else if isIn ["iframe", "noembed", "noframes", "style", "xmp"] name then some .verbatim
  else if isIn ["script"] name then some (.script .plain)
  else if isIn ["plaintext"] name then some .endless
  else none

/-! ## Ends that are not written -/

/-- Elements with the tags that end them where they open. -/
def endings : List (String × List String) :=
  [("a", ["a", "fieldset", "table", "td", "th"]),
   ("address", ["dd", "dl", "dt", "form", "li", "ul"]),
   ("b", ["center", "p", "td", "th"]),
   ("big", ["p"]),
   ("caption", ["col", "colgroup", "tbody", "tfoot", "thead", "tr"]),
   ("colgroup", ["colgroup", "tbody", "tfoot", "thead", "tr"]),
   ("dd", ["dt"]),
   ("dir", ["dd", "dl", "dt", "form", "ul"]),
   ("dl", ["form", "li"]),
   ("dt", ["dd", "dl"]),
   ("font", ["center", "td", "th"]),
   ("form", ["form"]),
   ("h1", ["fieldset", "form", "li", "p", "table"]),
   ("h2", ["fieldset", "form", "li", "p", "table"]),
   ("h3", ["fieldset", "form", "li", "p", "table"]),
   ("h4", ["fieldset", "form", "li", "p", "table"]),
   ("h5", ["fieldset", "form", "li", "p", "table"]),
   ("h6", ["fieldset", "form", "li", "p", "table"]),
   ("head",
    ["a", "abbr", "acronym", "address", "b", "bdo", "big", "blockquote", "body", "br", "center", "cite",
     "code", "dd", "dfn", "dir", "div", "dl", "dt", "em", "fieldset", "font", "form", "frameset", "h1",
     "h2", "h3", "h4", "h5", "h6", "hr", "i", "iframe", "img", "kbd", "li", "listing", "map", "menu",
     "ol", "p", "pre", "q", "s", "samp", "small", "span", "strike", "strong", "sub", "sup", "table", "tt",
     "u", "ul", "var", "xmp"]),
   ("i", ["center", "p"]),
   ("legend", ["fieldset"]),
   ("li", ["li"]),
   ("listing", ["dd", "dl", "dt", "fieldset", "form", "li", "table", "ul"]),
   ("menu", ["dd", "dl", "dt", "form", "ul"]),
   ("ol", ["form"]),
   ("option", ["optgroup", "option"]),
   ("p",
    ["address", "blockquote", "body", "caption", "center", "col", "colgroup", "dd", "dir", "div", "dl",
     "dt", "fieldset", "form", "frameset", "h1", "h2", "h3", "h4", "h5", "h6", "head", "hr", "li",
     "listing", "menu", "ol", "p", "pre", "table", "tbody", "td", "tfoot", "th", "title", "tr", "ul",
     "xmp"]),
   ("pre", ["dd", "dl", "dt", "fieldset", "form", "li", "table", "ul"]),
   ("s", ["p"]),
   ("script", ["noscript"]),
   ("small", ["p"]),
   ("span", ["td", "th"]),
   ("strike", ["p"]),
   ("style", ["body", "frameset"]),
   ("tbody", ["tbody", "tfoot"]),
   ("td", ["tbody", "td", "tfoot", "th", "tr"]),
   ("tfoot", ["tbody"]),
   ("th", ["tbody", "td", "tfoot", "th", "tr"]),
   ("thead", ["tbody", "tfoot"]),
   ("title", ["body", "frameset"]),
   ("tr", ["tbody", "tfoot", "tr"]),
   ("tt", ["p"]),
   ("u", ["p", "td", "th"]),
   ("ul", ["address", "form", "menu", "pre"])]

/-- Whether the element ends where the tag opens. -/
def endsBefore (tag element : List Char) : Bool :=
  endings.any fun e => e.1.toList == element && isIn e.2 tag

/-- A closing tag ends no element of a higher rank than its own. -/
def rank (name : List Char) : Nat :=
  if isIn ["html"] name then 220
  else if isIn ["head", "body"] name then 200
  else if isIn ["table"] name then 190
  else if isIn ["thead", "tbody", "tfoot"] name then 180
  else if isIn ["tr"] name then 170
  else if isIn ["td", "th"] name then 160
  else if isIn ["div"] name then 150
  else 100

end ZigDecls.Markup
