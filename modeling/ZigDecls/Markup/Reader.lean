import ZigDecls.Markup.Reference
import ZigDecls.Markup.Tag
import ZigDecls.Text.Newline

/-!
# Reading markup

The reader walks over the characters with a mode that says which part of a tag, text or comment it
is in, and gives the tokens that have ended. It never fails: what is no markup is text, what stands
behind `<!` and `<?` and is nothing else is a comment, and a tag that does not end gives nothing.
-/

namespace ZigDecls.Markup

/-- A tag that has not ended, its attributes in order. -/
structure Draft where
  closing : Bool
  name : List Char
  attributes : List (List Char × List Char)
deriving DecidableEq, Repr

/-- Where the reader is. Names, values and contents are kept with their last character in front. -/
inductive Mode
  | text
  /-- Behind `<`. -/
  | less
  /-- Behind `</`. -/
  | lessSlash
  /-- Behind `<!` and these characters. -/
  | bang (seen : List Char)
  /-- In a comment that ends at the next `>`. -/
  | remark (body : List Char)
  | comment (body : List Char)
  | documentType (body : List Char)
  | tagName (closing : Bool) (name : List Char)
  | inTag (tag : Draft)
  | attributeName (tag : Draft) (name : List Char)
  | afterName (tag : Draft) (name : List Char)
  | beforeValue (tag : Draft) (name : List Char)
  /-- In a value, up to the mark, or up to white space where there is none. -/
  | value (tag : Draft) (name : List Char) (mark : Option Char) (body : List Char)
  | slash (tag : Draft)
  /-- In the element with the name, whose content is all text. -/
  | raw (content : RawContent) (name : List Char) (body : List Char)
deriving DecidableEq, Repr

structure Reader where
  mode : Mode
  /-- The text that has not ended, its last character in front. -/
  run : List Char
  /-- The tokens that have ended, the last one in front. -/
  tokens : List Token
deriving DecidableEq, Repr

namespace Reader

def start : Reader := ⟨.text, [], []⟩

def push (r : Reader) (c : Char) : Reader := { r with mode := .text, run := c :: r.run }

def emit (r : Reader) (t : Token) : Reader := { r with mode := .text, tokens := t :: r.tokens }

def goto (r : Reader) (mode : Mode) : Reader := { r with mode }

/-- Ends the text before a piece of markup. -/
def endText (r : Reader) : Reader :=
  if r.run.isEmpty then r
  else { r with run := [], tokens := .text (resolve .text r.run.reverse) :: r.tokens }

/-! ## Tags -/

def endsName (c : Char) : Bool := isSpace c || c = '/' || c = '>'

def finishTag (r : Reader) (tag : Draft) (closed : Bool) : Reader :=
  if tag.closing then r.emit (.closing tag.name)
  else
    let r := r.emit (.opening ⟨tag.name, tag.attributes⟩ closed)
    match rawContent? tag.name with
    | some content => if closed then r else r.goto (.raw content tag.name [])
    | none => r

def addAttribute (tag : Draft) (name body : List Char) : Draft :=
  { tag with attributes := tag.attributes ++ [(name.reverse, resolve .value body.reverse)] }

/-- One character inside a tag, where an attribute may begin. -/
def stepInTag (r : Reader) (tag : Draft) (c : Char) : Reader :=
  if isSpace c then r.goto (.inTag tag)
  else if c = '/' then r.goto (.slash tag)
  else if c = '>' then r.finishTag tag false
  else r.goto (.attributeName tag [c.toLower])

/-! ## Comments -/

/-- What a comment holds that ends where `>` stands behind this body. -/
def commentEnd? : List Char → Option (List Char)
  | '-' :: '-' :: body | '!' :: '-' :: '-' :: body => some body.reverse
  | [] | ['-'] => some []
  | _ => none

/-- One character behind `<!` and those seen: two dashes begin a comment, and `doctype` a declaration
of the document type. -/
def stepBang (r : Reader) (seen : List Char) (c : Char) : Reader :=
  let word := (c :: seen).reverse.map Char.toLower
  if c = '>' then r.emit (.comment seen.reverse)
  else if word == "--".toList then r.goto (.comment [])
  else if word == "doctype".toList then r.goto (.documentType [])
  else if word == "-".toList || word.isPrefixOf "doctype".toList then r.goto (.bang (c :: seen))
  else r.goto (.remark (c :: seen))

/-! ## Contents that are all text -/

/-- Whether the last characters of the body are these, in whatever case. -/
def endsWith (body mark : List Char) : Bool :=
  (body.take mark.length).reverse.map Char.toLower == mark

/-- Where the script is behind one more character. `<!--` begins a comment, in which a script may
stand that has a closing tag of its own. -/
def stepScript (state : Script) (body : List Char) (c : Char) : Script :=
  match state with
  | .plain => if endsWith (c :: body) "<!--".toList then .commented else .plain
  | .commented =>
    if endsWith (c :: body) "-->".toList then .plain
    else if endsName c && endsWith body "<script".toList then .nested
    else .commented
  | .nested =>
    if endsWith (c :: body) "-->".toList then .plain
    else if endsName c && endsWith body "</script".toList then .commented
    else .nested

def stepContent (content : RawContent) (body : List Char) (c : Char) : RawContent :=
  match content with
  | .script state => .script (stepScript state body c)
  | content => content

/-- Whether a closing tag is looked for in the content. -/
def mayClose : RawContent → Bool
  | .script .nested | .endless => false
  | _ => true

/-- Ends the content before its closing tag. -/
def endRaw (r : Reader) (content : RawContent) (body : List Char) : Reader :=
  if body.isEmpty then r
  else if content = .referring then r.emit (.text (resolve .text body.reverse))
  else r.emit (.text body.reverse)

def stepRaw (r : Reader) (content : RawContent) (name body : List Char) (c : Char) : Reader :=
  let mark := '<' :: '/' :: name
  if mayClose content && endsName c && endsWith body mark then
    (r.endRaw content (body.drop mark.length)).stepInTag ⟨true, name, []⟩ c
  else r.goto (.raw (stepContent content body c) name (c :: body))

/-! ## The walk -/

def step (r : Reader) (c : Char) : Reader :=
  match r.mode with
  | .text => if c = '<' then r.goto .less else r.push c
  | .less =>
    if c.isAlpha then r.endText.goto (.tagName false [c.toLower])
    else if c = '/' then r.goto .lessSlash
    else if c = '!' then r.endText.goto (.bang [])
    else if c = '?' then r.endText.goto (.remark [c])
    else if c = '<' then (r.push '<').goto .less
    else (r.push '<').push c
  | .lessSlash =>
    if c.isAlpha then r.endText.goto (.tagName true [c.toLower])
    else if c = '>' then r.endText.goto .text
    else r.endText.goto (.remark [c])
  | .bang seen => r.stepBang seen c
  | .remark body => if c = '>' then r.emit (.comment body.reverse) else r.goto (.remark (c :: body))
  | .comment body =>
    match if c = '>' then commentEnd? body else none with
    | some content => r.emit (.comment content)
    | none => r.goto (.comment (c :: body))
  | .documentType body =>
    if c = '>' then r.emit (.documentType body.reverse) else r.goto (.documentType (c :: body))
  | .tagName closing name =>
    if endsName c then r.stepInTag ⟨closing, name.reverse, []⟩ c
    else r.goto (.tagName closing (c.toLower :: name))
  | .inTag tag => r.stepInTag tag c
  | .attributeName tag name =>
    if c = '=' then r.goto (.beforeValue tag name)
    else if isSpace c then r.goto (.afterName tag name)
    else if endsName c then r.stepInTag (addAttribute tag name []) c
    else r.goto (.attributeName tag (c.toLower :: name))
  | .afterName tag name =>
    if c = '=' then r.goto (.beforeValue tag name)
    else if isSpace c then r
    else r.stepInTag (addAttribute tag name []) c
  | .beforeValue tag name =>
    if isSpace c then r
    else if c = '"' || c = '\'' then r.goto (.value tag name (some c) [])
    else if c = '>' then r.finishTag (addAttribute tag name []) false
    else r.goto (.value tag name none [c])
  | .value tag name mark body =>
    match mark with
    | some q =>
      if c = q then r.goto (.inTag (addAttribute tag name body))
      else r.goto (.value tag name mark (c :: body))
    | none =>
      if isSpace c || c = '>' then r.stepInTag (addAttribute tag name body) c
      else r.goto (.value tag name mark (c :: body))
  | .slash tag => if c = '>' then r.finishTag tag true else r.stepInTag tag c
  | .raw content name body => r.stepRaw content name body c

/-- The tokens read, what stands at the end of the markup included. -/
def finish (r : Reader) : List Token :=
  let r := match r.mode with
    | .text => r.endText
    | .less => (r.push '<').endText
    | .lessSlash => ((r.push '<').push '/').endText
    | .bang body | .remark body | .comment body => r.emit (.comment body.reverse)
    | .raw content _ body => r.endRaw content body
    | _ => r
  r.tokens.reverse

end Reader

/-- The characters that are read: line endings are line feeds, and no character is NUL. A byte order
mark in front is none of them. -/
def readable (page : List Char) : List Char :=
  let page := match page with
    | '\ufeff' :: cs => cs
    | cs => cs
  (Text.unifyNewlines page).map fun c => if c = Char.ofNat 0 then '\ufffd' else c

def tokens (page : List Char) : List Token := ((readable page).foldl Reader.step .start).finish

end ZigDecls.Markup
