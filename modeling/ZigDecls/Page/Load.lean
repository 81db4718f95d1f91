import ZigDecls.Files.Tree
import ZigDecls.Log
import ZigDecls.Markup.Region
import ZigDecls.Page.Item
import ZigDecls.Text.Newline

/-!
# Loading a page

A page is read from its file, narrowed to a region, and handed to the layout analysis as a stream
with a name. The items that come back are the page's elements. All that can fail comes before the
stream is handed over.
-/

namespace ZigDecls
open Text

/-- What the layout analysis is handed. -/
structure Stream where
  name : CodePoints
  html : List Char
deriving DecidableEq, Repr

structure Loaded where
  stream : Stream
  elements : List Element
  log : List Event
deriving DecidableEq, Repr

def defaultRegion : String := "dev_page_content"

/-- The text of the file at the path, with unified line endings. -/
def readPage (tree : Tree) (path : CodePoints) : Except Failure (List Char) := do
  let p := Path.ofPoints path
  match ← tree.find p with
  | none => .error (.pageMissing path)
  | some .directory => .error (.isDirectory p.text)
  | some (.file bytes) =>
    match Utf8.decode bytes with
    | .error fault => .error (.encoding fault)
    | .ok cs => .ok (unifyNewlines cs)

/-- A page has no surrogates, so an id that has one selects nothing. -/
def regionIn (page : List Char) (region : Option CodePoints) : Except Failure (List Char) :=
  match region with
  | none => Markup.narrow page none
  | some id =>
    match id.string? with
    | some name => Markup.narrow page (some name)
    | none => .error (.noRegion id)

def streamOf (tree : Tree) (path : CodePoints) (region : Option CodePoints) : Except Failure Stream := do
  let page ← readPage tree path
  let html ← regionIn page region
  return ⟨(Path.ofPoints path).stem ++ ".html", html⟩

def skippedEvents (items : List Item) : List Event :=
  if skippedIn items = 0 then [] else [.skippedItems (skippedIn items)]

def loadEvents (path : CodePoints) (region : Option CodePoints) (stream : Stream) (items : List Item) : List Event :=
  (match region with
    | none | some [] => []
    | some id => [.selectedRegion id.shown stream.html.length]) ++
  [.converting path.shown] ++ skippedEvents items ++ [.loaded (elementsOf items).length]

/-- `items` are what the layout analysis finds on the stream. -/
def load (tree : Tree) (path : CodePoints) (region : Option CodePoints) (items : List Item) :
    Except Failure Loaded := do
  let stream ← streamOf tree path region
  return ⟨stream, elementsOf items, loadEvents path region stream items⟩

end ZigDecls
