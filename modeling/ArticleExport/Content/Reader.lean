import ArticleExport.Content.Markup
import ArticleExport.Failure
import ArticleExport.Markup.Tree

/-!
# Reading markup into a content tree

Both fragments and whole documents are read; of a document the children of the body count.  A fragment
is read as the body of a document, and white space before its first element is dropped.
-/

namespace ArticleExport

open Markup

namespace Node

mutual

/-- The node of a piece of markup; a comment has none. -/
def ofPiece? : Piece → Option Node
  | .text t => some (ofText t)
  | .element tag attributes children => some (element tag attributes (ofPieces children))
  | .comment => none

/-- The nodes of pieces of markup. -/
def ofPieces : List Piece → List Node
  | [] => []
  | p :: ps =>
    match ofPiece? p with
    | some n => n :: ofPieces ps
    | none => ofPieces ps

end

/-- Whether a tag of a whole document begins after an opening bracket. -/
def opensDocument (t : Text) : Bool :=
  let t := t.dropWhile CodePoint.isBlank
  let name := Text.lowerAscii (t.take 4)
  (name == Text.ofString "html" || name == Text.ofString "body") &&
    match t.drop 4 with
    | c :: _ => c.isBlank || c == .scalar '>'
    | [] => false

/-- Whether markup is a whole document: it holds a start tag of its document element or body. -/
def isDocument : Text → Bool
  | [] => false
  | c :: t => (c == .scalar '<' && opensDocument t) || isDocument t

/-- Whether markup begins as a whole document does. -/
def beginsDocument (markup : Text) : Bool :=
  match markup.dropWhile CodePoint.isBlank with
  | .scalar '<' :: t =>
    Text.lowerAscii (t.take 4) == Text.ofString "html" ||
      Text.lowerAscii (t.take 8) == Text.ofString "!doctype"
  | _ => false

/-- What follows white space that is there. -/
def afterBlank? : Text → Option Text
  | c :: t => if c.isBlank then some (t.dropWhile CodePoint.isBlank) else none
  | [] => none

/-- Whether the name of an encoding is set here. -/
def setsEncoding (t : Text) : Bool :=
  match Text.dropPrefix? "encoding" t with
  | some t =>
    match t.dropWhile CodePoint.isBlank with
    | .scalar '=' :: t =>
      let isQuote := fun c => c == CodePoint.scalar '\"' || c == CodePoint.scalar '\''
      match t.dropWhile CodePoint.isBlank with
      | c :: t => isQuote c && t.any isQuote
      | [] => false
    | _ => false
  | none => false

/-- Whether an encoding is set after white space, before the first closing bracket. -/
def setsEncodingLater : Text → Bool
  | [] => false
  | .scalar '>' :: _ => false
  | _ :: t => ((afterBlank? t).map setsEncoding).getD false || setsEncodingLater t

/-- Whether markup begins with a declaration of its encoding.  It can only be wrong: what is read is
text already. -/
def declaresEncoding (markup : Text) : Bool :=
  ((Text.dropPrefix? "<?xml" markup).map setsEncodingLater).getD false

/-- The markup of a document whose body is a fragment. -/
def wrapped (markup : Text) : Text :=
  ("<html><body>" : Text) ++ markup ++ ("</body></html>" : Text)

/-- The bodies of a document. -/
def bodies : Piece → List (List Piece)
  | .element _ _ children => children.filterMap fun
    | .element tag _ inner => if tag = "body" then some inner else none
    | _ => none
  | _ => []

/-- The pieces without blank text before the first element. -/
def dropLeadingBlank : List Piece → List Piece
  | .text t :: ps => if t.isVisible then .text t :: ps else ps
  | ps => ps

/-- The content tree of markup. -/
def parse (markup : Text) : Except Fault Node :=
  if !markup.isVisible then .ok (root [])
  else if isDocument markup then
    if declaresEncoding markup then .error .declaredEncoding
    else match documentOf markup with
    | none => .error .emptyDocument
    | some document => .ok (root (ofPieces ((bodies document).head?.getD [])))
  else
    let whole := if beginsDocument markup then markup else wrapped markup
    match documentOf whole with
    | none => .error .emptyDocument
    | some document =>
      match bodies document with
      | [body] => .ok (root (ofPieces (dropLeadingBlank body)))
      | _ => .error (.noSingleBody whole)

end Node

end ArticleExport
