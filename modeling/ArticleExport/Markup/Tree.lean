import ArticleExport.Markup.Token

/-!
# From tokens to a tree

The reader keeps the open elements on a stack.  A start tag first closes the open elements that it
ends, and opens the document and its head or body where they were left out.  An end tag closes what
stands above its element, unless something of a higher rank does; without an open element it counts
for nothing.
-/

namespace ArticleExport.Markup

/-- A part of the tree. -/
inductive Piece where
  /-- Text. -/
  | text (t : Text)
  /-- An element. -/
  | element (tag : Text) (attributes : List (Text × Text)) (children : List Piece)
  /-- A comment; it only keeps the texts around it apart. -/
  | comment

/-- An element that is open. -/
structure Frame where
  /-- Its tag. -/
  tag : Text
  /-- Its attributes. -/
  attributes : List (Text × Text)
  /-- What is in it so far, the last first. -/
  pieces : List Piece

/-- The state of the reader. -/
structure Builder where
  /-- The open elements, the innermost first. -/
  frames : List Frame
  /-- The document element, once it is closed. -/
  document : Option Piece
  /-- Whether a head was opened. -/
  sawHead : Bool
  /-- Whether a body was opened. -/
  sawBody : Bool
  /-- How many end tags belong to start tags that were left out. -/
  misplaced : Nat

namespace Builder

/-- The state before the first token. -/
def initial : Builder := ⟨[], none, false, false, 0⟩

/-- The tag of the innermost open element. -/
def current (b : Builder) : Option Text := b.frames.head?.map Frame.tag

/-- Puts a piece behind others, text to text. -/
def join (p : Piece) : List Piece → List Piece
  | .text s :: ps => match p with
    | .text t => .text (s ++ t) :: ps
    | p => p :: .text s :: ps
  | ps => p :: ps

/-- Adds a piece to the innermost open element.  Outside of all elements only the first element
counts. -/
def add (p : Piece) (b : Builder) : Builder :=
  match b.frames with
  | f :: fs => { b with frames := { f with pieces := join p f.pieces } :: fs }
  | [] =>
    match p, b.document with
    | .element .., none => { b with document := some p }
    | _, _ => b

/-- Opens an element. -/
def open_ (tag : Text) (attributes : List (Text × Text)) (b : Builder) : Builder :=
  { b with
    frames := ⟨tag, attributes, []⟩ :: b.frames
    sawHead := b.sawHead || tag == "head" || tag == "body"
    sawBody := b.sawBody || tag == "body" }

/-- Closes the innermost open element. -/
def close (b : Builder) : Builder :=
  match b.frames with
  | f :: fs => add (.element f.tag f.attributes f.pieces.reverse) { b with frames := fs }
  | [] => b

/-- Closes innermost elements while they satisfy a condition. -/
def closeWhile (p : Text → Bool) : Nat → Builder → Builder
  | 0, b => b
  | fuel + 1, b =>
    match b.frames with
    | f :: _ => if p f.tag then closeWhile p fuel b.close else b
    | [] => b

/-- Closes the elements that a start tag ends. -/
def autoClose (tag : Text) (b : Builder) : Builder :=
  closeWhile (closes tag) b.frames.length b

/-- Opens the document, and its head or body, where a start tag needs them. -/
def openImplied (tag : Text) (b : Builder) : Builder :=
  if tag = "html" then b
  else
    let b := if b.frames.isEmpty then b.open_ "html" [] else b
    if tag = "body" ∨ tag = "head" then b
    else if b.frames.length ≤ 1 ∧ headTags.contains tag then
      if b.sawHead then b else b.open_ "head" []
    else if frameTags.contains tag then b
    else if b.sawBody ∨ b.frames.any (fun f => f.tag == "body" || f.tag == "head") then b
    else b.open_ "body" []

/-- Whether a start tag stands where its element is already there. -/
def isMisplaced (tag : Text) (b : Builder) : Bool :=
  (tag == "html" && !b.frames.isEmpty) || (tag == "head" && b.frames.length != 1) ||
    (tag == "body" && b.frames.any fun f => f.tag == "body")

/-- Reads a start tag.  A misplaced one opens nothing, but its closing slash still closes: what it
closes is the innermost open element. -/
def start (tag : Text) (attributes : List (Text × Text)) (closed : Bool) (b : Builder) : Builder :=
  let b := (b.autoClose tag).openImplied tag
  if b.isMisplaced tag then
    let b := { b with misplaced := b.misplaced + 1 }
    if closed then b.close else b
  else
    let b := b.open_ tag attributes
    if closed || contentless.contains tag then b.close else b

/-- Whether an end tag reaches its element. -/
def reaches (tag : Text) : List Frame → Bool
  | [] => false
  | f :: fs =>
    if f.tag = tag then true
    else if endRank tag < endRank f.tag then false
    else reaches tag fs

/-- Reads an end tag. -/
def finish (tag : Text) (b : Builder) : Builder :=
  if b.misplaced != 0 && (["html", "body", "head"] : List Text).contains tag then
    { b with misplaced := b.misplaced - 1 }
  else if reaches tag b.frames then
    (closeWhile (· != tag) b.frames.length b).close
  else b

/-- Reads text.  Outside of a body white space stays where it is, and other text opens the body. -/
def text (t : Text) (b : Builder) : Builder :=
  match b.current with
  | some tag =>
    if tag = "html" ∨ tag = "head" then outside t b else b.add (.text t)
  | none => outside t b
where
  /-- Reads text outside of a body. -/
  outside (t : Text) (b : Builder) : Builder :=
    let gap := t.takeWhile isGap
    let rest := t.dropWhile isGap
    let b := if gap.isEmpty then b else b.add (.text gap)
    if rest.isEmpty then b
    else
      let b := if b.current = some "head" then b.autoClose "p" else b
      (b.openImplied "p").add (.text rest)

/-- Reads a token. -/
def step (b : Builder) : Token → Builder
  | .text t => b.text t
  | .start tag attributes closed => b.start tag attributes closed
  | .finish tag => b.finish tag
  | .comment => b.add .comment

end Builder

/-- The document element of markup, all elements closed at the end. -/
def documentOf (markup : Text) : Option Piece :=
  let b := (tokens markup).foldl Builder.step .initial
  (Builder.closeWhile (fun _ => true) b.frames.length b).document

end ArticleExport.Markup
