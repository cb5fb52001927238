import ArticleExport.Markup.Elements
import ArticleExport.Markup.Reference
import ArticleExport.Table
import ArticleExport.Text.Utf8

/-!
# Markup tokens

Markup falls into start tags, end tags, comments and the text between them.  The content of scripts,
styles and text areas is one text up to their end tag.
-/

namespace ArticleExport.Markup

/-- A part of markup. -/
inductive Token where
  /-- Text, its references replaced. -/
  | text (t : Text)
  /-- A start tag; `closed` where it ends with a slash. -/
  | start (tag : Text) (attributes : List (Text × Text)) (closed : Bool)
  /-- An end tag. -/
  | finish (tag : Text)
  /-- A comment, or what is treated as one. -/
  | comment
deriving DecidableEq

/-- The white space of markup. -/
def isGap : CodePoint → Bool
  | .scalar ' ' | .scalar '\t' | .scalar '\n' | .scalar '\x0c' | .scalar '\r' => true
  | _ => false

/-- Whether a code point is an ASCII letter. -/
def isLetter : CodePoint → Bool
  | .scalar c => c.isAlpha
  | .surrogate _ => false

/-- Whether a code point ends the name of a tag. -/
def endsName (c : CodePoint) : Bool := isGap c || c == .scalar '/' || c == .scalar '>'

/-- Line breaks of every kind as line feeds. -/
def normalizeBreaks : Text → Text
  | [] => []
  | .scalar '\r' :: .scalar '\n' :: t => .scalar '\n' :: normalizeBreaks t
  | .scalar '\r' :: t => .scalar '\n' :: normalizeBreaks t
  | c :: t => c :: normalizeBreaks t

/-- The code points of markup that are read: what stands before the first surrogate, without a byte
order mark at the front, and with a replacement character for each zero character. -/
def readable (markup : Text) : Text :=
  let t := markup.takeWhile CodePoint.isScalar
  let t := if t.head? = some (.scalar '\uFEFF') then t.tail else t
  t.map fun c => if c = .scalar '\x00' then CodePoint.replacement else c

/-- How many bytes of the name of a tag or an attribute count. -/
def nameRoom : Nat := 100

/-- What counts of a name: each code point whose bytes still find room. -/
def clipName (room : Nat) : Text → Text
  | [] => []
  | c :: t =>
    let size := (Utf8.encodeValue c.value).length
    if size ≤ room then c :: clipName (room - size) t else clipName room t

/-- The name that is written in markup: in lower case, and no longer than names are read. -/
def nameOf (written : Text) : Text := clipName nameRoom (Text.lowerAscii written)

/-- What follows the first occurrence of a text; nothing where it does not occur. -/
def after (mark : Text) : Text → Text
  | [] => []
  | c :: t => match Text.dropPrefix? mark (c :: t) with
    | some rest => rest
    | none => after mark t

/-- What follows a comment that has begun; it ends with two hyphens, a bang perhaps, and a bracket. -/
def afterComment (t : Text) : Text :=
  match t with
  | .scalar '>' :: rest => rest
  | .scalar '-' :: .scalar '>' :: rest => rest
  | t => go t
where
  /-- Looks for the end. -/
  go : Text → Text
    | .scalar '-' :: .scalar '-' :: .scalar '>' :: rest => rest
    | .scalar '-' :: .scalar '-' :: .scalar '!' :: .scalar '>' :: rest => rest
    | _ :: t => go t
    | [] => []

/-- Reads the value of an attribute after the equals sign; none at the end of the markup. -/
def readValue (t : Text) : Option (Text × Text) :=
  match t.dropWhile isGap with
  | [] => none
  | .scalar '\"' :: t =>
    match Text.cutAt '\"' t with
    | (value, some rest) => some (decodeReferences true value, rest)
    | (_, none) => none
  | .scalar '\'' :: t =>
    match Text.cutAt '\'' t with
    | (value, some rest) => some (decodeReferences true value, rest)
    | (_, none) => none
  | t =>
    let inValue := fun c => !(isGap c || c == .scalar '>')
    some (decodeReferences true (t.takeWhile inValue), t.dropWhile inValue)

/-- The value of an attribute that is given without one. -/
def impliedValue (name : Text) : Text := if selfNamedAttributes.contains name then name else []

/-- Reads the attributes of a tag and its end; none at the end of the markup.  The first value of an
attribute counts. -/
def readAttributes (found : List (Text × Text)) : Nat → Text → Option (List (Text × Text) × Bool × Text)
  | 0, _ => none
  | fuel + 1, t =>
    match t.dropWhile isGap with
    | [] => none
    | .scalar '>' :: rest => some (found, false, rest)
    | .scalar '/' :: .scalar '>' :: rest => some (found, true, rest)
    | .scalar '/' :: rest => readAttributes found fuel rest
    | c :: t =>
      let inName := fun c => !(endsName c || c == .scalar '=')
      let name := nameOf (c :: t.takeWhile inName)
      let t := t.dropWhile inName
      match t.dropWhile isGap with
      | .scalar '=' :: rest =>
        match readValue rest with
        | some (value, rest) => readAttributes (Table.setIfAbsent name value found) fuel rest
        | none => none
      | _ => readAttributes (Table.setIfAbsent name (impliedValue name) found) fuel t

/-- Reads a tag from its name on. -/
def readTag (t : Text) : Option (Text × List (Text × Text) × Bool × Text) :=
  let inName := fun c => !endsName c
  let tag := nameOf (t.takeWhile inName)
  (readAttributes [] (t.length + 1) (t.dropWhile inName)).map fun (attributes, closed, rest) =>
    (tag, attributes, closed, rest)

/-- Whether the name of a tag stands here, in any case, and ends here. -/
def standsHere (tag t : Text) : Bool :=
  Text.lowerAscii (t.take tag.length) == tag &&
    match t.drop tag.length with
    | c :: _ => endsName c
    | [] => false

/-- Splits text at the end tag of an element. -/
def cutAtEnd (tag : Text) : Text → Text × Text
  | .scalar '<' :: .scalar '/' :: t =>
    if standsHere tag t then ([], .scalar '<' :: .scalar '/' :: t)
    else let (before, rest) := cutAtEnd tag (.scalar '/' :: t); (.scalar '<' :: before, rest)
  | c :: t => let (before, rest) := cutAtEnd tag t; (c :: before, rest)
  | [] => ([], [])

/-- Where a script stands: outside comments, in one, or in a script inside one. -/
inductive ScriptDepth where
  | code
  | hidden
  | hiddenScript
deriving DecidableEq

/-- Splits a script at its end tag. -/
def cutScript (depth : ScriptDepth) : Text → Text × Text
  | [] => ([], [])
  | c :: t =>
    if c = .scalar '<' then
      match t with
      | .scalar '/' :: t' =>
        if standsHere "script" t' then
          if depth = .hiddenScript then
            let (before, rest) := cutScript .hidden t; (c :: before, rest)
          else ([], c :: t)
        else let (before, rest) := cutScript depth t; (c :: before, rest)
      | .scalar '!' :: .scalar '-' :: .scalar '-' :: _ =>
        let (before, rest) := cutScript (if depth = .code then .hidden else depth) t
        (c :: before, rest)
      | _ =>
        let depth := if depth = .hidden && standsHere "script" t then .hiddenScript else depth
        let (before, rest) := cutScript depth t; (c :: before, rest)
    else if c = .scalar '-' then
      let depth := match t with
        | .scalar '-' :: .scalar '>' :: _ => .code
        | _ => depth
      let (before, rest) := cutScript depth t; (c :: before, rest)
    else let (before, rest) := cutScript depth t; (c :: before, rest)

/-- The text of content that is not markup, and what follows it. -/
def readContent (tag : Text) (t : Text) : Text × Text :=
  match contentMode tag with
  | .markup => ([], t)
  | .referenced => let (before, rest) := cutAtEnd tag t; (decodeReferences false before, rest)
  | .raw => cutAtEnd tag t
  | .script => cutScript .code t
  | .plain => (t, [])

/-- A text token, or nothing for the empty text. -/
def textToken (t : Text) : List Token := if t.isEmpty then [] else [.text t]

/-- The tokens of markup.  The first argument bounds their number. -/
def scan : Nat → Text → List Token
  | 0, _ => []
  | _, [] => []
  | fuel + 1, .scalar '<' :: t =>
    match t with
    | .scalar '!' :: .scalar '-' :: .scalar '-' :: rest => .comment :: scan fuel (afterComment rest)
    | .scalar '!' :: rest =>
      if Text.lowerAscii (rest.take 7) = Text.ofString "doctype" then scan fuel (after ">" rest)
      else .comment :: scan fuel (after ">" rest)
    | .scalar '?' :: rest => .comment :: scan fuel (after ">" rest)
    | .scalar '/' :: .scalar '>' :: rest => scan fuel rest
    | .scalar '/' :: c :: rest =>
      if isLetter c then
        match readTag (c :: rest) with
        | some (tag, _, _, rest) => .finish tag :: scan fuel rest
        | none => []
      else .comment :: scan fuel (after ">" (c :: rest))
    | c :: rest =>
      if isLetter c then
        match readTag (c :: rest) with
        | some (tag, attributes, closed, rest) =>
          let (content, rest) := if closed then ([], rest) else readContent tag rest
          .start tag attributes closed :: (textToken content ++ scan fuel rest)
        | none => []
      else .text "<" :: scan fuel t
    | [] => [.text "<"]
  | fuel + 1, c :: t =>
    let inText := fun c => c != .scalar '<'
    .text (decodeReferences false ((c :: t).takeWhile inText)) :: scan fuel (t.dropWhile inText)

/-- The tokens of markup. -/
def tokens (markup : Text) : List Token :=
  let t := normalizeBreaks (readable markup)
  scan (t.length + 1) t

end ArticleExport.Markup
