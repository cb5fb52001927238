import ArticleExport.Failure
import ArticleExport.Json.Printer
import ArticleExport.Json.Reader

/-!
# Workspaces

A directory that holds the files of one push, and goes away with it.  Its name contains the identifier of
the content item, so an identifier has to be fit for the name of a directory.
-/

namespace ArticleExport

/-- The directory of a push. -/
structure Workspace where
  /-- Whether the directory is there. -/
  isPresent : Bool
  /-- The text of the article file, where there is one. -/
  article : Option Text
deriving DecidableEq, Repr

namespace Workspace

/-- The name of the article file. -/
def articleFile : Text := "article.json"

/-- The number of bytes that the name of a directory may have. -/
def maxNameLength : Nat := 255

/-- The number of bytes that stand before the identifier in the name of a directory. -/
def bytesBefore : Nat := 8

/-- The number of bytes that stand behind the identifier in the name of a directory. -/
def bytesBehind : Nat := 9

/-- The number of bytes that a path may have. -/
def maxPathLength : Nat := 4095

/-- The number of bytes of a path that lead to the directory in which those of pushes are made. -/
def bytesAbove : Nat := 30

/-- The number of bytes of a text in a name.  The upper surrogates stand for the bytes that no character
has, and have one byte each; the others have none. -/
def nameLength? : Text → Option Nat
  | [] => some 0
  | .scalar c :: t => (nameLength? t).map (c.utf8Size + ·)
  | .surrogate n :: t => if 0x480 ≤ n.val ∧ n.val < 0x500 then (nameLength? t).map (1 + ·) else none

/-- What makes an identifier unfit for the name of a directory.  An identifier with a slash names a directory
in another one, which is not there. -/
def nameFault? (id : Text) : Option Fault :=
  match nameLength? id with
  | none => some .unencodable
  | some length =>
    if id.contains (.scalar '\x00') then some .zeroCharacter
    else if id.contains (.scalar '/') then
      let outer := (nameLength? (id.takeWhile (· != .scalar '/'))).getD 0
      let whole := bytesAbove + bytesBefore + length + bytesBehind
      some (if maxNameLength < bytesBefore + outer || maxPathLength < whole then .longName
        else .noSuchFile)
    else if maxNameLength < bytesBefore + length + bytesBehind then some .longName
    else none

/-- What makes a path unfit for the directory in which those of pushes are made. -/
def pathFault? (path : Text) : Option Fault :=
  match nameLength? path with
  | none => some .unencodable
  | some length =>
    let isLong (name : Text) : Bool := maxNameLength < (nameLength? name).getD 0
    if path.contains (.scalar '\x00') then some .zeroCharacter
    else if maxPathLength < bytesAbove + length then some .longName
    else if (Text.splitOn (.scalar '/') path).any isLong then some .longName
    else none

/-- The directory for a content item, in another one. -/
def create (path id : Text) : Except Fault Workspace :=
  match (pathFault? path).or (nameFault? id) with
  | some f => .error f
  | none => .ok ⟨true, none⟩

/-- The pieces in which a value is written, item after item. -/
def pieces (v : Json) : List Text :=
  go 0 [] v
where
  /-- The pieces of a value behind the start of a line. -/
  go (depth : Nat) (start : Text) : Json → List Text
    | .arr [] => if start.isEmpty then ["[]"] else [start, "[]"]
    | .arr items =>
      (if start.isEmpty then [] else [start]) ++
        goItems (depth + 1) (("[" : Text) ++ Json.Layout.indented.lineStart (depth + 1)) items ++
        [Json.Layout.indented.lineStart depth, "]"]
    | .obj [] => if start.isEmpty then ["\x7b\x7d"] else [start, "\x7b\x7d"]
    | .obj entries =>
      (if start.isEmpty then [] else [start]) ++
        [Text.ofString "\x7b", Json.Layout.indented.lineStart (depth + 1)] ++
        goEntries (depth + 1) [] entries ++ [Json.Layout.indented.lineStart depth, "\x7d"]
    | v => [start ++ Json.print .indented v]
  /-- The pieces of items; each stands behind the start of its line. -/
  goItems (depth : Nat) (start : Text) : List Json → List Text
    | [] => []
    | v :: vs =>
      go depth start v ++ goItems depth (("," : Text) ++ Json.Layout.indented.lineStart depth) vs
  /-- The pieces of entries. -/
  goEntries (depth : Nat) (start : Text) : List (Text × Json) → List Text
    | [] => []
    | (k, v) :: es =>
      (if start.isEmpty then [] else [start]) ++ [Json.printString false k, ": "] ++ go depth [] v ++
        goEntries depth (("," : Text) ++ Json.Layout.indented.lineStart depth) es

/-- Writes the article file.  The pieces before one that cannot be written stay in it. -/
def write (w : Workspace) (v : Json) : Workspace × Except Fault Unit :=
  if !w.isPresent then (w, .error .noSuchFile)
  else
    let t := Json.print .indented v
    if t.IsScalar then (⟨true, some t⟩, .ok ⟨⟩)
    else
      let written := (pieces v).takeWhile fun piece => decide piece.IsScalar
      (⟨true, some written.flatten⟩, .error .unencodable)

/-- The text of the article file. -/
def text (w : Workspace) : Except Fault Text :=
  match w.article with
  | some t => .ok t
  | none => .error .noSuchFile

/-- The value of the article file. -/
def read (w : Workspace) : Except Fault Json := do
  Json.read (← w.text)

/-- The workspace without its directory. -/
def cleanUp (_ : Workspace) : Workspace := ⟨false, none⟩

end Workspace

end ArticleExport
