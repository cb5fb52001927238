import ArticleExport.Json.Basic
import ArticleExport.Number.Decimal

/-!
# Writing JSON

One printer with a record of the decisions in which the written forms differ: the separators, the
indentation, and whether characters beyond ASCII are escaped.  The canonical form, which the
fingerprint is taken of, is the compact form of a value whose names are in order at every depth.
-/

namespace ArticleExport.Json

/-- The decisions of a written form. -/
structure Layout where
  /-- What stands between items. -/
  itemSeparator : Text
  /-- What stands between a name and its value. -/
  nameSeparator : Text
  /-- How far each level is indented, where items stand on lines of their own. -/
  indent : Option Nat
  /-- Whether everything outside printable ASCII is escaped. -/
  ascii : Bool

namespace Layout

/-- One line, with a space after each separator. -/
def plain : Layout := ⟨", ", ": ", none, false⟩

/-- As `plain`, all in ASCII. -/
def plainAscii : Layout := ⟨", ", ": ", none, true⟩

/-- No space at all. -/
def compact : Layout := ⟨",", ":", none, false⟩

/-- Items on lines of their own, each level two columns further in. -/
def indented : Layout := ⟨",", ": ", some 2, false⟩

/-- What stands before an item at a depth. -/
def lineStart (l : Layout) (depth : Nat) : Text :=
  match l.indent with
  | none => []
  | some n => .scalar '\n' :: List.replicate (n * depth) (.scalar ' ')

end Layout

/-- The four hexadecimal digits of a 16-bit unit, in lower case. -/
def hexUnit (n : Nat) : List Char :=
  [n / 0x1000 % 16, n / 0x100 % 16, n / 0x10 % 16, n % 16].map Nat.digitChar

/-- A 16-bit unit as an escape. -/
def unitEscape (n : Nat) : Text := ('\\' :: 'u' :: hexUnit n).map CodePoint.scalar

/-- A code point inside a string. -/
def escapePoint (ascii : Bool) (c : CodePoint) : Text :=
  match c with
  | .scalar '"' => "\\\""
  | .scalar '\\' => "\\\\"
  | .scalar '\n' => "\\n"
  | .scalar '\r' => "\\r"
  | .scalar '\t' => "\\t"
  | .scalar '\x08' => "\\b"
  | .scalar '\x0c' => "\\f"
  | c =>
    let n := c.value
    if n < 0x20 then unitEscape n
    else if ascii && 0x7E < n then
      if n < 0x10000 then unitEscape n
      else unitEscape (0xD800 + (n - 0x10000) / 0x400) ++ unitEscape (0xDC00 + n % 0x400)
    else [c]

/-- A string with its quotes. -/
def printString (ascii : Bool) (t : Text) : Text :=
  .scalar '"' :: (t.flatMap (escapePoint ascii) ++ [.scalar '"'])

mutual

/-- A value that stands at a depth. -/
def printAt (l : Layout) (depth : Nat) : Json → Text
  | null => "null"
  | bool true => "true"
  | bool false => "false"
  | int n => Text.ofInt n
  | float x => DecimalNotation.document.write x
  | str t => printString l.ascii t
  | arr [] => "[]"
  | arr items =>
    .scalar '[' :: (printItems l (depth + 1) items ++ (l.lineStart depth ++ [.scalar ']']))
  | obj [] => "\x7b\x7d"
  | obj entries =>
    .scalar '\x7b' ::
      (printEntries l (depth + 1) entries ++ (l.lineStart depth ++ [.scalar '\x7d']))
  | keyed [] => "\x7b\x7d"
  | keyed entries =>
    .scalar '\x7b' ::
      (printKeyed l (depth + 1) entries ++ (l.lineStart depth ++ [.scalar '\x7d']))

/-- The items of a list. -/
def printItems (l : Layout) (depth : Nat) : List Json → Text
  | [] => []
  | [v] => l.lineStart depth ++ printAt l depth v
  | v :: vs =>
    l.lineStart depth ++ (printAt l depth v ++ (l.itemSeparator ++ printItems l depth vs))

/-- The entries of an object. -/
def printEntries (l : Layout) (depth : Nat) : List (Text × Json) → Text
  | [] => []
  | [(k, v)] =>
    l.lineStart depth ++ (printString l.ascii k ++ (l.nameSeparator ++ printAt l depth v))
  | (k, v) :: es =>
    l.lineStart depth ++ (printString l.ascii k ++ (l.nameSeparator ++ (printAt l depth v ++
      (l.itemSeparator ++ printEntries l depth es))))

/-- The entries of a mapping, under the spellings of their keys. -/
def printKeyed (l : Layout) (depth : Nat) : List (Key × Json) → Text
  | [] => []
  | [(k, v)] =>
    l.lineStart depth ++ (printString l.ascii k.spelling ++ (l.nameSeparator ++ printAt l depth v))
  | (k, v) :: es =>
    l.lineStart depth ++ (printString l.ascii k.spelling ++ (l.nameSeparator ++ (printAt l depth v ++
      (l.itemSeparator ++ printKeyed l depth es))))

end

/-- The written form of a value. -/
def print (l : Layout) (v : Json) : Text := printAt l 0 v

/-- The entries in the order of their names. -/
def sortEntries (entries : List (Text × Json)) : List (Text × Json) :=
  entries.mergeSort fun a b => Text.le a.1 b.1

/-- The entries in the order of their keys. -/
def sortKeyed (entries : List (Key × Json)) : List (Key × Json) :=
  entries.mergeSort fun a b => Key.le a.1 b.1

mutual

/-- The value with the names of every object in order. -/
def inOrder : Json → Json
  | arr items => arr (inOrderItems items)
  | obj entries => obj (sortEntries (inOrderEntries entries))
  | keyed entries => keyed (sortKeyed (inOrderKeyed entries))
  | v => v

/-- The items, each with its names in order. -/
def inOrderItems : List Json → List Json
  | [] => []
  | v :: vs => inOrder v :: inOrderItems vs

/-- The entries, each value with its names in order. -/
def inOrderEntries : List (Text × Json) → List (Text × Json)
  | [] => []
  | (k, v) :: es => (k, inOrder v) :: inOrderEntries es

/-- The entries of a mapping, each value with its names in order. -/
def inOrderKeyed : List (Key × Json) → List (Key × Json)
  | [] => []
  | (k, v) :: es => (k, inOrder v) :: inOrderKeyed es

end

mutual

/-- Two keys of one mapping that have no order, at any depth, the later one first. -/
def unordered? : Json → Option (Key × Key)
  | arr items => unorderedItems? items
  | obj entries => unorderedEntries? entries
  | keyed entries =>
    match Key.unordered? (entries.map Prod.fst) with
    | some found => some found
    | none => unorderedKeyed? entries
  | _ => none

/-- Two keys without order in the items. -/
def unorderedItems? : List Json → Option (Key × Key)
  | [] => none
  | v :: vs => match unordered? v with
    | some found => some found
    | none => unorderedItems? vs

/-- Two keys without order in the values of an object. -/
def unorderedEntries? : List (Text × Json) → Option (Key × Key)
  | [] => none
  | (_, v) :: es => match unordered? v with
    | some found => some found
    | none => unorderedEntries? es

/-- Two keys without order in the values of a mapping. -/
def unorderedKeyed? : List (Key × Json) → Option (Key × Key)
  | [] => none
  | (_, v) :: es => match unordered? v with
    | some found => some found
    | none => unorderedKeyed? es

end

mutual

/-- Whether every number in a value is one of standard JSON, neither infinite nor undefined. -/
def isStandard : Json → Bool
  | float x => x.isFinite
  | arr items => areStandard items
  | obj entries => haveStandard entries
  | keyed entries => haveStandardKeyed entries
  | _ => true

/-- Whether every number in the items is one of standard JSON. -/
def areStandard : List Json → Bool
  | [] => true
  | v :: vs => isStandard v && areStandard vs

/-- Whether every number in the values of an object is one of standard JSON. -/
def haveStandard : List (Text × Json) → Bool
  | [] => true
  | (_, v) :: es => isStandard v && haveStandard es

/-- Whether every number in the values of a mapping is one of standard JSON. -/
def haveStandardKeyed : List (Key × Json) → Bool
  | [] => true
  | (_, v) :: es => isStandard v && haveStandardKeyed es

end

/-- The text that two values share exactly when they differ in the order of names at most. -/
def canonicalText (v : Json) : Text := print .compact v.inOrder

end ArticleExport.Json
