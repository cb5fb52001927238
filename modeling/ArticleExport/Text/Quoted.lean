import ArticleExport.Text.Printable

/-!
# Quoted texts

How a text is shown inside a message: between single quotes, or between double ones where it holds a
single quote and no double one.  What would not show is escaped by its number.
-/

namespace ArticleExport.Text

/-- The last `width` hexadecimal digits of a number, in lower case. -/
def hexDigits (width n : Nat) : Text :=
  (List.range width).reverse.map fun k => .scalar (Nat.digitChar (n / Nat.pow 16 k % 16))

/-- A code point between quotes. -/
def quotePoint (mark : Char) (c : CodePoint) : Text :=
  match c with
  | .scalar '\\' => "\\\\"
  | .scalar '\n' => "\\n"
  | .scalar '\r' => "\\r"
  | .scalar '\t' => "\\t"
  | c =>
    let n := c.value
    if c = .scalar mark then [.scalar '\\', c]
    else if c.isPrintable then [c]
    else if n < 0x100 then ofString "\\x" ++ hexDigits 2 n
    else if n < 0x10000 then ofString "\\u" ++ hexDigits 4 n
    else ofString "\\U" ++ hexDigits 8 n

/-- The quotation mark for a text. -/
def quoteMark (t : Text) : Char :=
  if t.contains (.scalar '\'') && !t.contains (.scalar '\"') then '\"' else '\''

/-- A text between quotes. -/
def quoted (t : Text) : Text :=
  let mark := quoteMark t
  .scalar mark :: (t.flatMap (quotePoint mark) ++ [.scalar mark])

/-- A list of texts between brackets, each one quoted. -/
def quotedList (ts : List Text) : Text :=
  .scalar '[' :: (join ", " (ts.map quoted) ++ [.scalar ']'])

end ArticleExport.Text
