import ArticleExport.Address.Escape
import ArticleExport.Text.Quoted

/-!
# Hosts of addresses

A host in brackets has to be an address of version six, or of a later version with its mark.  Outside of
ASCII, a host may not hold characters that stand for a separator of addresses in another form.
-/

namespace ArticleExport.Address

/-- Whether a text is a group of an address of version six. -/
def isGroup (t : Text) : Bool := !t.isEmpty && t.length ≤ 4 && t.all isHexDigit

/-- Whether a text is a byte in decimal notation. -/
def isDecimalByte (t : Text) : Bool :=
  !t.isEmpty && t.length ≤ 3 &&
    t.all (fun c => 48 ≤ c.value && c.value ≤ 57) &&
    (t.length == 1 || t.head? != some (.scalar '0')) &&
    t.foldl (fun n c => 10 * n + (c.value - 48)) 0 ≤ 255

/-- Whether a text is an address of version four. -/
def isVersionFour (t : Text) : Bool :=
  let parts := Text.splitOn '.' t
  parts.length == 4 && parts.all isDecimalByte

/-- The groups of an address with its last one, of version four, as two groups. -/
def expandLast (parts : List Text) : Option (List Text) :=
  match parts.getLast? with
  | some last =>
    if last.contains (.scalar '.') then
      if isVersionFour last then some (parts.dropLast ++ (["0", "0"] : List Text)) else none
    else some parts
  | none => some parts

/-- Whether groups between colons are an address of version six; one run of them may be left out. -/
def isGroupList (parts : List Text) : Bool :=
  let inner := parts.tail.dropLast
  match inner.findIdx? List.isEmpty with
  | none => parts.length == 8 && parts.all isGroup
  | some i =>
    let before := parts.take (i + 1)
    let behind := parts.drop (i + 2)
    let high := if before.head? == some [] then before.tail else before
    let low := if behind.getLast? == some [] then behind.dropLast else behind
    (inner.countP List.isEmpty == 1) &&
      (before.head? != some [] || high.isEmpty) && (behind.getLast? != some [] || low.isEmpty) &&
      high.length + low.length ≤ 7 && high.all isGroup && low.all isGroup

/-- Whether a text is an address of version six; a scope may follow it. -/
def isVersionSix (t : Text) : Bool :=
  let (address, scope) := Text.cutAt '%' t
  let soundScope := match scope with
    | none => true
    | some s => !s.isEmpty && !s.contains (.scalar '%')
  let parts := Text.splitOn ':' address
  soundScope && !t.contains (.scalar '/') && 3 ≤ parts.length &&
    match expandLast parts with
    | some parts => parts.length ≤ 9 && isGroupList parts
    | none => false

/-- Whether a text is an address of a later version: its mark, a dot, and something behind it. -/
def isLaterVersion : Text → Bool
  | .scalar 'v' :: t =>
    let digits := t.takeWhile isHexDigit
    !digits.isEmpty && match t.dropWhile isHexDigit with
      | .scalar '.' :: rest => !rest.isEmpty
      | _ => false
  | _ => false

/-- What is wrong with a host that has brackets where it should be an address. -/
def literalFlaw? (t : Text) : Option Text :=
  if t.head? == some (.scalar 'v') then
    if isLaterVersion t then none else some "IPvFuture address is invalid"
  else if isVersionSix t then none
  else if isVersionFour t then some "An IPv4 address cannot be in brackets"
  else some (t.quoted ++ (" does not appear to be an IPv4 or IPv6 address" : Text))

/-- The host without an account before it. -/
def withoutAccount (host : Text) : Text :=
  match Text.cutAtLast? '@' host with
  | some (_, rest) => rest
  | none => host

/-- What is wrong with the brackets of a host: they have to come as a pair, and then the host is an
address, with nothing before it and nothing but a port behind it. -/
def bracketFlaw? (host : Text) : Option Text :=
  match host.contains (.scalar '['), host.contains (.scalar ']') with
  | false, false => none
  | true, true =>
    let host := withoutAccount host
    match Text.cutAt '[' host with
    | ([], some inner) =>
      match Text.cutAt ']' inner with
      | (literal, none) | (literal, some []) | (literal, some (.scalar ':' :: _)) => literalFlaw? literal
      | _ => some brackets
    | (_, some _) => some brackets
    | (_, none) => literalFlaw? (Text.cutAt ':' host).1
  | _, _ => some brackets
where
  /-- The wording for brackets out of place. -/
  brackets : Text := "Invalid IPv6 URL"

/-- The code points outside of ASCII that have a separator of addresses in their plain form. -/
def disguisedSeparators : List Nat :=
  [0x2047, 0x2048, 0x2049, 0x2100, 0x2101, 0x2105, 0x2106, 0x2A74, 0xFE13, 0xFE16, 0xFE55, 0xFE56,
    0xFE5F, 0xFE6B, 0xFF03, 0xFF0F, 0xFF1A, 0xFF1F, 0xFF20]

/-- What keeps a host from standing in an address. -/
def hostFlaw? (host : Text) : Option Text :=
  match bracketFlaw? host with
  | some flaw => some flaw
  | none =>
    if host.any fun c => disguisedSeparators.contains c.value then
      some (("netloc '" : Text) ++ host ++
        ("' contains invalid characters under NFKC normalization" : Text))
    else none

example : isVersionSix "::1" = true ∧ isVersionSix "1::2::3" = false ∧
    isVersionSix "::ffff:1.2.3.4" = true ∧ isVersionSix "bad" = false := by decide

end ArticleExport.Address
