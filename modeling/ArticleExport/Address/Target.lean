import ArticleExport.Address.Basic
import ArticleExport.Address.Label
import ArticleExport.Number.Whole
import ArticleExport.Table

/-!
# Targets of requests

The address that a request goes to, in its plain form: the scheme and the host are in lower case, the port
of the scheme is left out, the path has no steps that lead nowhere or back, and what may not stand in a part
is escaped.  An address without scheme or host is no more than a path.
-/

namespace ArticleExport

/-- An address in its parts, each in its plain form. -/
structure Target where
  /-- The scheme, empty where there is none. -/
  scheme : Text
  /-- The account, empty where there is none. -/
  account : Text
  /-- The host, empty where there is none. -/
  host : Text
  /-- The port, where it is not that of the scheme. -/
  port : Option Int
  /-- The path. -/
  path : Text
  /-- What stands behind the question mark, where there is one. -/
  query : Option Text
  /-- What stands behind the number sign, where there is one. -/
  fragment : Option Text
deriving DecidableEq, Repr

namespace Target

/-- The account, host and port as they stand in an address. -/
def authority (t : Target) : Text :=
  let account := if t.account.isEmpty then [] else t.account ++ ("@" : Text)
  let host :=
    if t.host.contains (.scalar ':') then ("[" : Text) ++ t.host ++ ("]" : Text) else t.host
  let port := match t.port with
    | some n => (":" : Text) ++ Text.ofInt n
    | none => []
  account ++ host ++ port

/-- An address. -/
def write (t : Target) : Text :=
  let scheme := if t.scheme.isEmpty then [] else t.scheme ++ (":" : Text)
  let authority := if t.authority.isEmpty then [] else ("//" : Text) ++ t.authority
  let rest (sign : Char) : Option Text → Text
    | some part => .scalar sign :: part
    | none => []
  scheme ++ authority ++ t.path ++ rest '?' t.query ++ rest '#' t.fragment

/-- The number of code points that an address may have. -/
def maxLength : Nat := 65536

/-- Whether a code point is an ASCII control. -/
def isControl (c : CodePoint) : Bool := c.value < 0x20 || c.value == 0x7F

/-- Whether a code point is a printable ASCII one other than some. -/
def isPlain (others : String) : CodePoint → Bool
  | .scalar c => ' ' ≤ c && c ≤ '~' && !others.toList.contains c
  | .surrogate _ => false

/-- Whether a code point stands for itself in a fragment. -/
def plainInFragment : CodePoint → Bool := isPlain " \"<>`"

/-- Whether a code point stands for itself in a query. -/
def plainInQuery : CodePoint → Bool := isPlain " \"#<>"

/-- Whether a code point stands for itself in a path. -/
def plainInPath : CodePoint → Bool := isPlain " \"#<>?`\x7b\x7d"

/-- Whether a code point stands for itself in an account. -/
def plainInAccount : CodePoint → Bool := isPlain " \"#<>?`\x7b\x7d/;=@[\\]^|"

/-- Whether a code point stands for itself in a host. -/
def plainInHost (c : CodePoint) : Bool :=
  Address.isUnreserved c || ("!$&'()*+,;=\"`\x7b\x7d%|\\" : Text).contains c

/-- The error of an address that no request can go to. -/
def flaw {α : Type} (wording : Text) : Except Fault α := .error (.unreachableAddress wording)

/-- A part in its plain form. -/
def escape (plain : CodePoint → Bool) (t : Text) : Except Fault Text :=
  match Address.escape? plain t with
  | some t => .ok t
  | none => .error .unencodable

/-- Whether a text consists of four numbers with a code point between neighbours, as an address of version
four does; `left` of the code points between are to come, and `inNumber` tells whether the last one was a
digit of a number. -/
def isDotted (left : Nat) (inNumber : Bool) : Text → Bool
  | [] => left == 0 && inNumber
  | c :: t =>
    (c.isAscii && (digitValue? c).isSome && isDotted left true t) ||
      (inNumber && match left with
        | 0 => false
        | left + 1 => isDotted left false t)

/-- The host in its plain form; one in brackets loses them. -/
def readHost (t : Text) : Except Fault Text :=
  if t.isEmpty then .ok []
  else if isDotted 3 false t then
    if Address.isVersionFour t then .ok t
    else flaw (("Invalid IPv4 address: " : Text) ++ t.quoted)
  else if t.head? == some (.scalar '[') && t.getLast? == some (.scalar ']') then
    let inner := t.tail.dropLast
    if Address.isVersionSix inner then .ok inner
    else flaw (("Invalid IPv6 address: " : Text) ++ t.quoted)
  else if t.all CodePoint.isAscii then escape plainInHost t.lowerAscii
  else match Label.name? t with
    | some name => .ok name
    | none => flaw (("Invalid IDNA hostname: " : Text) ++ t.quoted)

/-- The port that a request goes to where the address names none. -/
def standardPorts : Table Int := [("ftp", 21), ("http", 80), ("https", 443), ("ws", 80), ("wss", 443)]

/-- The port of an address with a scheme, as it is written. -/
def readPort (scheme t : Text) : Except Fault (Option Int) :=
  if t.isEmpty then .ok none
  else match wholeOfText t with
    | .ok n => .ok (if Table.get? scheme standardPorts = some n then none else some n)
    | .error _ => flaw (("Invalid port: " : Text) ++ t.quoted)

/-- The steps of a path without those that lead nowhere or back; `found` are those before, the last one
first.  There is no way back from the root. -/
def plainSteps (found : List Text) : List Text → List Text
  | [] => found.reverse
  | step :: steps =>
    if step == ("." : Text) then plainSteps found steps
    else if step == (".." : Text) then
      plainSteps (if found == [[]] then found else found.tail) steps
    else plainSteps (step :: found) steps

/-- A path without steps that lead nowhere or back. -/
def plainPath (path : Text) : Text := Text.join "/" (plainSteps [] (Text.splitOn (.scalar '/') path))

/-- The account, the host and the port of an authority. -/
def cutAuthority (t : Text) : Text × Text × Text :=
  let (account, t) := (Text.cutAtLast? (.scalar '@') t).getD ([], t)
  let dropColon : Text → Text
    | .scalar ':' :: t => t
    | t => t
  match t.head? == some (.scalar '['), Text.cutAtLast? (.scalar ']') t with
  | true, some (host, port) => (account, host ++ ("]" : Text), dropColon port)
  | _, _ =>
    let (host, port) := Text.cutAt (.scalar ':') t
    (account, host, port.getD [])

/-- The scheme of an address, which may be empty, and what follows it. -/
def cutScheme (t : Text) : Text × Text :=
  match t with
  | .scalar ':' :: rest => ([], rest)
  | t =>
    match Text.cutAt (.scalar ':') t with
    | (name, some rest) =>
      if name.head?.any Address.isSchemeStart && name.all Address.isSchemeChar then (name, rest)
      else ([], t)
    | (_, none) => ([], t)

/-- What keeps a path from standing behind the scheme and the authority of an address. -/
def pathFlaw? (hasScheme hasAuthority : Bool) (path : Text) : Option Text :=
  match hasAuthority, hasScheme, path with
  | _, _, [] => none
  | true, _, c :: _ =>
    if c == .scalar '/' then none
    else some "For absolute URLs, path must be empty or begin with '/'"
  | false, false, .scalar '/' :: .scalar '/' :: _ =>
    some "Relative URLs cannot have a path starting with '//'"
  | false, false, .scalar ':' :: _ => some "Relative URLs cannot have a path starting with ':'"
  | false, _, _ => none

/-- The parts of an address without controls. -/
def readParts (url : Text) : Except Fault Target := do
  let (scheme, t) := cutScheme url
  let (authority, t) := Address.cutHost t
  let (t, fragment) := Text.cutAt (.scalar '#') t
  let (path, query) := Text.cutAt (.scalar '?') t
  let (account, host, port) := cutAuthority authority
  let account ← escape plainInAccount account
  let host ← readHost host
  let port ← readPort scheme port
  let hasAuthority := !account.isEmpty || !host.isEmpty || port.isSome
  if let some wording := pathFlaw? (!scheme.isEmpty) hasAuthority path then flaw wording
  let path := if !scheme.isEmpty || hasAuthority then plainPath path else path
  return {
    scheme := scheme.lowerAscii
    account, host, port
    path := ← escape plainInPath path
    query := ← query.mapM (escape plainInQuery)
    fragment := ← fragment.mapM (escape plainInFragment) }

/-- The parts of an address. -/
def readUrl (url : Text) : Except Fault Target :=
  if maxLength < url.length then flaw "URL too long"
  else match url.find? isControl with
    | some c =>
      flaw (("Invalid non-printable ASCII character in URL, " : Text) ++ Text.quoted [c] ++
        (" at position " : Text) ++ Text.ofNat (url.findIdx isControl) ++ ("." : Text))
    | none => readParts url

/-- Whether an address has a scheme and a host. -/
def isAbsolute (t : Target) : Bool := !t.scheme.isEmpty && !t.host.isEmpty

/-- The path and the query of an address, behind a single slash. -/
def pathOnly (t : Target) : Target :=
  let path := t.path.dropWhile (· == .scalar '/')
  { scheme := [], account := [], host := [], port := none, path := .scalar '/' :: path,
    query := t.query, fragment := none }

/-- The target of a request to an address. -/
def read (url : Text) : Except Fault Target :=
  (readUrl url).map fun t => if t.isAbsolute then t else t.pathOnly

end Target

end ArticleExport
