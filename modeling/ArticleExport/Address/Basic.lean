import ArticleExport.Address.Escape
import ArticleExport.Address.Host
import ArticleExport.Failure
import ArticleExport.Text.Blank

/-!
# Addresses

The scheme, host and path of an address.  What stands before the address is skipped, and line breaks and
tabs in it do not count.
-/

namespace ArticleExport

/-- The parts of an address that an export looks at. -/
structure Address where
  /-- The scheme in lower case, empty where there is none. -/
  scheme : Text
  /-- The host with its port and account, empty where there is none. -/
  host : Text
  /-- The path, without the parameters of its last segment. -/
  path : Text
deriving DecidableEq, Repr

namespace Address

/-- Whether a code point may stand in a scheme. -/
def isSchemeChar : CodePoint → Bool
  | .scalar c => c.isAlphanum || c == '+' || c == '-' || c == '.'
  | .surrogate _ => false

/-- Whether a code point may begin a scheme. -/
def isSchemeStart : CodePoint → Bool
  | .scalar c => c.isAlpha
  | .surrogate _ => false

/-- The schemes whose paths may have parameters; an address without scheme is among them. -/
def parameterSchemes : List Text :=
  ["", "ftp", "hdl", "prospero", "http", "imap", "https", "shttp", "rtsp", "rtspu", "sip", "sips",
    "mms", "sftp", "tel"]

/-- The scheme of an address, and what follows it. -/
def cutScheme (t : Text) : Text × Text :=
  match Text.cutAt ':' t with
  | (name, some rest) =>
    if name.head?.any isSchemeStart && name.all isSchemeChar then (name.lowerAscii, rest) else ([], t)
  | (_, none) => ([], t)

/-- Whether a code point ends the host. -/
def endsHost (c : CodePoint) : Bool :=
  c == .scalar '/' || c == .scalar '?' || c == .scalar '#'

/-- The host of an address, and what follows it. -/
def cutHost : Text → Text × Text
  | .scalar '/' :: .scalar '/' :: t => (t.takeWhile (!endsHost ·), t.dropWhile (!endsHost ·))
  | t => ([], t)

/-- The path without the parameters of its last segment. -/
def dropParameters (path : Text) : Text :=
  match Text.cutAtLast? '/' path with
  | some (before, last) => before ++ (.scalar '/' :: (Text.cutAt ';' last).1)
  | none => (Text.cutAt ';' path).1

/-- The parts of an address. -/
def read (t : Text) : Except Fault Address :=
  let t := t.dropWhile fun c => c.value ≤ 0x20
  let t := t.filter fun c => !(c == .scalar '\t' || c == .scalar '\r' || c == .scalar '\n')
  let (scheme, t) := cutScheme t
  let (host, t) := cutHost t
  let path := (Text.cutAt '?' (Text.cutAt '#' t).1).1
  match hostFlaw? host with
  | none => .ok ⟨scheme, host, if parameterSchemes.contains scheme then dropParameters path else path⟩
  | some flaw => .error (.badAddress flaw)

/-- The last segment of a path. -/
def lastSegment (path : Text) : Text :=
  match Text.cutAtLast? '/' path with
  | some (_, last) => last
  | none => path

/-- The name of the file that an address leads to. -/
def fileName (t : Text) : Except Fault Text :=
  (read t).map fun a => lastSegment (Text.trimEnd (· == .scalar '/') (unescaped a.path))

end Address

end ArticleExport
