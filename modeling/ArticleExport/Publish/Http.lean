import ArticleExport.Address.Target
import ArticleExport.Article.Mapping
import ArticleExport.Json.Reader
import ArticleExport.Json.Shown
import ArticleExport.Number.Seconds
import ArticleExport.Publish.Api

/-!
# The service over HTTP

Requests to the publishing service; each goes to the plain form of its address.  A request that cannot
connect is tried again after a pause, and the pause doubles each time; any other failure ends it, and so does
a pause that is too long to be told.  Error reports of the service become errors.
-/

namespace ArticleExport

/-- A request. -/
structure Request where
  /-- The method. -/
  method : Text
  /-- The address as it was given. -/
  address : Text
  /-- The target that the address leads to. -/
  target : Target
  /-- The JSON body, where there is one. -/
  body : Option Json
deriving DecidableEq

/-- The address of a request in its plain form. -/
def Request.url (r : Request) : Text := r.target.write

/-- What comes of sending a request. -/
inductive Exchange where
  /-- A response with a status and a body. -/
  | response (status : Int) (body : List UInt8)
  /-- No connection. -/
  | unreachable (wording : Text)
  /-- Another failure on the way. -/
  | broken (wording : Text)
deriving DecidableEq

/-- The way to the service: what will come of the next requests, and what has been sent. -/
structure Wire where
  /-- What will come of the next requests. -/
  coming : List Exchange
  /-- The requests that were sent. -/
  sent : List Request
  /-- How long was waited before each new try. -/
  waits : List Seconds
deriving DecidableEq

namespace Wire

/-- The status of a response when nothing else comes. -/
def silentStatus : Int := 599

/-- Sends a request. -/
def send (w : Wire) (r : Request) : Exchange × Wire :=
  match w.coming with
  | [] => (.response silentStatus [], { w with sent := w.sent ++ [r] })
  | x :: coming => (x, { w with coming := coming, sent := w.sent ++ [r] })

/-- The way with nothing sent yet. -/
def quiet (w : Wire) : Wire := { w with sent := [], waits := [] }

/-- Waits. -/
def wait (w : Wire) (s : Seconds) : Wire := { w with waits := w.waits ++ [s] }

end Wire

/-- A client of the service over HTTP. -/
structure HttpClient where
  /-- The address of the service. -/
  base : Text
  /-- How often a request is tried when there is no connection. -/
  attempts : Nat
  /-- How long is waited before the second try. -/
  delay : Seconds
deriving DecidableEq

namespace HttpClient

/-- The client for an address.  A request is tried at least once. -/
def create (base : Text) (attempts : Int) (delay : Seconds) : HttpClient :=
  ⟨Text.trimEnd (· == .scalar '/') base, (max 1 attempts).toNat, delay⟩

/-- The client for an address that tries three times, the second time after a second. -/
def standard (base : Text) : HttpClient := create base 3 (.real 1.0)

/-- The error of a request that did not get through. -/
def networkError (wording : Text) : Failure := .error (.remote (.plain "NETWORK_ERROR" wording none))

/-- The texts of a list, from a position on. -/
def textsFrom (position : Nat) : List Json → Except Fault (List Text)
  | [] => .ok []
  | .str t :: items => (textsFrom (position + 1) items).map (t :: ·)
  | v :: _ => .error (.notAText position v.kindName)

/-- The path of an error report. -/
def keyPath (v : Json) : Except Failure (List Text) :=
  if !v.isTruthy then .ok []
  else match v with
    | .str t => .ok [t]
    | .obj entries => .ok (Table.keys entries)
    | .arr items => (textsFrom 0 items).mapError .fault
    | v => .error (.fault (.notIterable v.kindName))

/-- The first of the reports in a response, where they are a list of them. -/
def firstReport? (errors : Json) : Except Failure (Option (Table Json)) :=
  if !errors.isTruthy then .ok none
  else match errors with
    | .arr (.obj report :: _) => .ok (some report)
    | .arr _ | .str _ => .ok none
    | .obj _ => .error (.fault .missingEntry)
    | v => .error (.fault (.notIndexed v.kindName))

/-- The error of a response that reports a failure. -/
def errorOf (status : Int) (body : Json) : Failure :=
  match firstReport? ((body.field? "errors").getD .null) with
  | .error f => f
  | .ok (some report) =>
    match keyPath ((Table.get? "keyPath" report).getD .null) with
    | .error f => f
    | .ok path =>
      let code := ((Table.get? "code" report).getD (.str "UNKNOWN")).shown
      .error (.remote (.ofCode code path none (some status)))
  | .ok none =>
    let number := Text.ofInt status
    .error (.remote (.plain (("HTTP_" : Text) ++ number) (("HTTP " : Text) ++ number) (some status)))

/-- What a response yields: the object in it, which may stand under the name of the data. -/
def readResponse (status : Int) (bytes : List UInt8) : Except Failure (Table Json) :=
  let body := (Json.parseBytes? bytes).getD (.obj [])
  if 200 ≤ status ∧ status ≤ 299 then
    match body with
    | .obj entries =>
      match Table.get? "data" entries with
      | some (.obj data) => .ok data
      | _ => .ok entries
    | _ => .ok []
  else .error (errorOf status body)

/-- The failure of a request whose target is a mere path: its response cannot be looked at. -/
def unreadable (r : Request) : Fault := .badAddress (("unknown url type: " : Text) ++ r.url.quoted)

/-- The pause after a try that has found no connection, the tries before it counted: twice as long each time.
It is announced, so it has to be a number that can be written. -/
def pause (c : HttpClient) (before : Nat) : Except Fault Seconds :=
  match c.delay.times? (Nat.pow 2 before) with
  | none => .error .oversizedNumber
  | some s => if s.isWritable then .ok s else .error .unwritableNumber

/-- Tries a request as often as is left, the times before it counted. -/
def try_ (c : HttpClient) (r : Request) (before : Nat) : Nat → ApiCall Wire (Table Json)
  | 0, w => (w, .error (networkError "Max retries exceeded"))
  | left + 1, w =>
    match w.send r with
    | (.response status body, w) =>
      (w, if r.target.isAbsolute then readResponse status body else .error (.fault (unreadable r)))
    | (.broken wording, w) =>
      (w, .error (networkError
        (r.method ++ (" " : Text) ++ r.address ++ (" failed: " : Text) ++ wording)))
    | (.unreachable wording, w) =>
      if left = 0 then
        (w, .error (networkError
          (("Failed to connect to " : Text) ++ r.address ++ (": " : Text) ++ wording)))
      else match c.pause before with
        | .error f => (w, .error (.fault f))
        | .ok s => try_ c r (before + 1) left (w.wait s)

/-- What keeps a body from being sent: its numbers have to be those of standard JSON, and its text needs a
byte form. -/
def bodyFault? (body : Json) : Option Fault :=
  if !body.isStandard then some .numberBeyondJson
  else if !(Json.print .compact body).IsScalar then some .unencodable
  else none

/-- Sends a request to a path of the service.  The address is looked at before the body. -/
def request (c : HttpClient) (method path : Text) (body : Option Json) : ApiCall Wire (Table Json) :=
  fun w =>
    let address := c.base ++ path
    match Target.read address, body.bind bodyFault? with
    | .error f, _ | .ok _, some f => (w, .error (.fault f))
    | .ok target, none => c.try_ ⟨method, address, target, body⟩ 0 c.attempts w

/-- The error of a record that could not be read. -/
def unexpectedData (issues : List FieldIssue) : Failure :=
  .error (.remote { RemoteError.plain "INVALID_RESPONSE" "Unexpected article data" none with
    issues := issues })

/-- The record in the outcome of a request. -/
def record (r : Wire × Except Failure (Table Json)) : Wire × Except Failure ArticleRecord :=
  (r.1, r.2.bind fun data => (ArticleRecord.ofJson data).mapError unexpectedData)

/-- The entries of a value that may be missing. -/
def entriesOr (v : Json) : Except Fault (KeyTable Json) :=
  if v.isTruthy then v.mapping else .ok []

/-- The body of a request that sends an article; entries may be added to the data of its metadata. -/
def payload (document : Json) (bundles : List Text) (metadata : Table Json)
    (more : KeyTable Json) : Except Failure Json := do
  let data ← (entriesOr ((Table.get? "data" metadata).getD .null)).mapError .fault
  let metadata := Table.set "data" (.ofKeyed (KeyTable.update data more)) metadata
  return .obj [("article", document), ("metadata", .obj metadata),
    ("bundles", .arr (bundles.map Json.str))]

/-- Sends an article to a path of the service. -/
def send (c : HttpClient) (path : Text) (document : Json) (bundles : List Text)
    (metadata : Table Json) (more : KeyTable Json) : ApiCall Wire ArticleRecord := fun w =>
  match payload document bundles metadata more with
  | .error f => (w, .error f)
  | .ok body => record (c.request "POST" path (some body) w)

/-- The service as the client sees it. -/
def api (c : HttpClient) : PublishingApi Wire where
  create document channel bundles metadata :=
    c.send (("/channels/" : Text) ++ channel ++ ("/articles" : Text)) document bundles metadata []
  update remoteId revision document bundles metadata :=
    c.send (("/articles/" : Text) ++ remoteId) document bundles metadata
      [("revision", .str revision)]
  get remoteId w := record (c.request "GET" (("/articles/" : Text) ++ remoteId) none w)
  channel channel w := c.request "GET" (("/channels/" : Text) ++ channel) none w

end HttpClient

end ArticleExport
