import SpireEnroll.Registry.Request
import SpireEnroll.Http.Url
import SpireEnroll.Http.Response

/-!
# The registry client

The registry is reached over HTTP at a base address. An entry is created by
posting the registration request to `/v1/entries/add` below the base address,
and deleted by posting it, without its credential, to `/v1/entries/delete`. Each
post carries a timeout: the one given for the call, or the client's own.

The answer decides the outcome:

* a transport failure (the registry cannot be reached, a timeout, a broken
  connection) fails the call as unreachable;
* an answer that cannot be decoded (a body whose content coding is broken) or
  followed fails it as unusable;
* a creation needs status 200 and a JSON object whose `entryID` reads as a
  non-empty text, which is the entry's id; a deletion succeeds on 200, and on 404
  too, since the entry is then already gone.

A call that reaches the point of an answer is counted under its operation, as a
success, a transport error or a protocol error, with two exceptions the runtime
causes: a JSON answer nested deeper than its reader can follow fails a creation
uncounted, and so does a refused deletion whose text its decoder cannot read.
-/

namespace SpireEnroll

namespace RegistryOp

def path : RegistryOp → String
  | .create => "/v1/entries/add"
  | .revoke => "/v1/entries/delete"

/-- The body an operation posts: deletions carry no credential. -/
def payload : RegistryOp → RegistrationRequest → Value
  | .create, r => r.body
  | .revoke, r => r.withoutCredential.body

end RegistryOp

/-- How a call is counted. -/
inductive CallStatus where
  | success
  | transportError
  | protocolError
deriving DecidableEq, Repr

def CallStatus.label : CallStatus → String
  | .success => "success"
  | .transportError => "transport_error"
  | .protocolError => "protocol_error"

/-- What the transport did with a post: answered it, or failed with an error of a
kind and a text. -/
inductive Delivery where
  | answered (r : Response)
  | raised (kind message : String)
deriving Inhabited

def transportFailures : List String :=
  ["TransportError", "TimeoutException", "ConnectTimeout", "ReadTimeout", "WriteTimeout",
   "PoolTimeout", "NetworkError", "ConnectError", "ReadError", "WriteError", "CloseError",
   "ProtocolError", "LocalProtocolError", "RemoteProtocolError", "ProxyError",
   "UnsupportedProtocol"]

def unusableAnswers : List String :=
  ["DecodingError", "TooManyRedirects"]

/-- A client of the registry: the base address as given, the default timeout, and
the runtime it reads answers with. -/
structure RegistryClient (τ : Type) where
  baseUrl : String
  timeout : τ
  runtime : Runtime

/-- A post as sent: the full address, the body and the timeout. -/
structure Post (τ : Type) where
  url : String
  body : Value
  timeout : τ

/-- The outcome of a call: its result, and how it is counted (none when it is not
counted). -/
structure CallOutcome (α : Type) where
  result : Except OperatorError α
  status : Option CallStatus

/-- A call that failed before an answer could be used: its error, and how it is
counted (none when it is not counted). -/
structure CallFailure where
  error : OperatorError
  status : Option CallStatus

def CallFailure.outcome {α : Type} (f : CallFailure) : CallOutcome α :=
  ⟨.error f.error, f.status⟩

namespace RegistryClient

variable {τ : Type}

/-- The description of a client, its timeout written by `write`. -/
def describe (c : RegistryClient τ) (write : τ → String) : String :=
  "SpireClient(base_url=" ++ Text.literal c.baseUrl ++ ", timeout=" ++ write c.timeout ++ ")"

def addressError (detail : String) : OperatorError :=
  .other (.foreign "InvalidURL") detail

def bodyError? (body : Value) : Option OperatorError :=
  (Text.firstStandInRun? (Json.writeCompact body).toList).map fun (start, count, code) =>
    .other (.foreign "UnicodeEncodeError")
      ("'utf-8' codec can't encode " ++
        (if count == 1 then
          "character '\\u" ++ String.ofList (Text.hexDigits 4 code) ++ "' in position " ++
            toString start
        else "characters in position " ++ toString start ++ "-" ++ toString (start + count - 1)) ++
        ": surrogates not allowed")

/-- The post an operation makes; fails when the base address cannot be read or
the body cannot be sent. -/
def post (c : RegistryClient τ) (op : RegistryOp) (req : RegistrationRequest)
    (timeout : Option τ) : Except OperatorError (Post τ) := do
  let base ← (Url.parse c.baseUrl).mapError addressError
  let url ← (base.join op.path).mapError addressError
  let body := op.payload req
  match bodyError? body with
  | some e => throw e
  | none => pure ⟨url.text, body, timeout.getD c.timeout⟩

def target (c : RegistryClient τ) (op : RegistryOp) : String :=
  c.baseUrl ++ op.path

/-- The answer's content, or the failure of a delivery that gave none to use. -/
def received (c : RegistryClient τ) (op : RegistryOp) :
    Delivery → Except CallFailure (Response × Array UInt8)
  | .raised kind message =>
    if transportFailures.contains kind then
      .error ⟨.registryUnreachable op (c.target op) message, some .transportError⟩
    else if unusableAnswers.contains kind then
      .error ⟨.registryUnusable op (c.target op) message, some .protocolError⟩
    else .error ⟨.other (.foreign kind) message, none⟩
  | .answered r =>
    match r.content with
    | .ok content => .ok (r, content)
    | .error message =>
      .error ⟨.registryUnusable op (c.target op) message, some .protocolError⟩

/-- The outcome of an answer the registry refused for a reason: counted as a
protocol error, it fails with the answer's status and text, or as reading the text
fails. -/
def refusal {α : Type} (rt : Runtime) (op : RegistryOp) (p : AnswerProblem) (r : Response)
    (content : Array UInt8) : CallOutcome α :=
  match r.textOf rt.decoder content with
  | .ok text => ⟨.error (.registryRefused op p r.status text), some .protocolError⟩
  | .error e => ⟨.error e, some .protocolError⟩

def nestingError (c : Json.Container) : OperatorError :=
  .other (.foreign "RecursionError") c.tooDeepMessage

/-- The outcome of an answer to a creation: the new entry's id. A JSON body nested
deeper than the runtime's reader can follow fails the call uncounted. -/
def createAnswer (rt : Runtime) (r : Response) (content : Array UInt8) : CallOutcome String :=
  if r.status != 200 then refusal rt .create .notOk r content
  else match jsonOfBytes rt.jsonDepth content with
    | .error .malformed => refusal rt .create .notJson r content
    | .error (.tooDeep c) => ⟨.error (nestingError c), none⟩
    | .ok (.dict es) =>
      let id := (EntryResponse.ofEntries es).entryId
      if id.isEmpty then refusal rt .create .noEntryId r content
      else ⟨.ok id, some .success⟩
    | .ok _ => refusal rt .create .notObject r content

/-- The outcome of a creation: the new entry's id. -/
def createOutcome (c : RegistryClient τ) (d : Delivery) : CallOutcome String :=
  match c.received .create d with
  | .error f => f.outcome
  | .ok (r, content) => createAnswer c.runtime r content

/-- The outcome of an answer to a deletion. A refused answer's text is read for
the log before the call is counted, so a failure to read it goes uncounted. -/
def revokeAnswer (rt : Runtime) (r : Response) (content : Array UInt8) : CallOutcome Unit :=
  if r.status == 200 || r.status == 404 then ⟨.ok (), some .success⟩
  else match r.textOf rt.decoder content with
    | .error e => ⟨.error e, none⟩
    | .ok _ => refusal rt .revoke .deleteFailed r content

/-- The outcome of a deletion. -/
def revokeOutcome (c : RegistryClient τ) (d : Delivery) : CallOutcome Unit :=
  match c.received .revoke d with
  | .error f => f.outcome
  | .ok (r, content) => revokeAnswer c.runtime r content

end RegistryClient
end SpireEnroll
