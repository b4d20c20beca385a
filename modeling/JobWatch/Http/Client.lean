/-
  JobWatch.Http.Client
  ────────────────────
  **LISTING MESSAGES OVER HTTP.**

  A call becomes one GET request: the project and the job are segments of the
  path, the token is the one parameter of the query. A reply is a page if its
  status is a success and its body is a JSON object; any other reply is an
  error that keeps what the service said.
-/
import JobWatch.Http.Status
import JobWatch.Json.Octets
import JobWatch.Listing.Service
import JobWatch.Uri.Address

namespace JobWatch

/-! ## §1. Transports. -/

/-- What comes back for a request. -/
inductive Reply where
  /-- A status, a body, and the reason phrase if it is not the registered one. -/
  | answer (status : Int) (body : Bytes) (reason : Option Text)
  /-- The transport failed. -/
  | broken (message : Text)
  /-- The transport gave up for a reason of its own. -/
  | failed (e : Failure)

/-- Carries requests; it may change with every request. -/
abbrev Transport (τ : Type) := τ → Address → Reply × τ

/-- A transport that follows a script and notes the requests. -/
structure Exchange where
  /-- The replies still to come. -/
  pending : List Reply
  /-- The addresses asked so far. -/
  sent : List Address := []

namespace Exchange

/-- An empty object, the reply when the script is over. -/
def standing : Reply := .answer 200 (Utf8.encode "\x7b\x7d") none

/-- The next reply of the script. -/
def send : Transport Exchange := fun x a =>
  match x.pending with
  | [] => (standing, ⟨[], x.sent ++ [a]⟩)
  | r :: rest => (r, ⟨rest, x.sent ++ [a]⟩)

end Exchange

/-! ## §2. Requests. -/

/-- A client of one service. -/
structure Client where
  /-- The address of the service, without slashes at its end. -/
  base : Text
  /-- How many lists and objects of a body may stand in each other when it is read. -/
  nesting : Nat

namespace Client

/-- The client of the service at an address. -/
def ofUrl (url : Text) (nesting : Nat := Json.usualNesting) : Client :=
  ⟨url.dropEndWhile (· = CodePoint.ofChar '/'), nesting⟩

/-- An identifier as a path segment. -/
def segment : Value → Except Failure Text
  | .text t =>
    match Percent.encode? t with
    | none => .error .unencodable
    | some s => .ok s
  | _ => .error .notText

/-- Where the messages of a job are listed. -/
def messagesUrl (c : Client) (project job : Value) : Except Failure Text :=
  match segment project with
  | .error e => .error e
  | .ok p =>
    match segment job with
    | .error e => .error e
    | .ok j =>
      .ok (c.base ++ Text.ofString "/v1b3/projects/" ++ p ++ Text.ofString "/jobs/" ++ j
        ++ Text.ofString "/messages")

/-- A token as the value of a parameter: truth values in small letters, null as nothing, any
other value as its text. -/
def parameter : Value → Text
  | .bool true => "true"
  | .bool false => "false"
  | .null => []
  | v => v.display

/-- The values of the parameter: the items of a list, else the token itself. -/
def parameters : Value → List Text
  | .list items => items.map parameter
  | v => [parameter v]

/-- The query for a token, none for the first page. -/
def query (token : Value) : Except Failure (Option Text) :=
  if token.isNull then .ok none
  else match (parameters token).mapM Percent.form? with
    | none => .error .unencodable
    | some values =>
      .ok (some (Text.join ['&'] (values.map (Text.ofString "pageToken=" ++ ·))))

/-- A failure to read an address. -/
def addressed {α : Type} : Except AddressError α → Except Failure α
  | .ok a => .ok a
  | .error .invalid => .error .invalidUrl
  | .error .unencodable => .error .unencodable

/-- The address that a call asks. The request names the host in ASCII. -/
def request (c : Client) (call : Call) : Except Failure Address := do
  let url ← c.messagesUrl call.project call.job
  let address ← addressed (Address.read url)
  let address ← addressed address.completed
  let query ← query call.token
  let address ← addressed (address.withQuery query)
  if address.host.all CodePoint.isAscii then return address
  else throw .unencodable

/-! ## §3. Replies. -/

/-- The reason phrase of a reply: its ASCII characters if it has one of its own. -/
def reasonOf (status : Int) : Option Text → Text
  | none => Status.phrase status
  | some reason => reason.filter CodePoint.isAscii

/-- What a reply from an address says, if bodies may nest so deep. -/
def outcome (nesting : Nat) (a : Address) : Reply → Response
  | .broken message => .error (.connection (Text.ofString "HTTP error: " ++ message))
  | .failed e => .error e
  | .answer status body reason =>
    let fault : Text → Value → Response := fun message data =>
      .error (.api ⟨.int status, .text message, data, .text a.text⟩)
    if !a.isAbsolute then .error .noHost
    else if Status.isSuccess status then
      match Json.readOctets body nesting with
      | .error .malformed => fault "Response is not valid JSON" .null
      | .error .tooDeep => .error .tooDeep
      | .ok (.object fields) => .ok (some (Page.ofFields fields))
      | .ok v => fault "Response must be a JSON object" v
    else
      let phrase := reasonOf status reason
      fault (if phrase.isEmpty then "HTTP error" else phrase) (.text (Utf8.readReplacing body))

/-- The logger of clients. -/
def logger : Logger := { name := "dataflow_monitor.client" }

/-- What is logged of a call. -/
def report (call : Call) : Text :=
  Text.ofString "Listing messages for job " ++ call.job.display
    ++ Text.ofString " (page token: " ++ call.token.display ++ Text.ofString ")"

/-- The service that a client reaches over a transport. A call whose request cannot be built
sends none. -/
def service {τ : Type} (c : Client) (send : Transport τ) : Service τ := fun s call =>
  let log := logger.record .debug (report call) none
  match c.request call with
  | .error e => { response := .error e, state := s, log }
  | .ok a =>
    let (reply, s) := send s a
    { response := outcome c.nesting a reply, state := s, log }

end Client

end JobWatch
