import StaffIndex.Employee.Json
import StaffIndex.Error
import StaffIndex.Http.MediaType
import StaffIndex.Queue

/-!
# Requests and responses

What is asked over HTTP and what is answered, and how a request body is read. A body is rejected before anything else
is looked at: for its media type, then for its length, then for its contents.
-/

namespace StaffIndex.Http

structure Request where
  method : String
  uri : String
  contentType : Option String := none
  body : ByteArray := .empty

/-- What a response carries. -/
inductive Content where
  | nothing
  | employees (found : List Summary)
  | drained (n : Nat)
  | stats (stats : Queue.Stats)
  | message (text : String)

structure Response where
  status : Nat
  content : Content

namespace Content

open Json.Written (object list count)

/-- The body of the response. -/
def written : Content → List Char
  | nothing => []
  | employees found => object [("employees", list (found.map Summary.written))]
  | drained n => object [("drained", count n)]
  | stats s => object [("tracked", count s.tracked), ("in_flight", count s.inFlight),
      ("completed", count s.completed), ("failed", count s.failed)]
  | message text => object [("message", Json.Written.text text)]

end Content

/-- Why a body is not taken. -/
inductive Rejection where
  | mediaType
  | tooLong
  | malformed (e : Json.Error)

def Rejection.message : Rejection → String
  | mediaType => "Expected request with `Content-Type: application/json`"
  | tooLong => "Failed to buffer the request body: length limit exceeded"
  | malformed e =>
    if e.cause.isShape then s!"Failed to deserialize the JSON body into the target type: {e.located}"
    else s!"Failed to parse the request body as JSON: {e.located}"

/-- The length that no body may exceed, in bytes. -/
def bodyLimit : Nat := 2 * 1024 * 1024

/-- Reads the value at the front of the body. What comes after it does not matter. -/
def Request.read {α : Type} (request : Request) (reader : Json.Reader α) : Except Rejection α :=
  if !(request.contentType.bind MediaType.parse).any MediaType.isJson then .error .mediaType
  else if bodyLimit < request.body.size then .error .tooLong
  else (reader.front (Json.Symbol.ofBytes request.body)).mapError .malformed

/-- Why a search over HTTP has no result. -/
inductive Failure where
  | rejected (r : Rejection)
  | search (e : SearchError)

namespace Failure

def status : Failure → Nat
  | rejected _ => 400
  | search .zeroLimit => 400
  | search (.store _) => 500

def message : Failure → String
  | rejected r => s!"invalid request: {r.message}"
  | search e => e.message

def response (f : Failure) : Response := ⟨f.status, .message f.message⟩

end Failure

/-! ## Routes -/

inductive Route where
  | basic
  | full
  | suggest
  | clearTasks
  | stats
  deriving DecidableEq

/-- The route of a path. -/
def Route.ofPath? (path : String) : Option Route :=
  if path = "/v1/search/basic" then some .basic
  else if path = "/v1/search/full" then some .full
  else if path = "/v1/search/suggest" then some .suggest
  else if path = "/v1/clear-tasks" then some .clearTasks
  else if path = "/v1/index/stats" then some .stats
  else none

/-- The methods that a route answers to. -/
def Route.methods : Route → List String
  | stats => ["GET", "HEAD"]
  | _ => ["POST"]

/-- May the character stand in the scheme of a uri? -/
def isSchemeChar (c : Char) : Bool := c.isAlphanum || c = '+' || c = '-' || c = '.' || c = '~'

/-- The uri without its query and its fragment, and without the scheme and the host if it names them. -/
def Request.path (request : Request) : String :=
  let uri := request.uri.toList.takeWhile fun c => c ≠ '?' && c ≠ '#'
  match uri.dropWhile isSchemeChar with
  | ':' :: '/' :: '/' :: rest => String.ofList (rest.dropWhile (· ≠ '/'))
  | _ => String.ofList uri

/-! ## Request bodies -/

/-- The body of an exact or a suggesting search. -/
def queryShape : Json.Shape String where
  name := "struct SearchRequest"
  blank := ""
  members := [.of "search_key" true .text fun v _ => v]

/-- The body of a ranked search. -/
def rankedShape : Json.Shape (String × Nat) where
  name := "struct RankedSearchRequest"
  blank := ("", 0)
  members := [
    .of "search_key" true .text fun v q => (v, q.2),
    .of "limit" true .count fun v q => (q.1, v)]

end StaffIndex.Http
