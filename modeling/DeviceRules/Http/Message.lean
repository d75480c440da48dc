import DeviceRules.Action.Basic
import DeviceRules.Fault
import DeviceRules.Json.Writer
import DeviceRules.Text.Percent

/-! Requests as HTTP messages. The payload of a POST is its body; that of a GET goes into the query, one pair for
each entry. A client sets what the request leaves open: who it is and what kind of body it sends. -/
namespace DeviceRules

/-- A message as it goes over the network, with the names of its headers in small letters. -/
structure HttpMessage where
  host : String
  method : HttpMethod
  /-- The path and the query. -/
  target : String
  headers : List (String × String)
  body : Option String
  deriving DecidableEq

namespace HttpMessage

structure Address where
  host : String
  path : String
  query : Option String
  deriving DecidableEq

/-- The parts of an address that has a host and one of the two schemes of HTTP. -/
def address? (url : String) : Option Address := do
  let cs := (Text.cut '#' url.toList).1
  let small := cs.map Char.toLower
  let rest ←
    if "http://".toList.isPrefixOf small then some (cs.drop 7)
    else if "https://".toList.isPrefixOf small then some (cs.drop 8)
    else none
  let (place, query) := Text.cut '?' rest
  let host := place.takeWhile (· != '/')
  let path := place.drop host.length
  if host.isEmpty then none
  else some ⟨String.ofList host, if path.isEmpty then "/" else String.ofList path, query.map String.ofList⟩

/-- A value in a query: a text as it is, anything else as JSON text. -/
def queryValue : Json → String
  | .text s => s
  | json => json.toText

/-- The pairs of a payload; only an object has any. -/
def queryPairs : Json → List (String × String)
  | .object entries => entries.map fun (key, value) => (key, queryValue value)
  | _ => []

/-- The query of an address with more pairs. One that comes out empty is left out. -/
def withPairs (query : Option String) (pairs : List (String × String)) : Option String :=
  let written := pairs.map fun (name, value) => Text.formEncoded name ++ "=" ++ Text.formEncoded value
  let all := (query.toList.filter (· != "")) ++ written
  if all.isEmpty then none else some ("&".intercalate all)

def isNameChar (c : Char) : Bool := c.isAlphanum || "!#$%&'*+-.^_`|~".toList.contains c

def isValueChar (c : Char) : Bool := c == '\t' || (' ' ≤ c && c != '\x7f')

def isHeader (name value : String) : Bool :=
  !name.isEmpty && name.toList.all isNameChar && value.toList.all isValueChar

def setDefault (name value : String) (headers : List (String × String)) : List (String × String) :=
  if (headers.lookup name).isSome then headers else headers ++ [(name, value)]

/-- The message of a request by a client that calls itself `agent`, if address and headers are in order. -/
def ofRequest? (agent : String) (request : WebhookRequest) : Option HttpMessage := do
  let address ← address? request.url
  if request.headers.all fun (name, value) => isHeader name value then
    let headers := request.headers.map fun (name, value) => (String.ofList (name.toList.map Char.toLower), value)
    let headers := setDefault "user-agent" agent headers
    match request.method with
    | .get =>
        let query := withPairs address.query (queryPairs request.payload)
        some ⟨address.host, .get, address.path ++ (query.map ("?" ++ ·)).getD "", headers, none⟩
    | .post =>
        let body := request.payload.toText
        let headers := setDefault "content-type" "application/json" headers ++
          [("content-length", toString body.utf8ByteSize)]
        some ⟨address.host, .post, address.path ++ (address.query.map ("?" ++ ·)).getD "", headers, some body⟩
  else none

end HttpMessage

/-- What a network makes of a message: the status of the answer, or none when there is no answer. -/
abbrev Network := HttpMessage → Option Nat

/-- A network on which nobody answers. -/
def Network.unreachable : Network := fun _ => none

/-- Sends a request. A message that cannot be made, or is not answered, is an outage; a bad status is not. -/
def WebhookRequest.send (agent : String) (network : Network) (request : WebhookRequest) : Except Outage Nat :=
  match HttpMessage.ofRequest? agent request with
  | none => .error (.refused "webhook request failed: builder error")
  | some message =>
      match network message with
      | some status => .ok status
      | none => .error (.refused "webhook request failed: error sending request")

end DeviceRules
