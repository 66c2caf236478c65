import CertRenewal.Json.Encoding
import CertRenewal.Pieces
import CertRenewal.Text.Blank
import CertRenewal.Validation.Basic

/-
  Requests and responses, the reading of a request's body, and which endpoint a request is for.
  A body is JSON when its type says so and the whole text otherwise; an empty one counts as
  missing.
-/

namespace CertRenewal.Api

/-- A request. -/
structure Request where
  method : String
  path : String
  contentType : Option String
  body : Bytes
deriving DecidableEq, Repr

/-- A response; a redirection has no body. -/
inductive Response where
  | answer (status : Nat) (body : Json)
  | redirect
deriving Repr

namespace Response

/-- The status code. -/
def status : Response → Nat
  | answer status _ => status
  | redirect => 307

/-- A response as a value; a body that is not there is an empty text. -/
def toJson (r : Response) : Json :=
  let body :=
    match r with
    | answer _ body => body
    | redirect => .text ""
  .object [("status", .int r.status), ("body", body)]

/-- A response that consists of a short explanation. -/
def detail (status : Nat) (text : String) : Response :=
  .answer status (.object [("detail", .text text)])

end Response

/-! ## Bodies -/

/-- The type and the subtype of a content type without its parameters, letters of ASCII in lower
case. -/
def mediaType? (contentType : String) : Option (List Char × List Char) :=
  let essence := (Pieces.splitAt ';' contentType.toList).headD []
  let essence := (Text.trimList Text.isAsciiBlank essence).map Char.toLower
  match Pieces.splitAt '/' essence with
  | [main, sub] => some (main, sub)
  | _ => none

/-- Whether a subtype is JSON or is built on it. -/
def isJsonSubtype (sub : List Char) : Bool :=
  sub = "json".toList || "+json".toList.isSuffixOf sub

/-- Whether a content type is a type of JSON. -/
def isJsonType (contentType : Option String) : Bool :=
  match contentType.bind mediaType? with
  | some (main, sub) => main = "application".toList && isJsonSubtype sub
  | none => false

/-- The value of a request's body, if it has one. -/
def bodyValue (r : Request) : Except Json.ReadError (Option Json) :=
  if r.body = [] then .ok none
  else if isJsonType r.contentType then (Json.ofBytes r.body).map some
  else
    match Utf8.toString? r.body with
    | some s => .ok (some (.text s))
    | none => .error .undecodable

/-! ## Routes -/

/-- The endpoints. -/
inductive Endpoint where
  | rotationCheck
  | renewal
  | health
deriving DecidableEq, Repr

namespace Endpoint

/-- All endpoints. -/
def all : List Endpoint := [rotationCheck, renewal, health]

/-- The path of an endpoint. -/
def path : Endpoint → String
  | rotationCheck => "/api/certificates/rotation-check"
  | renewal => "/api/certificates/renewal"
  | health => "/health"

/-- The method of an endpoint. -/
def method : Endpoint → String
  | health => "GET"
  | _ => "POST"

/-- The endpoint at a path, which may end in a line feed. -/
def at? (path : String) : Option Endpoint :=
  all.find? fun e => path == e.path || path == e.path ++ "\n"

end Endpoint

/-- Where a request leads. -/
inductive Route where
  | endpoint (e : Endpoint)
  | wrongMethod
  | withoutSlash
  | nowhere
deriving DecidableEq, Repr

/-- A path without the slashes at its end. -/
def withoutSlashes (path : String) : String :=
  String.ofList (path.toList.reverse.dropWhile (· = '/')).reverse

/-- Where a request leads. A path that is one of an endpoint but for slashes at its end is sent
there. -/
def route (r : Request) : Route :=
  match Endpoint.at? r.path with
  | some e => if r.method = e.method then .endpoint e else .wrongMethod
  | none => if (Endpoint.at? (withoutSlashes r.path)).isSome then .withoutSlash else .nowhere

/-! ## Refusals -/

/-- The response to a body that could not be read. -/
def unreadableBody : Json.ReadError → Response
  | .malformed problem position =>
    .answer 422 (.object
      [("detail", .list [.object
        [("type", .text "json_invalid"), ("loc", .list [.text "body", .int position]),
          ("msg", .text "JSON decode error"), ("input", .object []),
          ("ctx", .object [("error", .text problem.message)])]])])
  | _ => .detail 400 "There was an error parsing the body"

/-- Whether a field is left out when a value is repeated, which goes by how its name begins. -/
def isPrivate (name : Wide) : Bool := (Point.ofChars ['_', 's', 'a']).isPrefixOf name.points

mutual

/-- A value as it is repeated: without the fields that are left out, however deep they are. -/
def repeated : Json → Json
  | .list items => .list (repeatedItems items)
  | .object fields => .object (repeatedFields fields)
  | v => v

/-- A list of values as they are repeated. -/
def repeatedItems : List Json → List Json
  | [] => []
  | v :: items => repeated v :: repeatedItems items

/-- The fields of an object as they are repeated. -/
def repeatedFields : List (Wide × Json) → List (Wide × Json)
  | [] => []
  | (name, v) :: fields =>
    if isPrivate name then repeatedFields fields else (name, repeated v) :: repeatedFields fields

end

/-- A problem with a field, as a response tells it. -/
def fieldErrorJson (e : Validation.FieldError) : Json :=
  let ctx := (e.problem.context?.map fun c => ("ctx", c)).toList
  .record
    ([("type", .text e.problem.code), ("loc", .texts e.place), ("msg", .text e.problem.message),
      ("input", repeated e.input)] ++ ctx)

/-- What is said of a body with bad fields. -/
def fieldErrorsJson (es : List Validation.FieldError) : Json :=
  .object [("detail", .list (es.map fieldErrorJson))]

/-- The response to a body with bad fields. -/
def badFields (es : List Validation.FieldError) : Response := .answer 422 (fieldErrorsJson es)

end CertRenewal.Api
