import Untypeset.Session
import Untypeset.Web.Json

/-!
The web service: one resource that tells that the service is up, one that converts the markup of a JSON body, and pages
that describe both. A path is compared as it stands, one line break behind it apart.
-/

namespace Untypeset.Web

open Untypeset.Text

/-- a request as the service sees it -/
structure HttpRequest where
  method : String
  path : String
  body : List UInt8

/-- a response of the service -/
inductive Response where
  | healthy
  | converted (shape : Rendering.Shape) (latex : Latex)
  | refused (message : List Char)
  /-- the description of the service, whose content is not laid down -/
  | described
  /-- the path without the slashes at its end is that of a resource -/
  | redirected
  /-- the body is no text, or holds a number that cannot be read -/
  | unreadableBody
  /-- the body holds no markup -/
  | unprocessable
  | notFound
  | methodNotAllowed
  /-- the markup in the body cannot be read -/
  | failed (fault : Markup.Fault)
  deriving DecidableEq, Repr

namespace Response

/-- the status code of a response -/
def status : Response → Nat
  | .healthy | .converted .. | .described => 200
  | .redirected => 307
  | .refused _ | .unreadableBody => 400
  | .unprocessable => 422
  | .notFound => 404
  | .methodNotAllowed => 405
  | .failed _ => 500

/-- the members of the object that a response carries; of some responses no content is laid down -/
def members : Response → Option (List (String × List Char))
  | .healthy => some [("status", "ok".toList)]
  | .converted shape latex =>
    some [("status", "success".toList), ("latex", latex), ("format", shape.name.toList)]
  | .refused message => some [("status", "error".toList), ("message", message)]
  | .unreadableBody => some [("detail", "There was an error parsing the body".toList)]
  | .notFound => some [("detail", "Not Found".toList)]
  | .methodNotAllowed => some [("detail", "Method Not Allowed".toList)]
  | .described | .redirected | .unprocessable | .failed _ => none

end Response

/-- the resources -/
inductive Resource where
  | health
  | conversion
  | description
  deriving DecidableEq, Repr

namespace Resource

/-- the methods that a resource answers to -/
def methods : Resource → List String
  | .health => ["GET"]
  | .conversion => ["POST"]
  | .description => ["GET", "HEAD"]

/-- the paths of the resources -/
def paths : List (String × Resource) :=
  [("/health", .health), ("/convert", .conversion), ("/docs", .description), ("/redoc", .description),
   ("/openapi.json", .description), ("/docs/oauth2-redirect", .description)]

/-- the resource at a path; one line break behind the path is overlooked -/
def atPath? (path : List Char) : Option Resource :=
  (paths.find? fun entry => path = entry.1.toList || path = entry.1.toList ++ ['\n']).map (·.2)

/-- whether a path that ends in slashes is that of a resource without them -/
def isNear (path : List Char) : Bool :=
  path.getLast? == some '/' && (atPath? (dropEndWhile (· == '/') path)).isSome

end Resource

/-- why the body of a request cannot be used -/
inductive BodyError where
  | unreadable
  | unsuitable
  deriving DecidableEq, Repr

/-- the response to a request whose body cannot be used -/
def BodyError.response : BodyError → Response
  | .unreadable => .unreadableBody
  | .unsuitable => .unprocessable

/-- the markup in the body of a request for a conversion -/
def markupOf (body : List UInt8) : Except BodyError String :=
  match decodeBytes? body with
  | none => .error .unreadable
  | some text =>
    match Json.parse text with
    | .error .longInteger => .error .unreadable
    | .error .malformed => .error .unsuitable
    | .ok value =>
      match value.member? "markup" with
      | some (.text content) => .ok (String.ofList content)
      | _ => .error .unsuitable

/-- converts markup and says what came of it -/
def convertMarkup (session : Session) (markup : String) : Session × Noted Response :=
  let (next, noted) := session.convert (some markup)
  match noted.value with
  | .converted shape latex => (next, ⟨.converted shape latex, noted.notes⟩)
  | .unreadable fault => (next, ⟨.failed fault, noted.notes⟩)
  | outcome => (next, ⟨.refused outcome.text, noted.notes ++ [.refused outcome.text]⟩)

/-- answers one request -/
def respond (session : Session) (request : HttpRequest) : Session × Noted Response :=
  match Resource.atPath? request.path.toList with
  | none => (session, ⟨if Resource.isNear request.path.toList then .redirected else .notFound, []⟩)
  | some resource =>
    if !resource.methods.contains request.method then (session, ⟨.methodNotAllowed, []⟩)
    else
      match resource with
      | .health => (session, ⟨.healthy, []⟩)
      | .description => (session, ⟨.described, []⟩)
      | .conversion =>
        match markupOf request.body with
        | .error cause => (session, ⟨cause.response, []⟩)
        | .ok markup => convertMarkup session markup

/-- the responses to some requests, one after the other -/
def responses (session : Session) : List HttpRequest → List Response
  | [] => []
  | request :: rest => (respond session request).2.value :: responses (respond session request).1 rest

end Untypeset.Web
