import SiteSearch.Json.Value

-- Requests and responses.
namespace SiteSearch.Http

inductive Method where
  | get
  | head
  | post
  | options
  | other (name : String)
  deriving DecidableEq

def Method.ofName : String → Method
  | "GET" => .get
  | "HEAD" => .head
  | "POST" => .post
  | "OPTIONS" => .options
  | name => .other name

structure Request where
  method : Method := .get
  -- the path with its query string; a scheme and a host may stand in front
  target : String
  -- a value whose bytes are no text is no key, no media type and no origin of any list; any text
  -- beyond ASCII that is in no list stands for it
  headers : List (String × String) := []
  body : List UInt8 := []
  deriving DecidableEq

def Request.header? (request : Request) (name : String) : Option String :=
  (request.headers.find? fun header => header.1.toLower == name).map (·.2)

def isSchemeChar (c : Char) : Bool :=
  c.isAlphanum || c = '+' || c = '-' || c = '.' || c = '~'

def isHostChar (c : Char) : Bool := c ≠ '/' && c ≠ '?' && c ≠ '#'

-- A target from its path on. After a scheme and a host, a path that is left out is the root;
-- a host by itself has no path.
def fromPath (target : List Char) : List Char :=
  let rest := target.dropWhile isSchemeChar
  if "://".toList.isPrefixOf rest then
    let found := (rest.drop 3).dropWhile isHostChar
    if found.head? = some '/' then found else '/' :: found
  else if target.head? = some '/' || target = ['*'] then target
  else []

def Request.targetChars (request : Request) : List Char :=
  (fromPath request.target.toList).takeWhile (· ≠ '#')

def Request.path (request : Request) : List Char :=
  request.targetChars.takeWhile (· ≠ '?')

-- Whether the path starts at the root; a star stands for the whole service and does not.
def Request.isRooted (request : Request) : Bool :=
  request.path.head? = some '/'

def Request.queryString (request : Request) : List Char :=
  (request.targetChars.dropWhile (· ≠ '?')).drop 1

inductive Status where
  | ok
  | badRequest
  | unauthorized
  | notFound
  | methodNotAllowed
  | bodyTooLarge
  | unsupportedMediaType
  | unprocessable
  | tooManyRequests
  | serverError
  deriving DecidableEq

def Status.code : Status → Nat
  | .ok => 200
  | .badRequest => 400
  | .unauthorized => 401
  | .notFound => 404
  | .methodNotAllowed => 405
  | .bodyTooLarge => 413
  | .unsupportedMediaType => 415
  | .unprocessable => 422
  | .tooManyRequests => 429
  | .serverError => 500

def Status.reason : Status → String
  | .ok => "OK"
  | .badRequest => "Bad Request"
  | .unauthorized => "Unauthorized"
  | .notFound => "Not Found"
  | .methodNotAllowed => "Method Not Allowed"
  | .bodyTooLarge => "Payload Too Large"
  | .unsupportedMediaType => "Unsupported Media Type"
  | .unprocessable => "Unprocessable Entity"
  | .tooManyRequests => "Too Many Requests"
  | .serverError => "Internal Server Error"

inductive Body where
  | empty
  | text (value : String)
  | json (value : Json.Value)

structure Response where
  status : Status
  headers : List (String × String) := []
  body : Body := .empty

namespace Response

def withHeader (response : Response) (name value : String) : Response :=
  { response with headers := response.headers ++ [(name, value)] }

def json (status : Status) (value : Json.Value) : Response :=
  { status, headers := [("content-type", "application/json")], body := .json value }

def refusal (status : Status) : Response :=
  { status
    headers := [("content-type", "text/plain; charset=utf-8")]
    body := .text status.reason }

def withoutBody (response : Response) : Response :=
  match response.body with
  | .empty => response
  | .text _ => { response with body := .text "" }
  | .json _ => { response with body := .empty }

end Response

end SiteSearch.Http
