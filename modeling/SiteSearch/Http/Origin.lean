import SiteSearch.Http.Message

-- Which origins a browser may read answers from.
namespace SiteSearch.Http

inductive OriginPolicy where
  | anywhere
  | listed (origins : List String)
  deriving DecidableEq

def isHeaderText (text : String) : Bool :=
  text.toList.all fun c => (c.toNat ≥ 32 && c.toNat ≠ 127) || c = '\t'

def localOrigins : List String :=
  ["http://localhost:3000", "http://localhost:8080", "http://127.0.0.1:3000",
    "http://127.0.0.1:8080"]

-- The policy of a setting. A star anywhere admits all; a list without a usable origin admits
-- the local machine, as does no list.
def OriginPolicy.ofSetting : Option (List String) → OriginPolicy
  | none => .listed localOrigins
  | some origins =>
    if origins.contains "*" then .anywhere
    else
      match origins.filter isHeaderText with
      | [] => .listed localOrigins
      | usable => .listed usable

namespace OriginPolicy

-- An explicit list may not hold the star: a server that is given one stops where it starts.
def explicit? (origins : List String) : Option OriginPolicy :=
  if origins.contains "*" then none else some (.listed origins)

def local? : Option OriginPolicy :=
  explicit? (localOrigins.filter isHeaderText)

-- The policy as a server puts it together; `none` if it does not start.
def started? : Option (List String) → Option OriginPolicy
  | none => local?
  | some origins =>
    if origins.contains "*" then some .anywhere
    else
      let usable := origins.filter isHeaderText
      if usable.isEmpty then local? else explicit? usable

def allowed? (policy : OriginPolicy) (origin : Option String) : Option String :=
  match policy with
  | .anywhere => some "*"
  | .listed origins => origin.filter origins.contains

def allowedHeader (policy : OriginPolicy) (request : Request) : List (String × String) :=
  ((policy.allowed? (request.header? "origin")).map fun origin =>
    ("access-control-allow-origin", origin)).toList

def preflightHeaders : OriginPolicy → List (String × String)
  | .anywhere =>
    [("access-control-allow-methods", "*"), ("access-control-allow-headers", "*")]
  | .listed _ =>
    [("access-control-allow-methods", "GET,POST,OPTIONS"),
      ("access-control-allow-headers", "content-type,authorization")]

end OriginPolicy

end SiteSearch.Http
