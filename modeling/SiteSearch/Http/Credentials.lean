import SiteSearch.Http.Message

-- The key that a server may ask of its clients.
namespace SiteSearch.Http

def padded (size : Nat) (bytes : List UInt8) : List UInt8 :=
  bytes ++ List.replicate (size - bytes.length) 0

-- The time this takes depends on the longer key only.
def keysMatch (provided expected : String) : Bool :=
  let a := provided.toUTF8.toList
  let b := expected.toUTF8.toList
  let size := max a.length b.length
  let difference := (List.zipWith (· ^^^ ·) (padded size a) (padded size b)).foldl (· ||| ·) 0
  difference == 0 && a.length == b.length

def isPlainText (text : String) : Bool :=
  text.toList.all fun c => (c.toNat ≥ 32 && c.toNat < 127) || c = '\t'

def bearer : String := "Bearer "

def providedKey (header : String) : String :=
  if bearer.toList.isPrefixOf header.toList then
    String.ofList (header.toList.drop bearer.length)
  else header

def carriesKey (expected : String) (request : Request) : Bool :=
  match (request.header? "authorization").filter isPlainText with
  | some header => keysMatch (providedKey header) expected
  | none => false

def healthPath : List Char := "/health".toList

def authorized (key : Option String) (request : Request) : Bool :=
  match key with
  | none => true
  | some expected => request.path == healthPath || carriesKey expected request

def keyOfSetting (setting : Option String) : Option String :=
  setting.filter (!·.isEmpty)

end SiteSearch.Http
