import SiteSearch.Text.Basic
import SiteSearch.Text.Utf8

-- Percent encoding in paths and query strings.
namespace SiteSearch.Http

open Text (hexValue? divide)

def utf8 (text : List Char) : List UInt8 :=
  (String.ofList text).toUTF8.toList

-- A percent sign that no two hexadecimal digits follow stands for itself.
def percentFrom (done : List UInt8) : List UInt8 → List UInt8
  | [] => done.reverse
  | 0x25 :: high :: low :: rest =>
    match hexValue? (Char.ofNat high.toNat), hexValue? (Char.ofNat low.toNat) with
    | some a, some b => percentFrom (UInt8.ofNat (16 * a + b) :: done) rest
    | _, _ => percentFrom (0x25 :: done) (high :: low :: rest)
  | byte :: rest => percentFrom (byte :: done) rest

def percentDecode (text : List Char) : List UInt8 :=
  percentFrom [] (utf8 text)

def decodeSegment? (segment : List Char) : Option String :=
  Text.ofBytes? (percentDecode segment)

-- Bytes that are no text become replacement characters.
def formDecode (text : List Char) : String :=
  let spaced := text.map fun c => if c = '+' then ' ' else c
  String.ofList ((Text.symbols (percentDecode spaced)).map (·.getD '\ufffd'))

def formPair (text : List Char) : String × String :=
  (formDecode (text.takeWhile (· ≠ '=')), formDecode ((text.dropWhile (· ≠ '=')).drop 1))

def formPairs (text : List Char) : List (String × String) :=
  ((divide '&' text).filter (!·.isEmpty)).map formPair

end SiteSearch.Http
