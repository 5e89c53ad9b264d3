import PondSocket.Library.Utf8
import PondSocket.Routing.Parser

namespace PondSocket.Go.RouteParser

open Library
open Library.Utf8 (octets encode)
open Routing (Text Codec Outcome ParseError hexPair keyValue)

-- url.QueryUnescape: a percent sign without two hex digits refuses the whole text.
def queryUnescape : Text → Option (List Nat)
  | [] => some []
  | '%' :: first :: second :: rest =>
    match hexPair first second with
    | some octet => (queryUnescape rest).map (octet :: ·)
    | none => none
  | '%' :: _ => none
  | '+' :: rest => (queryUnescape rest).map (32 :: ·)
  | char :: rest => (queryUnescape rest).map (encode char.toNat ++ ·)

def unescaped (value : Text) : List Nat := (queryUnescape value).getD (octets value)

-- url.ParseQuery reads on after a bad part, but parse gives up on its error.
def readParts : List Text → Option (List (List Nat × List Nat))
  | [] => some []
  | part :: rest =>
    if ';' ∈ part then none
    else if part = [] then readParts rest
    else
      match queryUnescape (keyValue part).1, queryUnescape (keyValue part).2, readParts rest with
      | some key, some value, some later => some ((key, value) :: later)
      | _, _, _ => none

def parseQuery (queryString : Text) : Except ParseError (List (List Nat × List Nat)) :=
  match readParts (queryString.splitOn '&') with
  | some query => .ok query
  | none => .error .invalidQuery

-- Go's values are octets, which need not be UTF-8.
def codec : Codec (List Nat) := ⟨fun value => some (unescaped value), unescaped, fun query => some (parseQuery query)⟩

def parse (route currentPath : Text) : Routing.Outcome (List Nat) := Routing.parse codec route currentPath

end PondSocket.Go.RouteParser
