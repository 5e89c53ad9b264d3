import PondSocket.Library.Utf8
import PondSocket.Routing.Parser

namespace PondSocket.Python.RouteParser

open Library
open Library.Utf8 (octets encode)
open Routing (Text Codec Outcome hexPair keyValue)

def unquoteToBytes : Text → List Nat
  | [] => []
  | '%' :: first :: second :: rest =>
    match hexPair first second with
    | some octet => octet :: unquoteToBytes rest
    | none => 37 :: unquoteToBytes (first :: second :: rest)
  | char :: rest => encode char.toNat ++ unquoteToBytes rest

def unquoteRun (run : Text) : Text := (Utf8.decodeLossy (unquoteToBytes run)).map Char.ofNat

def unquoteFrom (run : Text) : Text → Text
  | [] => unquoteRun run
  | char :: rest =>
    if char.toNat < 0x80 then unquoteFrom (run ++ [char]) rest else unquoteRun run ++ char :: unquoteFrom [] rest

def unquote (value : Text) : Text := if '%' ∈ value then unquoteFrom [] value else value

def unquotePlus (value : Text) : Text := unquote (value.map fun char => if char = '+' then ' ' else char)

def parseQs (queryString : Text) : List (Text × Text) :=
  ((queryString.splitOn '&').filter (· ≠ [])).map fun part =>
    (unquotePlus (keyValue part).1, unquotePlus (keyValue part).2)

def codec : Codec Text := ⟨fun value => some (unquote value), unquote, fun query => some (.ok (parseQs query))⟩

def parse (route currentPath : Text) : Outcome Text := Routing.parse codec route currentPath

end PondSocket.Python.RouteParser
