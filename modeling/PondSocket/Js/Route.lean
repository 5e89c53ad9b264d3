import PondSocket.Js.Uri
import PondSocket.Library.Capture
import PondSocket.Library.OrderedMap

namespace PondSocket.Js

open Library

structure PondRouteError where
  message : JsString
  route : JsString
deriving DecidableEq

def PondRouteError.create (message route : JsString) : PondRouteError :=
  ⟨js "Invalid PondSocket route \"" ++ route ++ js "\": " ++ message, route⟩

inductive RouteThrown where
  | pondRouteError (thrown : PondRouteError)
  | syntaxError
  | uriError
deriving DecidableEq

def refuse {Value : Type} (message : String) (route : JsString) : Except RouteThrown Value :=
  .error (.pondRouteError (.create (js message) route))

@[match_pattern] abbrev caret : CodeUnit := 94

@[match_pattern] abbrev dollar : CodeUnit := 36

@[match_pattern] abbrev backslash : CodeUnit := 92

@[match_pattern] abbrev dot : CodeUnit := 46

@[match_pattern] abbrev asterisk : CodeUnit := 42

@[match_pattern] abbrev plus : CodeUnit := 43

@[match_pattern] abbrev openRound : CodeUnit := 40

@[match_pattern] abbrev closeRound : CodeUnit := 41

@[match_pattern] abbrev openSquare : CodeUnit := 91

@[match_pattern] abbrev closeSquare : CodeUnit := 93

@[match_pattern] abbrev solidus : CodeUnit := 47

-- . * + ? ^ $ { } ( ) | [ ] \
def isSyntaxCharacter (unit : CodeUnit) : Bool :=
  [46, 42, 43, 63, 94, 36, 123, 125, 40, 41, 124, 91, 93, 92].contains unit

def escapeRegExp (value : JsString) : JsString :=
  value.flatMap (fun unit => if isSyntaxCharacter unit then [backslash, unit] else [unit])

def isLineTerminatorUnit (unit : CodeUnit) : Bool :=
  [10, 13, 0x2028, 0x2029].contains unit

def dotAccepts (unit : CodeUnit) : Bool :=
  !isLineTerminatorUnit unit

def notSlash (unit : CodeUnit) : Bool :=
  unit != slash

abbrev RegExp := List (Node CodeUnit)

-- new RegExp, for what parseSegments can write: (.*), ([^/]+), an escaped syntax
-- character, any other character, and the end.
def readTerms : JsString → Option RegExp
  | [] => none
  | [dollar] => some []
  | openRound :: dot :: asterisk :: closeRound :: rest =>
    (readTerms rest).map (.group dotAccepts 0 :: ·)
  | openRound :: openSquare :: caret :: solidus :: closeSquare :: plus :: closeRound :: rest =>
    (readTerms rest).map (.group notSlash 1 :: ·)
  | backslash :: unit :: rest =>
    if isSyntaxCharacter unit then (readTerms rest).map (.plain unit :: ·) else none
  | unit :: rest =>
    if isSyntaxCharacter unit then none else (readTerms rest).map (.plain unit :: ·)

def newRegExp : JsString → Option RegExp
  | caret :: rest => readTerms rest
  | _ => none

structure CompiledRoute where
  keys : List JsString
  regexp : RegExp
  route : JsString

def isIdentifierStart (unit : CodeUnit) : Bool :=
  decide (65 ≤ unit ∧ unit ≤ 90 ∨ 97 ≤ unit ∧ unit ≤ 122 ∨ unit = 95)

def isIdentifierPart (unit : CodeUnit) : Bool :=
  isIdentifierStart unit || decide (48 ≤ unit ∧ unit ≤ 57)

def isIdentifier : JsString → Bool
  | [] => false
  | first :: rest => isIdentifierStart first && rest.all isIdentifierPart

def startsWith (text : JsString) (unit : CodeUnit) : Bool :=
  text.head? == some unit

def segmentPart (route : JsString) (keys : List JsString) (segment : JsString) :
    Except RouteThrown (List JsString × JsString) :=
  if segment = [star] then
    if keys.contains [star] then refuse "a wildcard can only appear once" route
    else .ok (keys ++ [[star]], js "(.*)")
  else if segment.contains star then
    refuse "wildcards must occupy an entire path segment" route
  else if startsWith segment colon then
    if !isIdentifier (segment.drop 1) then
      refuse "parameter names must be non-empty JavaScript identifiers" route
    else if keys.contains (segment.drop 1) then
      .error (.pondRouteError
        (.create (js "duplicate parameter \"" ++ segment.drop 1 ++ js "\"") route))
    else .ok (keys ++ [segment.drop 1], js "([^/]+)")
  else if segment.contains colon then
    refuse "parameters must occupy an entire path segment" route
  else .ok (keys, escapeRegExp segment)

def segmentParts (route : JsString) (keys : List JsString) :
    List JsString → Except RouteThrown (List JsString × List JsString)
  | [] => .ok (keys, [])
  | segment :: rest =>
    match segmentPart route keys segment with
    | .error thrown => .error thrown
    | .ok (known, part) =>
      match segmentParts route known rest with
      | .error thrown => .error thrown
      | .ok (all, parts) => .ok (all, part :: parts)

def parseSegments (route : JsString) : Except RouteThrown (List JsString × RegExp) :=
  if route.contains questionMark then
    refuse "query strings are not allowed in route declarations" route
  else
    match segmentParts route [] (split slash route) with
    | .error thrown => .error thrown
    | .ok (keys, regexpParts) =>
      match newRegExp (caret :: join slash regexpParts ++ [dollar]) with
      | none => .error .syntaxError
      | some regexp => .ok (keys, regexp)

def compilePondRoute (route : JsString) : Except RouteThrown CompiledRoute :=
  match parseSegments route with
  | .error thrown => .error thrown
  | .ok (keys, regexp) => .ok ⟨keys, regexp, route⟩

abbrev Params := OrderedMap JsString JsString

structure EventParams where
  params : Params
  query : Params
deriving DecidableEq

-- Assigning a string to the inherited __proto__ of an object literal does nothing.
def assignProperty (object : Params) (key value : JsString) : Params :=
  if key = js "__proto__" then object else object.set key value

def collapseSlashes : JsString → JsString
  | [] => []
  | [unit] => [unit]
  | first :: second :: rest =>
    if first = slash ∧ second = slash then collapseSlashes (second :: rest)
    else first :: collapseSlashes (second :: rest)

def stripSlashes (value : JsString) : JsString :=
  value.dropWhile (· = slash)

-- The groups are numbered from zero here: match[0] is the whole path.
def reduceKeys (groups : List JsString) :
    List JsString → Nat → Params → Except RouteThrown Params
  | [], _, result => .ok result
  | key :: keys, index, result =>
    let rawValue := (groups[index]?).getD []
    if key = [star] then
      reduceKeys groups keys (index + 1)
        (assignProperty result key (collapseSlashes (slash :: rawValue)))
    else
      match decodeURIComponent rawValue with
      | none => .error .uriError
      | some value => reduceKeys groups keys (index + 1) (assignProperty result key value)

def parseQuery (queryString : JsString) : Params :=
  (searchParams queryString).foldl (fun query entry => assignProperty query entry.1 entry.2)
    OrderedMap.empty

def parsePondRoute (route address : JsString) : Except RouteThrown (Option EventParams) :=
  match compilePondRoute route with
  | .error thrown => .error thrown
  | .ok compiled =>
    let pieces := split questionMark address
    let path := pieces.headD []
    let queryString := (pieces[1]?).getD []
    match capture compiled.regexp path with
    | none => .ok none
    | some groups =>
      match reduceKeys groups compiled.keys 0 OrderedMap.empty with
      | .error thrown => .error thrown
      | .ok params => .ok (some ⟨params, parseQuery queryString⟩)

def segmentKey (segment : JsString) : Option JsString :=
  if segment = [star] then some [star]
  else if startsWith segment colon then some (segment.drop 1)
  else none

-- params gives the value of a property where that is a string.
def buildSegment (route : JsString) (params : JsString → Option JsString) (segment : JsString) :
    Except RouteThrown JsString :=
  match segmentKey segment with
  | none | some [] => .ok segment
  | some key =>
    match params key with
    | none | some [] =>
      .error (.pondRouteError
        (.create (js "missing value for parameter \"" ++ key ++ js "\"") route))
    | some value =>
      if key = [star] then .ok (stripSlashes value)
      else
        match encodeURIComponent value with
        | none => .error .uriError
        | some encoded => .ok encoded

def buildSegments (route : JsString) (params : JsString → Option JsString) :
    List JsString → Except RouteThrown (List JsString)
  | [] => .ok []
  | segment :: rest =>
    match buildSegment route params segment with
    | .error thrown => .error thrown
    | .ok text =>
      match buildSegments route params rest with
      | .error thrown => .error thrown
      | .ok texts => .ok (text :: texts)

def buildPondRoute (route : JsString) (params : JsString → Option JsString) :
    Except RouteThrown JsString :=
  match compilePondRoute route with
  | .error thrown => .error thrown
  | .ok _ =>
    match buildSegments route params (split slash route) with
    | .error thrown => .error thrown
    | .ok texts => .ok (join slash texts)

end PondSocket.Js
