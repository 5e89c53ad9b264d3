import Mathlib.Data.List.TakeWhile
import PondSocket.Library.JsonText
import PondSocket.Library.OrderedMap

namespace PondSocket.Routing

open Library Option

abbrev Text := List Char

def hexPair (first second : Char) : Option Nat :=
  match JsonText.hexValue first, JsonText.hexValue second with
  | some upper, some lower => some (upper * 16 + lower)
  | _, _ => none

-- What stands behind a percent sign, two characters at most.
def marks : Text → List Text
  | [] => []
  | char :: rest => if char = '%' then rest.take 2 :: marks rest else marks rest

def isAscii (text : Text) : Bool := text.all fun char => decide (char.toNat < 0x80)

def keyValue (part : Text) : Text × Text := (part.takeWhile (· ≠ '='), (part.dropWhile (· ≠ '=')).drop 1)

def squeezeSlashes : Text → Text
  | [] => []
  | '/' :: '/' :: rest => squeezeSlashes ('/' :: rest)
  | char :: rest => char :: squeezeSlashes rest

def splitPath (path : Text) : List Text :=
  let trimmed := ((path.dropWhile (· = '/')).reverse.dropWhile (· = '/')).reverse
  let squeezed := squeezeSlashes trimmed
  if squeezed.isEmpty then [] else squeezed.splitOn '/'

inductive SegmentMatch
  | binds (name value : Text)
  | literal
  | differs

def matchSegment (routeSeg pathSeg : Text) : SegmentMatch :=
  if routeSeg.head? = some ':' then .binds (routeSeg.drop 1) pathSeg
  else if ':' ∈ routeSeg then
    let before := routeSeg.takeWhile (· ≠ ':')
    if before.isPrefixOf pathSeg then
      .binds ((routeSeg.dropWhile (· ≠ ':')).drop 1) (pathSeg.drop before.length)
    else .differs
  else if routeSeg = pathSeg then .literal
  else .differs

inductive ParseError
  | invalidQuery
  | noMatch (route currentPath : Text)

def ParseError.message : ParseError → Text
  | .invalidQuery => "invalid query string".toList
  | .noMatch route currentPath => "route ".toList ++ route ++ " does not match path ".toList ++ currentPath

structure Route (V : Type) where
  params : OrderedMap Text V
  query : List (V × V)
  wildcard : Option V

inductive Outcome (V : Type)
  | panicked
  | refused (error : ParseError)
  | routed (route : Route V)

-- What a port decodes with; none is a panic, which only a parameter or the query can bring about.
structure Codec (V : Type) where
  param : Text → Option V
  whole : Text → V
  query : Text → Option (Except ParseError (List (V × V)))

section

variable {V : Type}

def matchPairs (decode : Text → Option V) : List (Text × Text) → OrderedMap Text V →
    Option (Bool × OrderedMap Text V)
  | [], params => some (true, params)
  | (routeSeg, pathSeg) :: rest, params =>
    match matchSegment routeSeg pathSeg with
    | .binds name value =>
      match decode value with
      | none => none
      | some decoded => matchPairs decode rest (params.set name decoded)
    | .literal => matchPairs decode rest params
    | .differs => some (false, params)

def matchSegments (decode : Text → Option V) (routeSegments pathSegments : List Text) :
    Option (Bool × OrderedMap Text V) :=
  if routeSegments.length > pathSegments.length then some (false, .empty)
  else matchPairs decode (routeSegments.zip pathSegments) .empty

-- The segments to be matched, and what the wildcard takes: nothing where the path ends before it.
structure Layout where
  routeSegments : List Text
  pathSegments : List Text
  rest : Option Text

def layout (route path : Text) : Option Layout :=
  let routes := splitPath route
  let paths := splitPath path
  match routes.idxOf? ['*'] with
  | some index => some ⟨routes.take index, paths.take index, some (['/'].intercalate (paths.drop index))⟩
  | none => if routes.length = paths.length then some ⟨routes, paths, none⟩ else none

def pathOf (currentPath : Text) : Text := currentPath.takeWhile (· ≠ '?')

def queryOf (currentPath : Text) : Text := (currentPath.dropWhile (· ≠ '?')).drop 1

def orRoot (currentPath : Text) : Text := if currentPath = [] then ['/'] else currentPath

def parse (codec : Codec V) (route currentPath : Text) : Outcome V :=
  match codec.query (queryOf (orRoot currentPath)) with
  | none => .panicked
  | some (.error error) => .refused error
  | some (.ok query) =>
    match layout route (pathOf (orRoot currentPath)) with
    | none => .refused (.noMatch route (orRoot currentPath))
    | some laid =>
      match matchSegments codec.param laid.routeSegments laid.pathSegments with
      | none => .panicked
      | some (true, params) => .routed ⟨params, query, laid.rest.map codec.whole⟩
      | some (false, _) => .refused (.noMatch route (orRoot currentPath))

def bindings : List (Text × Text) → List (Text × Text)
  | [] => []
  | (routeSeg, pathSeg) :: rest =>
    match matchSegment routeSeg pathSeg with
    | .binds name value => (name, value) :: bindings rest
    | .literal => bindings rest
    | .differs => []

def fits : List (Text × Text) → Bool
  | [] => true
  | (routeSeg, pathSeg) :: rest =>
    match matchSegment routeSeg pathSeg with
    | .differs => false
    | _ => fits rest

def Layout.pairs (laid : Layout) : Option (List (Text × Text)) :=
  if laid.routeSegments.length > laid.pathSegments.length then none
  else some (laid.routeSegments.zip laid.pathSegments)

def pairsOf (route currentPath : Text) : Option (List (Text × Text)) :=
  (layout route (pathOf (orRoot currentPath))).bind Layout.pairs

def bound (route currentPath : Text) : List (Text × Text) := ((pairsOf route currentPath).map bindings).getD []

def matched (route currentPath : Text) : Bool := ((pairsOf route currentPath).map fits).getD false

def rest (route currentPath : Text) : Option Text :=
  (layout route (pathOf (orRoot currentPath))).bind Layout.rest

def setAll (decode : Text → Option V) : List (Text × Text) → OrderedMap Text V → Option (OrderedMap Text V)
  | [], params => some params
  | (name, value) :: later, params =>
    match decode value with
    | none => none
    | some decoded => setAll decode later (params.set name decoded)

def lastValue (name : Text) : List (Text × Text) → Option Text
  | [] => none
  | (other, value) :: later => (lastValue name later).or (if other = name then some value else none)

variable {decode : Text → Option V}

theorem match_pairs_eq (pairs : List (Text × Text)) (params : OrderedMap Text V) :
    matchPairs decode pairs params = (setAll decode (bindings pairs) params).map fun set => (fits pairs, set) := by
  induction pairs generalizing params with
  | nil => rfl
  | cons pair _ ih =>
    obtain ⟨routeSeg, pathSeg⟩ := pair
    simp only [matchPairs, bindings, fits]
    cases matchSegment routeSeg pathSeg with
    | binds _ value =>
      simp only [setAll]
      cases decode value with
      | none => rfl
      | some => exact ih _
    | literal => exact ih params
    | differs => rfl

theorem set_all_none {bindings : List (Text × Text)} (params : OrderedMap Text V) :
    setAll decode bindings params = none ↔ ∃ binding ∈ bindings, decode binding.2 = none := by
  induction bindings generalizing params with
  | nil => simp [setAll]
  | cons binding _ ih =>
    simp only [setAll, List.mem_cons, exists_eq_or_imp]
    cases decode binding.2 with
    | none => simp
    | some => simpa using ih _

theorem set_all_get {bindings : List (Text × Text)} (params : OrderedMap Text V) {set : OrderedMap Text V} {name : Text}
    (done : setAll decode bindings params = some set) :
    set.get? name = (lastValue name bindings).elim (params.get? name) decode := by
  induction bindings generalizing params with
  | nil =>
    cases done
    rfl
  | cons binding later ih =>
    simp only [setAll] at done
    split at done
    · cases done
    next decoded read =>
      rw [ih _ done, lastValue]
      cases lastValue name later with
      | some => rfl
      | none =>
        by_cases same : binding.1 = name
        · simp [same, read]
        · simp [same, OrderedMap.get_set_other fun other => same other.symm]

theorem parse_eq (codec : Codec V) (route currentPath : Text) :
    parse codec route currentPath =
      match codec.query (queryOf (orRoot currentPath)) with
      | none => .panicked
      | some (.error error) => .refused error
      | some (.ok query) =>
        match setAll codec.param (bound route currentPath) .empty with
        | none => .panicked
        | some params =>
          if matched route currentPath then
            .routed ⟨params, query, (rest route currentPath).map codec.whole⟩
          else .refused (.noMatch route (orRoot currentPath)) := by
  unfold parse bound matched rest pairsOf
  cases codec.query (queryOf (orRoot currentPath)) with
  | none => rfl
  | some read =>
    cases read with
    | error => rfl
    | ok =>
      cases layout route (pathOf (orRoot currentPath)) with
      | none => rfl
      | some laid =>
        simp only [matchSegments, bind_some, Layout.pairs]
        by_cases longer : laid.routeSegments.length > laid.pathSegments.length
        · simp [longer, setAll]
        simp only [longer, if_false, match_pairs_eq, map_some, getD_some]
        cases setAll codec.param (bindings (laid.routeSegments.zip laid.pathSegments)) .empty with
        | none => rfl
        | some => cases fits (laid.routeSegments.zip laid.pathSegments) <;> rfl

variable {path : Text}

theorem query_bare (bare : '?' ∉ path) : queryOf (orRoot path) = [] := by
  have free : '?' ∉ orRoot path := by
    unfold orRoot
    split
    · decide
    · exact bare
  have none : (orRoot path).dropWhile (· ≠ '?') = [] := by
    rw [List.dropWhile_eq_nil_iff]
    intro char member
    simpa using fun same : char = '?' => free (same ▸ member)
  rw [queryOf, none]
  rfl

variable (codec : Codec V) (empty : codec.query [] = some (.ok []))
include empty

theorem parse_bare {route : Text} (bare : '?' ∉ path) (params : OrderedMap Text V)
    (set : setAll codec.param (bound route path) .empty = some params) :
    parse codec route path =
      if matched route path then .routed ⟨params, [], (rest route path).map codec.whole⟩
      else .refused (.noMatch route (orRoot path)) := by
  rw [parse_eq, query_bare bare, empty]
  simp [set]

theorem parse_bare_panics {route : Text} (bare : '?' ∉ path)
    (panics : setAll codec.param (bound route path) .empty = none) : parse codec route path = .panicked := by
  rw [parse_eq, query_bare bare, empty]
  simp [panics]

end

end PondSocket.Routing
