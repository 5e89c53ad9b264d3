import PondSocket.Js.RouteGrammar

namespace PondSocket.Js

open Library List Option List.Forall₂

variable (segments texts : List JsString)

-- The text of an address before its first question mark.
def addressPath (address : JsString) : JsString :=
  address.takeWhile (· ≠ questionMark)

def addressQuery (address : JsString) : JsString :=
  ((split questionMark address)[1]?).getD []

-- The path of an address, written with the segments of a route.
def Decomposes (route address : JsString) (texts : List JsString) : Prop :=
  List.Forall₂ Stands (split slash route) texts ∧ join slash texts = addressPath address

def proto : JsString := js "__proto__"

-- What a parameter is given for the raw text of its group.
def paramValue (key raw : JsString) : Option JsString :=
  if key = [star] then some (collapseSlashes (slash :: raw)) else decodeURIComponent raw

def placeParams : List (JsString × JsString) → Params → Option Params
  | [], result => some result
  | (key, raw) :: rest, result =>
    match paramValue key raw with
    | none => none
    | some value => placeParams rest (assignProperty result key value)

def keyedTexts (segments texts : List JsString) : List (JsString × JsString) :=
  (segments.zip texts).filterMap (fun pair => (segmentKey pair.1).map (fun key => (key, pair.2)))

theorem assign_get (object : Params) (key value query : JsString) :
    (assignProperty object key value).get? query =
      if query = key ∧ key ≠ proto then some value else object.get? query := by
  change (if key = proto then object else object.set key value).get? query = _
  split
  · next special => simp [special]
  · next plain => simp [OrderedMap.get_set, plain]

variable {raw key : JsString} {pairs : List (JsString × JsString)} {final : Params}

theorem place_values (result : Params) (placed : placeParams pairs result = some final) (member : (key, raw) ∈ pairs) :
    ∃ value, paramValue key raw = some value := by
  induction pairs generalizing result with
  | nil => cases member
  | cons _ _ ih =>
    unfold placeParams at placed
    split at placed
    · cases placed
    next value one =>
    rcases mem_cons.mp member with same | later
    · exact ⟨value, by rw [← one, ← same]⟩
    · exact ih _ placed later

theorem place_some (pairs : List (JsString × JsString)) (result : Params)
    (values : ∀ key raw, (key, raw) ∈ pairs → ∃ value, paramValue key raw = some value) :
    ∃ final, placeParams pairs result = some final := by
  induction pairs generalizing result with
  | nil => exact ⟨result, rfl⟩
  | cons pair _ ih =>
    obtain ⟨value, one⟩ := values pair.1 pair.2 mem_cons_self
    obtain ⟨final, placed⟩ := ih (assignProperty result pair.1 value)
      (fun key raw member => values key raw (mem_cons_of_mem _ member))
    exact ⟨final, by rw [placeParams, one]; exact placed⟩

theorem place_other (result : Params) (placed : placeParams pairs result = some final) {query : JsString}
    (absent : query ∉ pairs.map Prod.fst ∨ query = proto) : final.get? query = result.get? query := by
  induction pairs generalizing result with
  | nil =>
    cases placed
    rfl
  | cons _ rest ih =>
    unfold placeParams at placed
    split at placed
    · cases placed
    next value one =>
    have later : query ∉ rest.map Prod.fst ∨ query = proto :=
      absent.imp_left (fun free member => free (mem_cons_of_mem _ member))
    rw [ih _ placed later, assign_get, if_neg]
    rintro ⟨same, plain⟩
    rcases absent with free | special
    · exact free (same ▸ mem_cons_self)
    · exact plain (same ▸ special)

theorem place_get (result : Params) (distinct : (pairs.map Prod.fst).Nodup)
    (placed : placeParams pairs result = some final) (member : (key, raw) ∈ pairs) (plain : key ≠ proto) :
    final.get? key = paramValue key raw := by
  induction pairs generalizing result with
  | nil => cases member
  | cons _ _ ih =>
    rw [map_cons, nodup_cons] at distinct
    unfold placeParams at placed
    split at placed
    · cases placed
    next value one =>
    rcases mem_cons.mp member with same | later
    · subst same
      rw [place_other _ placed (.inl distinct.1), assign_get, if_pos ⟨rfl, plain⟩, one]
    · exact ih _ distinct.2 placed later

theorem keyed_keys (lengths : segments.length = texts.length) :
    (keyedTexts segments texts).map Prod.fst = segments.filterMap segmentKey := by
  induction segments generalizing texts with
  | nil => rfl
  | cons segment _ ih =>
    cases texts with
    | nil => cases lengths
    | cons _ texts =>
      have later := ih texts (Nat.succ.inj lengths)
      unfold keyedTexts at later ⊢
      cases key : segmentKey segment <;> simp [key, later]

theorem group_texts (lengths : segments.length = texts.length) :
    groupTexts segments texts = (keyedTexts segments texts).map Prod.snd := by
  induction segments generalizing texts with
  | nil => rfl
  | cons segment _ ih =>
    cases texts with
    | nil => cases lengths
    | cons _ texts =>
      have later := ih texts (Nat.succ.inj lengths)
      unfold keyedTexts at later ⊢
      cases key : segmentKey segment <;> simp [groupTexts, key, later]

theorem mem_keyed :
    (key, raw) ∈ keyedTexts segments texts ↔
      ∃ segment, (segment, raw) ∈ segments.zip texts ∧ segmentKey segment = some key := by
  unfold keyedTexts
  rw [mem_filterMap]
  constructor
  · rintro ⟨⟨segment, _⟩, member, made⟩
    obtain ⟨_, known, same⟩ := map_eq_some_iff.mp made
    cases same
    exact ⟨segment, member, known⟩
  · rintro ⟨segment, member, known⟩
    exact ⟨(segment, raw), member, by rw [known]; rfl⟩

theorem reduce_keys (pairs before : List (JsString × JsString)) (result : Params) :
    reduceKeys ((before ++ pairs).map Prod.snd) (pairs.map Prod.fst) before.length result =
      match placeParams pairs result with
      | none => .error .uriError
      | some params => .ok params := by
  induction pairs generalizing before result with
  | nil => rfl
  | cons pair rest ih =>
    have raw : (((before ++ pair :: rest).map Prod.snd)[before.length]?).getD [] = pair.2 := by
      rw [map_append, getElem?_append_right (by simp), length_map, Nat.sub_self]
      rfl
    have onward : before ++ pair :: rest = (before ++ [pair]) ++ rest := by simp
    have length : (before ++ [pair]).length = before.length + 1 := by simp
    have later := ih (before ++ [pair])
    rw [← onward, length] at later
    rw [map_cons, reduceKeys, raw, placeParams]
    simp only [later]
    unfold paramValue
    split
    · rfl
    · cases decodeURIComponent pair.2 <;> rfl

variable {address : JsString} {found : EventParams}

section Accepted

variable {route : JsString} {compiled : CompiledRoute}
  (accepted : compilePondRoute route = .ok compiled)

include accepted

theorem accepted_kinds : ∀ segment ∈ split slash route, SegmentKind segment :=
  (accepted_route accepted).2.1

theorem accepted_distinct : ((split slash route).filterMap segmentKey).Nodup := by
  obtain ⟨_, _, keys, distinct, _⟩ := accepted_route accepted
  rw [← keys]
  exact distinct

theorem accepted_fits (address : JsString) (taken : List JsString) :
    Captures compiled.regexp (addressPath address) taken ↔ ∃ texts, List.Forall₂ Fits (split slash route) texts ∧
        join slash texts = addressPath address ∧ taken = groupTexts (split slash route) texts := by
  rw [(accepted_route accepted).2.2.2.2]
  exact captures_route split_some (accepted_kinds accepted) (addressPath address) taken

theorem stands_unique (address : JsString) (texts others : List JsString)
    (left : Decomposes route address texts) (right : Decomposes route address others) :
    texts = others :=
  join_unique split_some (accepted_kinds accepted) (fun segment member => split_free_pieces slash route segment member)
    (accepted_distinct accepted) left.1 right.1 (left.2.trans right.2.symm)

theorem parse_captures (address : JsString) :
    parsePondRoute route address =
      match capture compiled.regexp (addressPath address) with
      | none => .ok none
      | some groups =>
        match reduceKeys groups compiled.keys 0 OrderedMap.empty with
        | .error thrown => .error thrown
        | .ok params => .ok (some ⟨params, parseQuery (addressQuery address)⟩) := by
  unfold parsePondRoute
  rw [accepted]
  simp only [split_first]
  rfl

theorem parse_fits (address : JsString) (texts : List JsString) (fits : List.Forall₂ Fits (split slash route) texts)
    (joined : join slash texts = addressPath address) :
    parsePondRoute route address =
      match placeParams (keyedTexts (split slash route) texts) OrderedMap.empty with
      | none => .error .uriError
      | some params => .ok (some ⟨params, parseQuery (addressQuery address)⟩) := by
  have lengths := length_eq fits
  have matched : Captures compiled.regexp (addressPath address) (groupTexts (split slash route) texts) :=
    (accepted_fits accepted address _).mpr ⟨texts, fits, joined, rfl⟩
  have groups : capture compiled.regexp (addressPath address) = some (groupTexts (split slash route) texts) := by
    obtain ⟨taken, found⟩ := isSome_iff_exists.mp (capture_complete _ matched)
    obtain ⟨others, otherFits, otherJoined, all⟩ :=
      (accepted_fits accepted address taken).mp (capture_sound _ _ _ found)
    have same : others = texts := stands_unique accepted address others texts
      ⟨otherFits.imp (fun _ _ fit => fit.1), otherJoined⟩
      ⟨fits.imp (fun _ _ fit => fit.1), joined⟩
    rw [found, all, same]
  have reduced := reduce_keys (keyedTexts (split slash route) texts) [] OrderedMap.empty
  rw [nil_append, ← group_texts _ _ lengths, keyed_keys _ _ lengths, ← (accepted_route accepted).2.2.1] at reduced
  rw [parse_captures accepted, groups]
  simp only
  rw [show reduceKeys (groupTexts (split slash route) texts) compiled.keys 0 OrderedMap.empty = _ from reduced]
  cases placeParams (keyedTexts (split slash route) texts) OrderedMap.empty <;> rfl

theorem parse_null_iff :
    parsePondRoute route address = .ok none ↔ ¬ ∃ texts, List.Forall₂ Fits (split slash route) texts ∧
        join slash texts = addressPath address := by
  constructor
  · rintro missing ⟨texts, fits, joined⟩
    rw [parse_fits accepted address texts fits joined] at missing
    split at missing <;> cases missing
  · intro none
    rw [parse_captures accepted, (capture_none_iff _ _).mpr]
    intro taken matched
    obtain ⟨texts, fits, joined, _⟩ := (accepted_fits accepted address taken).mp matched
    exact none ⟨texts, fits, joined⟩

theorem parse_found (parsed : parsePondRoute route address = .ok (some found)) :
    ∃ texts, List.Forall₂ Fits (split slash route) texts ∧ join slash texts = addressPath address ∧
      placeParams (keyedTexts (split slash route) texts) OrderedMap.empty = some found.params ∧
      found.query = parseQuery (addressQuery address) := by
  by_cases some : ∃ texts, List.Forall₂ Fits (split slash route) texts ∧ join slash texts = addressPath address
  · obtain ⟨texts, fits, joined⟩ := some
    rw [parse_fits accepted address texts fits joined] at parsed
    split at parsed
    · cases parsed
    next params placed =>
    cases parsed
    exact ⟨texts, fits, joined, placed, rfl⟩
  · rw [(parse_null_iff accepted).mpr some] at parsed
    cases parsed

end Accepted

variable (segments texts : List JsString)

variable {name : JsString}

theorem named_identifier (kind : SegmentKind (colon :: name)) : isIdentifier name := by
  cases kind with
  | named _ identifier => exact identifier
  | literal _ _ bare => exact absurd mem_cons_self bare

theorem named_value (kind : SegmentKind (colon :: name)) : paramValue name raw = decodeURIComponent raw :=
  if_neg (identifier_not_star (named_identifier kind))

theorem keyed_named (member : (colon :: name, raw) ∈ segments.zip texts) : (name, raw) ∈ keyedTexts segments texts :=
  (mem_keyed segments texts).mpr ⟨colon :: name, member, kind_named⟩

theorem keyed_wildcard (member : ([star], raw) ∈ segments.zip texts) : ([star], raw) ∈ keyedTexts segments texts :=
  (mem_keyed segments texts).mpr ⟨[star], member, if_pos rfl⟩

theorem zip_partner {segment : JsString}
    (lengths : segments.length = texts.length) (member : segment ∈ segments) :
    ∃ text, (segment, text) ∈ segments.zip texts := by
  rw [← map_fst_zip (Nat.le_of_eq lengths)] at member
  obtain ⟨pair, known, same⟩ := mem_map.mp member
  exact ⟨pair.2, same ▸ known⟩

-- parsePondRoute does on this address what the grammar of the route says.
structure ParsesGrammar (route address : JsString) : Prop where
  matched : (∃ found, parsePondRoute route address = .ok (some found)) ↔
    ∃ texts, Decomposes route address texts
  refused : parsePondRoute route address = .ok none ↔ ¬ ∃ texts, Decomposes route address texts
  unique : ∀ texts others, Decomposes route address texts → Decomposes route address others →
    texts = others
  named : ∀ found texts, parsePondRoute route address = .ok (some found) →
    Decomposes route address texts →
    ∀ name text, (colon :: name, text) ∈ (split slash route).zip texts →
      ∃ value, decodeURIComponent text = some value ∧ found.params.get? name = some value
  wildcard : ∀ found texts, parsePondRoute route address = .ok (some found) →
    Decomposes route address texts →
    ∀ text, ([star], text) ∈ (split slash route).zip texts →
      found.params.get? [star] = some (collapseSlashes (slash :: text))

-- What an address must not hold where the route matches it.
structure PlainlyAddressed (route address : JsString) : Prop where
  unbroken : ∀ texts, Decomposes route address texts →
    ∀ text, ([star], text) ∈ (split slash route).zip texts →
      ∀ unit ∈ text, isLineTerminatorUnit unit = false
  decodable : ∀ texts, Decomposes route address texts →
    ∀ name text, (colon :: name, text) ∈ (split slash route).zip texts →
      ∃ value, decodeURIComponent text = some value
  ordinary : ∀ texts, Decomposes route address texts → colon :: proto ∉ split slash route

theorem fits_plainly {route : JsString} {texts : List JsString} (plainly : PlainlyAddressed route address)
    (written : Decomposes route address texts) : List.Forall₂ Fits (split slash route) texts := by
  rw [forall₂_iff_zip] at *
  refine ⟨length_eq written.1, ?_⟩
  intro segment text member
  refine ⟨forall₂_zip written.1 member, ?_⟩
  rintro rfl
  exact plainly.unbroken texts written text member

section Accepted

variable {route : JsString} {compiled : CompiledRoute}
  (accepted : compilePondRoute route = .ok compiled)

include accepted

variable {text : JsString}

theorem found_named {texts : List JsString} (fits : List.Forall₂ Fits (split slash route) texts)
    (placed : placeParams (keyedTexts (split slash route) texts) OrderedMap.empty =
      some found.params) (member : (colon :: name, text) ∈ (split slash route).zip texts) (plain : name ≠ proto) :
    ∃ value, decodeURIComponent text = some value ∧ found.params.get? name = some value := by
  have keyed := keyed_named _ _ member
  have kind := accepted_kinds accepted _ (of_mem_zip member).1
  have distinct : ((keyedTexts (split slash route) texts).map Prod.fst).Nodup := by
    rw [keyed_keys _ _ (length_eq fits)]
    exact accepted_distinct accepted
  obtain ⟨value, known⟩ := place_values _ placed keyed
  have got := place_get _ distinct placed keyed plain
  rw [known] at got
  rw [named_value kind] at known
  exact ⟨value, known, got⟩

theorem found_wildcard {texts : List JsString} (fits : List.Forall₂ Fits (split slash route) texts)
    (placed : placeParams (keyedTexts (split slash route) texts) OrderedMap.empty =
      some found.params) (member : ([star], text) ∈ (split slash route).zip texts) :
    found.params.get? [star] = some (collapseSlashes (slash :: text)) := by
  have distinct : ((keyedTexts (split slash route) texts).map Prod.fst).Nodup := by
    rw [keyed_keys _ _ (length_eq fits)]
    exact accepted_distinct accepted
  rw [place_get _ distinct placed (keyed_wildcard _ _ member) (by decide)]
  exact if_pos rfl

theorem parse_plainly {texts : List JsString} (plainly : PlainlyAddressed route address)
    (written : Decomposes route address texts) : ∃ found, parsePondRoute route address = .ok (some found) := by
  have fits := fits_plainly plainly written
  have values : ∀ key raw, (key, raw) ∈ keyedTexts (split slash route) texts →
      ∃ value, paramValue key raw = some value := by
    intro key raw keyed
    obtain ⟨segment, member, known⟩ := (mem_keyed _ _).mp keyed
    have kind := accepted_kinds accepted _ (of_mem_zip member).1
    cases kind with
    | wildcard =>
      cases known
      exact ⟨_, if_pos rfl⟩
    | named name identifier =>
      have same : name = key := some.inj known
      subst same
      rw [named_value (.named name identifier)]
      exact plainly.decodable texts written name raw member
    | literal _ plain bare =>
      rw [show segmentKey segment = none from kind_literal plain bare] at known
      cases known
  obtain ⟨_, placed⟩ := place_some _ OrderedMap.empty values
  rw [parse_fits accepted address texts fits written.2, placed]
  exact ⟨_, rfl⟩

theorem plainly_parses (plainly : PlainlyAddressed route address) :
    ParsesGrammar route address where
  matched := by
    constructor
    · rintro ⟨found, parsed⟩
      obtain ⟨texts, fits, joined, _⟩ := parse_found accepted parsed
      exact ⟨texts, fits.imp (fun _ _ fit => fit.1), joined⟩
    · rintro ⟨texts, written⟩
      exact parse_plainly accepted plainly written
  refused := by
    rw [parse_null_iff accepted, not_iff_not]
    constructor
    · rintro ⟨texts, fits, joined⟩
      exact ⟨texts, fits.imp (fun _ _ fit => fit.1), joined⟩
    · rintro ⟨texts, written⟩
      exact ⟨texts, fits_plainly plainly written, written.2⟩
  unique := stands_unique accepted address
  named := by
    intro found texts parsed written name text member
    obtain ⟨others, fits, joined, placed, _⟩ := parse_found accepted parsed
    have same := stands_unique accepted address others texts ⟨fits.imp (fun _ _ fit => fit.1), joined⟩ written
    subst same
    refine found_named accepted fits placed member ?_
    rintro rfl
    exact plainly.ordinary others written (of_mem_zip member).1
  wildcard := by
    intro found texts parsed written text member
    obtain ⟨others, fits, joined, placed, _⟩ := parse_found accepted parsed
    have same := stands_unique accepted address others texts ⟨fits.imp (fun _ _ fit => fit.1), joined⟩ written
    subst same
    exact found_wildcard accepted fits placed member

theorem parses_plainly (parses : ParsesGrammar route address) :
    PlainlyAddressed route address where
  unbroken := by
    intro texts written text member
    obtain ⟨found, parsed⟩ := parses.matched.mpr ⟨texts, written⟩
    obtain ⟨others, fits, joined, _⟩ := parse_found accepted parsed
    have same := parses.unique others texts ⟨fits.imp (fun _ _ fit => fit.1), joined⟩ written
    subst same
    exact (forall₂_zip fits member).2 rfl
  decodable := by
    intro texts written name text member
    obtain ⟨found, parsed⟩ := parses.matched.mpr ⟨texts, written⟩
    obtain ⟨value, known, _⟩ := parses.named found texts parsed written name text member
    exact ⟨value, known⟩
  ordinary := by
    intro texts written special
    obtain ⟨found, parsed⟩ := parses.matched.mpr ⟨texts, written⟩
    obtain ⟨_, _, _, placed, _⟩ := parse_found accepted parsed
    obtain ⟨text, member⟩ := zip_partner _ texts (length_eq written.1) special
    obtain ⟨_, _, got⟩ := parses.named found texts parsed written proto text member
    rw [place_other _ placed (.inr rfl)] at got
    cases got

end Accepted

namespace CompiledRoute

theorem parses_grammar_iff (route address : JsString) (compiled : CompiledRoute)
    (accepted : compilePondRoute route = .ok compiled) :
    ParsesGrammar route address ↔ PlainlyAddressed route address :=
  ⟨parses_plainly accepted, plainly_parses accepted⟩

theorem wildcard_and_parameter_parsed :
    ParsesGrammar (js "/rooms/:roomId/*") (js "/rooms/general/history/42?limit=5") := by
  have accepted : ∃ compiled, compilePondRoute (js "/rooms/:roomId/*") = .ok compiled := ⟨_, rfl⟩
  obtain ⟨compiled, accepted⟩ := accepted
  have written : Decomposes (js "/rooms/:roomId/*") (js "/rooms/general/history/42?limit=5")
      [[], js "rooms", js "general", js "history/42"] :=
    ⟨.cons (by decide) (.cons (by decide) (.cons (by decide) (.cons (by decide) .nil))), by decide⟩
  have only := fun texts other => stands_unique accepted _ texts _ other written
  refine (parses_grammar_iff _ _ compiled accepted).mpr ⟨?_, ?_, ?_⟩
  · intro texts other
    rw [only texts other]
    intro text member
    have same : text = js "history/42" := by
      have keys : ∀ pair ∈ (split slash (js "/rooms/:roomId/*")).zip [[], js "rooms", js "general", js "history/42"],
          pair.1 = [star] → pair.2 = js "history/42" := by decide
      exact keys _ member rfl
    have plain : (js "history/42").all (fun unit => !isLineTerminatorUnit unit) := by decide
    intro unit inside
    rw [same] at inside
    simpa using all_eq_true.mp plain unit inside
  · intro texts other
    rw [only texts other]
    intro name text member
    have decoded : ∀ pair ∈ (split slash (js "/rooms/:roomId/*")).zip [[], js "rooms", js "general", js "history/42"],
        (decodeURIComponent pair.2).isSome := by decide +kernel
    exact isSome_iff_exists.mp (decoded _ member)
  · intro texts _
    decide

theorem wildcard_line_break_refused :
    ∃ compiled, compilePondRoute (js "*") = .ok compiled ∧ parsePondRoute (js "*") (js "a\nb") = .ok none ∧
      Decomposes (js "*") (js "a\nb") [js "a\nb"] ∧
      ¬ ParsesGrammar (js "*") (js "a\nb") := by
  have missing : parsePondRoute (js "*") (js "a\nb") = .ok none := by decide +kernel
  have written : Decomposes (js "*") (js "a\nb") [js "a\nb"] :=
    ⟨.cons (by decide) .nil, by decide⟩
  refine ⟨_, rfl, missing, written, ?_⟩
  intro parses
  exact parses.refused.mp missing ⟨_, written⟩

end CompiledRoute

end PondSocket.Js
