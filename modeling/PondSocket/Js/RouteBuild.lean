import PondSocket.Js.RouteMatch
import Mathlib.Data.List.TakeWhile

namespace PondSocket.Js

open Library List

inductive Built (params : JsString → Option JsString) : JsString → JsString → Prop where
  | wildcard (value : JsString) (given : params [star] = some value) :
      Built params [star] (stripSlashes value)
  | named (name value encoded : JsString) (given : params name = some value) (some : value ≠ [])
      (made : encodeURIComponent value = .some encoded) : Built params (colon :: name) encoded
  | literal (segment : JsString) (plain : star ∉ segment) (bare : colon ∉ segment) :
      Built params segment segment

variable {params : JsString → Option JsString} {route : JsString}

variable {segment text : JsString}

theorem build_segment_ok (kind : SegmentKind segment) (done : buildSegment route params segment = .ok text) :
    Built params segment text := by
  cases kind with
  | wildcard =>
    have key : segmentKey [star] = some [star] := if_pos rfl
    rw [buildSegment, key] at done
    simp only at done
    split at done
    · cases done
    · cases done
    · next value _ given =>
      cases done
      exact .wildcard value given
  | named name identifier =>
    have key : segmentKey (colon :: name) = some name := kind_named
    have other := identifier_not_star identifier
    rw [buildSegment, key] at done
    cases name with
    | nil => exact absurd rfl (identifier_some identifier)
    | cons =>
      simp only at done
      split at done
      · cases done
      · cases done
      · next value some given =>
        rw [if_neg other] at done
        split at done
        · cases done
        next encoded made =>
        cases done
        exact .named _ value text given some made
  | literal _ plain bare =>
    have key : segmentKey segment = none := kind_literal plain bare
    rw [buildSegment, key] at done
    cases done
    exact .literal _ plain bare

theorem build_segments_ok (route : JsString) (segments texts : List JsString)
    (params : JsString → Option JsString) (kinds : ∀ segment ∈ segments, SegmentKind segment)
    (done : buildSegments route params segments = .ok texts) :
    List.Forall₂ (Built params) segments texts := by
  induction segments generalizing texts with
  | nil =>
    cases done
    exact .nil
  | cons segment _ ih =>
    unfold buildSegments at done
    split at done
    · cases done
    next text one =>
    split at done
    · cases done
    next others later =>
    cases done
    exact .cons (build_segment_ok (kinds segment mem_cons_self) one)
      (ih others (fun other member => kinds other (mem_cons_of_mem _ member)) later)

variable {address : JsString}

theorem build_ok (built : buildPondRoute route params = .ok address) :
    ∃ compiled texts, compilePondRoute route = .ok compiled ∧
      List.Forall₂ (Built params) (split slash route) texts ∧ address = join slash texts := by
  unfold buildPondRoute at built
  split at built
  · cases built
  next compiled accepted =>
  split at built
  · cases built
  next texts done =>
  cases built
  exact ⟨compiled, texts, accepted, build_segments_ok route _ texts params (accepted_kinds accepted) done, rfl⟩

theorem built_stands (built : Built params segment text) : Stands segment text := by
  cases built with
  | wildcard => exact trivial
  | named _ _ _ _ some made =>
    exact ⟨encode_component_some some made, fun member => (encode_component_free made member).1 rfl⟩
  | literal _ plain bare =>
    have means : Stands segment segment = (segment = segment) :=
      kind_literal plain bare
    rw [means]

theorem mem_strip {value : JsString} {unit : CodeUnit} (member : unit ∈ stripSlashes value) :
    unit ∈ value :=
  (dropWhile_suffix _).mem member

theorem mem_collapse (text : JsString) (unit : CodeUnit) :
    unit ∈ collapseSlashes text ↔ unit ∈ text := by
  induction text using collapseSlashes.induct with
  | case1 | case2 => rfl
  | case3 first _ _ both ih =>
    rw [collapseSlashes, if_pos both, ih, mem_cons (b := first)]
    rw [both.1, both.2, mem_cons]
    exact ⟨.inr, fun either => either.elim .inl id⟩
  | case4 _ second rest apart ih =>
    rw [collapseSlashes, if_neg apart, mem_cons, ih, mem_cons (l := second :: rest)]

theorem collapse_strip (value : JsString) :
    collapseSlashes (slash :: stripSlashes value) = collapseSlashes (slash :: value) := by
  induction value with
  | nil => rfl
  | cons first _ ih =>
    by_cases same : first = slash
    · subst same
      rw [collapseSlashes, if_pos ⟨rfl, rfl⟩, ← ih]
      rfl
    · rw [stripSlashes, dropWhile_cons_of_neg (by simpa using same)]

-- Parsing the built address gives the parameters back.
structure RebuildsParams (route : JsString) (params : JsString → Option JsString)
    (address : JsString) (found : EventParams) : Prop where
  parsed : parsePondRoute route address = .ok (some found)
  named : ∀ name, colon :: name ∈ split slash route →
    ∃ value, params name = some value ∧ found.params.get? name = some value
  wildcard : [star] ∈ split slash route →
    ∃ value, params [star] = some value ∧
      found.params.get? [star] = some (collapseSlashes (slash :: value))
  query : found.query = OrderedMap.empty

structure SafelyBuilt (route : JsString) (params : JsString → Option JsString) : Prop where
  whole : [star] ∈ split slash route → ∀ value, params [star] = some value →
    ∀ unit ∈ value, unit ≠ questionMark ∧ isLineTerminatorUnit unit = false
  ordinary : colon :: proto ∉ split slash route

variable {texts : List JsString}

theorem built_bare (bare : questionMark ∉ route) (built : List.Forall₂ (Built params) (split slash route) texts)
    (safe : SafelyBuilt route params) (whole : address = join slash texts) : questionMark ∉ address := by
  intro member
  rw [whole] at member
  rcases mem_join member with same | ⟨_, known, inside⟩
  · exact absurd same (by decide)
  have lengths := List.Forall₂.length_eq built
  rw [← map_snd_zip (Nat.le_of_eq lengths.symm)] at known
  obtain ⟨⟨_, _⟩, paired, same⟩ := mem_map.mp known
  cases same
  have there := (of_mem_zip paired).1
  cases forall₂_zip built paired with
  | wildcard value given => exact (safe.whole there value given questionMark (mem_strip inside)).1 rfl
  | named _ _ _ _ _ made => exact (encode_component_free made inside).2 rfl
  | literal _ _ _ =>
    refine bare ?_
    rw [← join_split slash route]
    exact join_holds there inside

theorem path_whole (bare : questionMark ∉ address) : addressPath address = address ∧ addressQuery address = [] := by
  constructor
  · refine takeWhile_eq_self_iff.mpr ?_
    intro unit member
    simpa using fun same : unit = questionMark => bare (same ▸ member)
  · rw [addressQuery, split_free bare]
    rfl

theorem built_plainly {compiled : CompiledRoute} (accepted : compilePondRoute route = .ok compiled)
    (built : List.Forall₂ (Built params) (split slash route) texts) (safe : SafelyBuilt route params)
    (written : Decomposes route address texts) :
    PlainlyAddressed route address where
  unbroken := by
    intro others otherwise text member unit inside
    have same := stands_unique accepted address others texts otherwise written
    subst same
    have there := (of_mem_zip member).1
    cases forall₂_zip built member with
    | wildcard value given => exact (safe.whole there value given unit (mem_strip inside)).2
    | literal _ plain => exact absurd (mem_singleton_self star) plain
  decodable := by
    intro others otherwise name text member
    have same := stands_unique accepted address others texts otherwise written
    subst same
    cases forall₂_zip built member with
    | named _ value _ _ _ made => exact ⟨value, decode_encode_component made⟩
    | literal _ _ bare => exact absurd mem_cons_self bare
  ordinary := fun _ _ => safe.ordinary

theorem safely_rebuilds (built : buildPondRoute route params = .ok address) (safe : SafelyBuilt route params) :
    ∃ found, RebuildsParams route params address found := by
  obtain ⟨_, texts, accepted, pieces, whole⟩ := build_ok built
  have bare := built_bare (accepted_route accepted).1 pieces safe whole
  obtain ⟨path, query⟩ := path_whole bare
  have written : Decomposes route address texts :=
    ⟨pieces.imp (fun _ _ piece => built_stands piece), by rw [path, whole]⟩
  have plainly := built_plainly accepted pieces safe written
  obtain ⟨found, parsed⟩ := parse_plainly accepted plainly written
  obtain ⟨others, fits, joined, placed, asked⟩ := parse_found accepted parsed
  have same := stands_unique accepted address others texts ⟨fits.imp (fun _ _ fit => fit.1), joined⟩ written
  subst same
  have lengths := List.Forall₂.length_eq fits
  refine ⟨found, parsed, ?_, ?_, ?_⟩
  · intro name there
    obtain ⟨text, member⟩ := zip_partner _ others lengths there
    have plain : name ≠ proto := fun special => safe.ordinary (special ▸ there)
    obtain ⟨value, decoded, got⟩ :=
      found_named accepted fits placed member plain
    cases forall₂_zip pieces member with
    | named _ _ _ given _ made =>
      rw [decode_encode_component made] at decoded
      cases decoded
      exact ⟨value, given, got⟩
    | literal _ _ none => exact absurd mem_cons_self none
  · intro there
    obtain ⟨_, member⟩ := zip_partner _ others lengths there
    have got := found_wildcard accepted fits placed member
    cases forall₂_zip pieces member with
    | wildcard value given =>
      rw [collapse_strip] at got
      exact ⟨value, given, got⟩
    | literal _ free => exact absurd (mem_singleton_self star) free
  · rw [asked, query]
    rfl

theorem rebuilds_safely {found : EventParams} (built : buildPondRoute route params = .ok address)
    (back : RebuildsParams route params address found) : SafelyBuilt route params := by
  obtain ⟨_, _, accepted, _, _⟩ := build_ok built
  obtain ⟨others, fits, joined, placed, _⟩ := parse_found accepted back.parsed
  have lengths := List.Forall₂.length_eq fits
  constructor
  · intro there value given unit inside
    obtain ⟨text, member⟩ := zip_partner _ others lengths there
    obtain ⟨_, sameGiven, got⟩ := back.wildcard there
    rw [given] at sameGiven
    cases sameGiven
    rw [found_wildcard accepted fits placed member] at got
    have kept : unit ∈ slash :: text := by
      rw [← mem_collapse, Option.some.inj got, mem_collapse]
      exact mem_cons_of_mem _ inside
    rcases mem_cons.mp kept with same | deeper
    · rw [same]
      decide
    have onPath : unit ∈ addressPath address := by
      rw [← joined]
      exact join_holds (of_mem_zip member).2 deeper
    exact ⟨by simpa using mem_takeWhile_imp onPath,
      (forall₂_zip fits member).2 rfl unit deeper⟩
  · intro special
    obtain ⟨_, _, got⟩ := back.named proto special
    rw [place_other _ placed (.inr rfl)] at got
    cases got

namespace CompiledRoute

theorem rebuilds_params_iff (route address : JsString) (params : JsString → Option JsString)
    (built : buildPondRoute route params = .ok address) :
    (∃ found, RebuildsParams route params address found) ↔ SafelyBuilt route params :=
  ⟨fun back => back.elim (fun found => rebuilds_safely built), safely_rebuilds built⟩

def givenParams (rows : List (JsString × JsString)) (key : JsString) : Option JsString :=
  OrderedMap.findEntry key rows

theorem room_and_history_rebuilt :
    ∃ found, RebuildsParams (js "/rooms/:roomId/*")
      (givenParams [(js "roomId", js "general chat"), (js "*", js "history/42")])
      (js "/rooms/general%20chat/history/42") found := by
  have built : buildPondRoute (js "/rooms/:roomId/*")
      (givenParams [(js "roomId", js "general chat"), (js "*", js "history/42")]) =
      .ok (js "/rooms/general%20chat/history/42") := by
    decide +kernel
  refine (rebuilds_params_iff _ _ _ built).mpr ⟨?_, by decide⟩
  intro _ value given
  have same : value = js "history/42" := by
    exact (Option.some.inj given).symm
  have plain : (js "history/42").all (fun unit => unit != questionMark && !isLineTerminatorUnit unit) := by decide
  intro unit inside
  rw [same] at inside
  simpa using all_eq_true.mp plain unit inside

theorem wildcard_question_mark_lost :
    buildPondRoute (js "*") (givenParams [(js "*", js "a?b")]) = .ok (js "a?b") ∧
      ¬ ∃ found, RebuildsParams (js "*") (givenParams [(js "*", js "a?b")]) (js "a?b") found := by
  have built : buildPondRoute (js "*") (givenParams [(js "*", js "a?b")]) = .ok (js "a?b") := by
    decide +kernel
  refine ⟨built, ?_⟩
  rintro ⟨_, back⟩
  have safe := rebuilds_safely built back
  have known : givenParams [(js "*", js "a?b")] [star] = some (js "a?b") := by decide
  exact (safe.whole (by decide) (js "a?b") known questionMark (by decide)).1 rfl

end CompiledRoute

end PondSocket.Js
