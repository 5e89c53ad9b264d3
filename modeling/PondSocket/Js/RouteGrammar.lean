import PondSocket.Js.Route
import Mathlib.Data.List.Forall2

namespace PondSocket.Js

open Library List Option

-- The segments a route may have.
inductive SegmentKind : JsString → Prop where
  | wildcard : SegmentKind [star]
  | named (name : JsString) (identifier : isIdentifier name) : SegmentKind (colon :: name)
  | literal (segment : JsString) (plain : star ∉ segment) (bare : colon ∉ segment) :
      SegmentKind segment

def segmentText (segment : JsString) : JsString :=
  if segment = [star] then js "(.*)"
  else if startsWith segment colon then js "([^/]+)"
  else escapeRegExp segment

def segmentNodes (segment : JsString) : RegExp :=
  if segment = [star] then [.group dotAccepts 0]
  else if startsWith segment colon then [.group notSlash 1]
  else segment.map .plain

def Stands (segment text : JsString) : Prop :=
  if segment = [star] then True
  else if startsWith segment colon then text ≠ [] ∧ slash ∉ text
  else text = segment

instance (segment text : JsString) : Decidable (Stands segment text) :=
  inferInstanceAs (Decidable (if segment = [star] then True
    else if startsWith segment colon then text ≠ [] ∧ slash ∉ text
    else text = segment))

variable {name segment : JsString} {unit : CodeUnit}

section Kinds

variable {Value : Type} {whenStar whenNamed whenLiteral : Value}

theorem kind_named :
    (if colon :: name = [star] then whenStar
      else if startsWith (colon :: name) colon then whenNamed else whenLiteral) = whenNamed := by
  rw [if_neg (fun same => absurd (cons.inj same).1 (by decide)), if_pos (by simp [startsWith])]

theorem starts_with_mem (starts : startsWith segment unit) : unit ∈ segment := by
  cases segment with
  | nil => cases starts
  | cons =>
    simp only [startsWith, head?_cons, beq_iff_eq, some.injEq] at starts
    exact starts ▸ mem_cons_self

theorem kind_literal (plain : star ∉ segment) (bare : colon ∉ segment) :
    (if segment = [star] then whenStar
      else if startsWith segment colon then whenNamed else whenLiteral) = whenLiteral := by
  have other : segment ≠ [star] := fun same => plain (same ▸ mem_singleton_self star)
  rw [if_neg other, if_neg (fun starts => bare (starts_with_mem starts))]

end Kinds

variable {route : JsString}

theorem identifier_some (identifier : isIdentifier name) : name ≠ [] := by
  rintro rfl
  cases identifier

theorem identifier_not_star (identifier : isIdentifier name) : name ≠ [star] := by
  rintro rfl
  revert identifier
  decide

theorem segment_part_ok {route part : JsString} {keys known : List JsString}
    (done : segmentPart route keys segment = .ok (known, part)) :
    SegmentKind segment ∧ part = segmentText segment ∧ known = keys ++ (segmentKey segment).toList ∧
      ∀ key, segmentKey segment = some key → key ∉ keys := by
  unfold segmentPart at done
  split at done
  · next wildcard =>
    subst wildcard
    split at done
    · cases done
    next fresh =>
    cases done
    have key : segmentKey [star] = some [star] := if_pos rfl
    refine ⟨.wildcard, rfl, by rw [key]; rfl, ?_⟩
    rintro _ ⟨⟩
    simpa using fresh
  · next other =>
    split at done
    · cases done
    next plain =>
    split at done
    · next starts =>
      split at done
      · cases done
      next identifier =>
      split at done
      · cases done
      next fresh =>
      cases done
      obtain ⟨name, rfl⟩ : ∃ name, segment = colon :: name := by
        cases segment with
        | nil => cases starts
        | cons _ rest =>
          simp only [startsWith, head?_cons, beq_iff_eq, some.injEq] at starts
          exact ⟨rest, by rw [starts]⟩
      have key : segmentKey (colon :: name) = some name := kind_named
      refine ⟨.named name (by simpa using identifier), kind_named.symm,
        by rw [key]; rfl, ?_⟩
      rintro _ ⟨⟩
      simpa using fresh
    · next starts =>
      split at done
      · cases done
      next bare =>
      cases done
      have plain' : star ∉ segment := by simpa using plain
      have bare' : colon ∉ segment := by simpa using bare
      have key : segmentKey segment = none := kind_literal plain' bare'
      refine ⟨.literal segment plain' bare', (kind_literal plain' bare').symm, by rw [key]; simp, ?_⟩
      rw [key]
      rintro _ ⟨⟩

theorem segment_parts_ok (segments parts keys known : List JsString)
    (distinct : keys.Nodup) (done : segmentParts route keys segments = .ok (known, parts)) :
    (∀ segment ∈ segments, SegmentKind segment) ∧ parts = segments.map segmentText ∧
      known = keys ++ segments.filterMap segmentKey ∧ known.Nodup := by
  induction segments generalizing keys parts with
  | nil =>
    cases done
    exact ⟨by simp, rfl, by simp, distinct⟩
  | cons segment _ ih =>
    unfold segmentParts at done
    split at done
    · cases done
    next after part one =>
    split at done
    · cases done
    next all others later =>
    cases done
    obtain ⟨kind, text, grown, fresh⟩ := segment_part_ok one
    have stillDistinct : after.Nodup := by
      rw [grown]
      cases key : segmentKey segment with
      | none => simpa using distinct
      | some key' =>
        rw [toList_some, nodup_append]
        refine ⟨distinct, nodup_singleton key', ?_⟩
        rintro known member _ single rfl
        rw [mem_singleton] at single
        exact fresh key' key (single ▸ member)
    obtain ⟨kinds, texts, all, allDistinct⟩ := ih others after stillDistinct later
    refine ⟨?_, by rw [text, texts]; rfl, ?_, allDistinct⟩
    · intro one member
      rcases mem_cons.mp member with rfl | later
      · exact kind
      · exact kinds one later
    rw [all, grown]
    cases key : segmentKey segment with
    | none | some => simp [key]

variable {rest : JsString}

theorem read_plain (plain : isSyntaxCharacter unit = false) :
    readTerms (unit :: rest) = (readTerms rest).map (.plain unit :: ·) := by
  rw [readTerms.eq_def]
  split <;> simp_all [isSyntaxCharacter]

theorem read_escaped (special : isSyntaxCharacter unit = true) :
    readTerms (backslash :: unit :: rest) = (readTerms rest).map (.plain unit :: ·) := by
  have step : readTerms (backslash :: unit :: rest) =
      if isSyntaxCharacter unit then (readTerms rest).map (.plain unit :: ·) else none := rfl
  rw [step, if_pos special]

theorem read_literal : readTerms (escapeRegExp segment ++ rest) = (readTerms rest).map (segment.map .plain ++ ·) := by
  induction segment with
  | nil => cases read : readTerms rest <;> simp [escapeRegExp, read]
  | cons unit segment ih =>
    have later : escapeRegExp (unit :: segment) ++ rest =
        (if isSyntaxCharacter unit then [backslash, unit] else [unit]) ++ (escapeRegExp segment ++ rest) := by
      simp [escapeRegExp]
    rw [later]
    cases special : isSyntaxCharacter unit with
    | false =>
      simp only [Bool.false_eq_true, if_false, cons_append, nil_append]
      rw [read_plain special, ih, Option.map_map]
      rfl
    | true =>
      simp only [if_true, cons_append, nil_append]
      rw [read_escaped special, ih, Option.map_map]
      rfl

theorem read_segment (segment rest : JsString) :
    readTerms (segmentText segment ++ rest) = (readTerms rest).map (segmentNodes segment ++ ·) := by
  unfold segmentText segmentNodes
  split
  · rfl
  split
  · rfl
  · exact read_literal

def routeNodes : List JsString → RegExp
  | [] => []
  | [segment] => segmentNodes segment
  | segment :: next :: rest => segmentNodes segment ++ .plain slash :: routeNodes (next :: rest)

theorem read_route (segments : List JsString) :
    readTerms (join slash (segments.map segmentText) ++ [dollar]) = some (routeNodes segments) := by
  have stop : readTerms [dollar] = some [] := rfl
  induction segments with
  | nil => exact stop
  | cons _ rest ih =>
    cases rest with
    | nil =>
      rw [map_singleton, join_one, read_segment, stop]
      simp [routeNodes]
    | cons =>
      rw [map_cons, map_cons, join_more, append_assoc, read_segment,
        cons_append, read_plain (by decide), ← map_cons, ih]
      rfl

theorem accepted_route {compiled : CompiledRoute}
    (accepted : compilePondRoute route = .ok compiled) :
    questionMark ∉ route ∧ (∀ segment ∈ split slash route, SegmentKind segment) ∧
      compiled.keys = (split slash route).filterMap segmentKey ∧ compiled.keys.Nodup ∧
      compiled.regexp = routeNodes (split slash route) := by
  unfold compilePondRoute at accepted
  split at accepted
  · cases accepted
  next keys regexp parsed =>
  cases accepted
  unfold parseSegments at parsed
  split at parsed
  · cases parsed
  next bare =>
  split at parsed
  · cases parsed
  next known parts done =>
  obtain ⟨kinds, texts, all, distinct⟩ :=
    segment_parts_ok _ parts [] known nodup_nil done
  have read : newRegExp (caret :: join slash parts ++ [dollar]) = some (routeNodes (split slash route)) := by
    rw [texts]
    exact read_route _
  rw [read] at parsed
  cases parsed
  exact ⟨by simpa using bare, kinds, by simpa using all, distinct, rfl⟩

-- As Stands, but a dot stops at a line break.
def Fits (segment text : JsString) : Prop :=
  Stands segment text ∧ (segment = [star] → ∀ unit ∈ text, isLineTerminatorUnit unit = false)

def groupTexts : List JsString → List JsString → List JsString
  | segment :: segments, text :: texts =>
    if (segmentKey segment).isSome then text :: groupTexts segments texts
    else groupTexts segments texts
  | _, _ => []

theorem captures_segment (kind : SegmentKind segment) (nodes : RegExp) (text : JsString) (taken : List JsString) :
    Captures (segmentNodes segment ++ nodes) text taken ↔
      ∃ piece rest later, text = piece ++ rest ∧ Fits segment piece ∧
        taken = (if (segmentKey segment).isSome then piece :: later else later) ∧
        Captures nodes rest later := by
  cases kind with
  | wildcard =>
    have means (piece : JsString) : Fits [star] piece ↔ ∀ unit ∈ piece, dotAccepts unit = true := by
      simp [Fits, Stands, dotAccepts]
    simp only [means]
    rw [segmentNodes, if_pos rfl, singleton_append, captures_group]
    constructor
    · rintro ⟨piece, rest, later, shape, all, accepted, _, inner⟩
      exact ⟨piece, rest, later, shape, accepted, all, inner⟩
    · rintro ⟨piece, rest, later, shape, accepted, all, inner⟩
      exact ⟨piece, rest, later, shape, all, accepted, Nat.zero_le _, inner⟩
  | named name =>
    have key : segmentKey (colon :: name) = some name := kind_named
    have means (piece : JsString) : Fits (colon :: name) piece ↔
        (∀ unit ∈ piece, notSlash unit = true) ∧ 1 ≤ piece.length := by
      have other : colon :: name ≠ [star] := fun same => absurd (cons.inj same).1 (by decide)
      have stands : Stands (colon :: name) piece = (piece ≠ [] ∧ slash ∉ piece) :=
        kind_named
      simp only [Fits, stands, other, false_implies, and_true, notSlash, bne_iff_ne]
      constructor
      · rintro ⟨some, free⟩
        exact ⟨fun unit member same => free (same ▸ member), length_pos_iff.mpr some⟩
      · rintro ⟨accepted, enough⟩
        exact ⟨length_pos_iff.mp enough, fun member => accepted slash member rfl⟩
    have nodesOf : segmentNodes (colon :: name) = [.group notSlash 1] := kind_named
    simp only [means, key, isSome_some, if_true]
    rw [nodesOf, singleton_append, captures_group]
    constructor
    · rintro ⟨piece, rest, later, shape, all, accepted, enough, inner⟩
      exact ⟨piece, rest, later, shape, ⟨accepted, enough⟩, all, inner⟩
    · rintro ⟨piece, rest, later, shape, ⟨accepted, enough⟩, all, inner⟩
      exact ⟨piece, rest, later, shape, all, accepted, enough, inner⟩
  | literal _ plain bare =>
    have key : segmentKey segment = none := kind_literal plain bare
    have other : segment ≠ [star] := fun same => plain (same ▸ mem_singleton_self star)
    have stands (piece : JsString) : Stands segment piece = (piece = segment) :=
      kind_literal plain bare
    have nodesOf : segmentNodes segment = segment.map .plain :=
      kind_literal plain bare
    simp only [Fits, stands, other, false_implies, and_true, key, isSome_none, Bool.false_eq_true, if_false]
    rw [nodesOf, captures_plain]
    constructor
    · rintro ⟨rest, shape, inner⟩
      exact ⟨segment, rest, taken, shape, rfl, rfl, inner⟩
    · rintro ⟨_, rest, _, shape, same, all, inner⟩
      exact ⟨rest, by rw [shape, same], all ▸ inner⟩

variable {segments : List JsString}

theorem captures_route (some : segments ≠ []) (kinds : ∀ segment ∈ segments, SegmentKind segment) (text : JsString)
    (taken : List JsString) :
    Captures (routeNodes segments) text taken ↔ ∃ texts, List.Forall₂ Fits segments texts ∧ join slash texts = text ∧
        taken = groupTexts segments texts := by
  induction segments generalizing text taken with
  | nil => exact absurd rfl some
  | cons segment rest ih =>
    have kind := kinds segment mem_cons_self
    cases rest with
    | nil =>
      have alone := captures_segment kind [] text taken
      rw [append_nil] at alone
      rw [routeNodes, alone]
      constructor
      · rintro ⟨piece, left, later, shape, fits, all, inner⟩
        cases inner
        exact ⟨[piece], .cons fits .nil, by rw [join_one, shape, append_nil], all⟩
      · rintro ⟨texts, fits, shape, all⟩
        cases fits with
        | cons one none =>
          cases none
          exact ⟨_, [], [], by rw [append_nil, ← shape, join_one], one, all, .done⟩
    | cons next rest =>
      have later := ih (cons_ne_nil _ _) (fun one member => kinds one (mem_cons_of_mem _ member))
      rw [routeNodes, captures_segment kind]
      constructor
      · rintro ⟨piece, _, groups, shape, fits, all, inner⟩
        cases inner with
        | plain _ _ after _ deeper =>
          obtain ⟨texts, others, joined, same⟩ := (later after groups).mp deeper
          refine ⟨piece :: texts, .cons fits others, ?_, ?_⟩
          · cases others with
            | cons => rw [join_more, joined, shape]
          · rw [all, same]
            rfl
      · rintro ⟨texts, fits, shape, all⟩
        cases fits with
        | cons one others =>
          rename_i piece texts
          refine ⟨piece, slash :: join slash texts, groupTexts (next :: rest) texts, ?_, one, all,
            .plain slash _ _ _ ((later _ _).mpr ⟨texts, others, rfl, rfl⟩)⟩
          cases others with
          | cons => rw [← shape, join_more]

theorem stands_split {text : JsString} (kind : SegmentKind segment) (free : slash ∉ segment) (other : segment ≠ [star])
    (stands : Stands segment text) : split slash text = [text] := by
  refine split_free ?_
  cases kind with
  | wildcard => exact absurd rfl other
  | named => exact stands.2
  | literal _ plain bare =>
    have means : Stands segment text = (text = segment) := kind_literal plain bare
    rw [means] at stands
    exact stands ▸ free

variable {texts : List JsString}

theorem texts_split (kinds : ∀ segment ∈ segments, SegmentKind segment) (free : ∀ segment ∈ segments, slash ∉ segment)
    (others : [star] ∉ segments) (stands : List.Forall₂ Stands segments texts) :
    texts.flatMap (split slash) = texts := by
  induction stands with
  | nil => rfl
  | cons one more ih =>
    rename_i segment text segments texts
    rw [flatMap_cons, stands_split (kinds segment mem_cons_self)
      (free segment mem_cons_self) (fun same => others (same ▸ mem_cons_self)) one,
      ih (fun other member => kinds other (mem_cons_of_mem _ member))
        (fun other member => free other (mem_cons_of_mem _ member))
        (fun member => others (mem_cons_of_mem _ member))]
    rfl

theorem key_star (kind : SegmentKind segment) : segmentKey segment = some [star] ↔ segment = [star] := by
  cases kind with
  | wildcard => exact ⟨fun _ => rfl, fun _ => if_pos rfl⟩
  | named _ identifier =>
    constructor
    · intro same
      exact absurd (some.inj same) (identifier_not_star identifier)
    · intro same
      exact absurd (cons.inj same).1 (by decide)
  | literal _ plain bare =>
    have key : segmentKey segment = none := kind_literal plain bare
    rw [key]
    constructor
    · rintro ⟨⟩
    · rintro rfl
      exact absurd (mem_singleton_self star) plain

theorem pieces_unique (segments texts others : List JsString)
    (kinds : ∀ segment ∈ segments, SegmentKind segment) (free : ∀ segment ∈ segments, slash ∉ segment)
    (distinct : (segments.filterMap segmentKey).Nodup)
    (left : List.Forall₂ Stands segments texts) (right : List.Forall₂ Stands segments others)
    (same : texts.flatMap (split slash) = others.flatMap (split slash)) : texts = others := by
  induction left generalizing others with
  | nil =>
    cases right
    rfl
  | cons one more ih =>
    rename_i segment text segments texts
    cases right with
    | cons two rest =>
      rename_i other others
      have kind := kinds segment mem_cons_self
      have kinds' : ∀ one ∈ segments, SegmentKind one :=
        fun one member => kinds one (mem_cons_of_mem _ member)
      have free' : ∀ one ∈ segments, slash ∉ one :=
        fun one member => free one (mem_cons_of_mem _ member)
      rw [flatMap_cons, flatMap_cons] at same
      by_cases wildcard : segment = [star]
      · -- The one wildcard: every later text is a piece of its own.
        have key := (key_star kind).mpr wildcard
        rw [filterMap_cons, key] at distinct
        have lone : [star] ∉ segments := fun member =>
          (nodup_cons.mp distinct).1 (mem_filterMap.mpr ⟨[star], member, if_pos rfl⟩)
        rw [texts_split kinds' free' lone more, texts_split kinds' free' lone rest] at same
        have lengths : texts.length = others.length :=
          (List.Forall₂.length_eq more).symm.trans (List.Forall₂.length_eq rest)
        obtain ⟨head, tail⟩ := append_inj' same lengths
        rw [split_injective head, tail]
      · have distinct' : (segments.filterMap segmentKey).Nodup := by
          refine distinct.sublist ?_
          exact (sublist_cons_self segment segments).filterMap segmentKey
        rw [stands_split kind (free segment mem_cons_self) wildcard one,
          stands_split kind (free segment mem_cons_self) wildcard two,
          singleton_append, singleton_append] at same
        obtain ⟨head, tail⟩ := cons.inj same
        rw [head, ih others kinds' free' distinct' rest tail]

theorem texts_some (some : segments ≠ []) {relation : JsString → JsString → Prop}
    (related : List.Forall₂ relation segments texts) : texts ≠ [] := by
  rintro rfl
  cases related
  exact some rfl

theorem join_unique {others : List JsString} (some : segments ≠ []) (kinds : ∀ segment ∈ segments, SegmentKind segment)
    (free : ∀ segment ∈ segments, slash ∉ segment) (distinct : (segments.filterMap segmentKey).Nodup)
    (left : List.Forall₂ Stands segments texts) (right : List.Forall₂ Stands segments others)
    (same : join slash texts = join slash others) : texts = others := by
  refine pieces_unique segments texts others kinds free distinct left right ?_
  rw [← split_join (texts_some some left), ← split_join (texts_some some right), same]

end PondSocket.Js
