import PondSocket.Library.Utf8
import PondSocket.Routing.Parser
import PondSocket.Rust.Join

namespace PondSocket.Rust.RouteParser

open Library List Option Routing
open Library.JsonText (hexValue)
open Library.Utf8 (octets isTail encode)
open Routing (Text Codec Outcome ParseError bound pathOf queryOf orRoot marks isAscii keyValue hexPair)

-- u8::from_str_radix of two octets, which also takes a sign.
def fromStrRadix (first second : Nat) : Option Nat :=
  if first = 43 then hexValue (Char.ofNat second) else hexPair (Char.ofNat first) (Char.ofNat second)

def startsTail : List Nat → Bool
  | [] => false
  | octet :: _ => isTail octet

-- On the octets of the value; none where the slice &value[i + 1..i + 3] is cut inside a character.
def percentDecodeOctets : List Nat → Option Text
  | [] => some []
  | 37 :: first :: second :: rest =>
    if isTail first || startsTail rest then none
    else
      match fromStrRadix first second with
      | some hex => (percentDecodeOctets rest).map (Char.ofNat hex :: ·)
      | none => (percentDecodeOctets (first :: second :: rest)).map (Char.ofNat 37 :: ·)
  | octet :: rest => (percentDecodeOctets rest).map (Char.ofNat octet :: ·)

def percentDecode (value : Text) : Option Text := percentDecodeOctets (octets value)

def readParts : List Text → Option (List (Text × Text))
  | [] => some []
  | part :: rest =>
    match percentDecode (keyValue part).1, percentDecode (keyValue part).2, readParts rest with
    | some key, some value, some later => some ((key, value) :: later)
    | _, _, _ => none

def readQuery (queryString : Text) : Option (Except ParseError (List (Text × Text))) :=
  if queryString = [] then some (.ok []) else (readParts (queryString.splitOn '&')).map .ok

-- The wildcard is not decoded.
def codec : Codec Text := ⟨percentDecode, id, readQuery⟩

def parse (route currentPath : Text) : Outcome Text := Routing.parse codec route currentPath

-- The text as the octets it is made of, each read as a character.
def latin (octets : List Nat) : Text := octets.map Char.ofNat

def escape : Text → Option Nat
  | [first, second] => fromStrRadix first.toNat second.toNat
  | _ => none

-- The two octets behind the percent sign end inside a character.
def cuts : Text → Bool
  | [] => false
  | [first] => decide (0x800 ≤ first.toNat)
  | first :: second :: _ => decide (0x800 ≤ first.toNat) || decide (first.toNat < 0x80 ∧ 0x80 ≤ second.toNat)

def cut (value : Text) : Bool := (marks value).any cuts

theorem hex_value_low (octet value : Nat) (digit : hexValue (Char.ofNat octet) = some value) : octet < 0x80 := by
  by_contra high
  have code : (Char.ofNat octet).toNat = octet ∨ (Char.ofNat octet).toNat = 0 := by
    by_cases valid : octet.isValidChar
    · exact .inl (by rw [Char.ofNat, dif_pos valid]; rfl)
    exact .inr (by rw [Char.ofNat, dif_neg valid]; rfl)
  simp only [hexValue] at digit
  grind

theorem radix_high (first second : Nat) (high : 0x80 ≤ first) : fromStrRadix first second = none := by
  rw [fromStrRadix, if_neg (by omega), hexPair]
  cases digit : hexValue (Char.ofNat first) with
  | none => rfl
  | some value => exact absurd (hex_value_low first value digit) (by omega)

theorem octets_cons (char : Char) (text : Text) : octets (char :: text) = encode char.toNat ++ octets text :=
  flatMap_cons

theorem octets_start (text : Text) : startsTail (octets text) = false := by
  cases text with
  | nil => rfl
  | cons char =>
    rw [octets_cons]
    by_cases ascii : char.toNat < 0x80
    · rw [Utf8.encode_ascii _ ascii]
      simp only [cons_append, startsTail, isTail, decide_eq_false_iff_not]
      omega
    by_cases short : char.toNat < 0x800
    · obtain ⟨first, second, shape, lead, _⟩ := Utf8.encode_two _ (by omega) short
      simp only [shape, cons_append, startsTail, isTail, decide_eq_false_iff_not]
      omega
    obtain ⟨_, _, _, _, shape, _, _⟩ := Utf8.encode_long char.toNat (by omega)
    simp only [shape, cons_append, startsTail, isTail, decide_eq_false_iff_not]
    omega

theorem decode_octet {octet : Nat} {rest : List Nat} (plain : octet ≠ 37) :
    percentDecodeOctets (octet :: rest) = (percentDecodeOctets rest).map (Char.ofNat octet :: ·) := by
  rw [percentDecodeOctets.eq_def]
  split <;> grind

theorem decode_octets (plain rest : List Nat) (free : 37 ∉ plain) :
    percentDecodeOctets (plain ++ rest) = (percentDecodeOctets rest).map (latin plain ++ ·) := by
  induction plain with
  | nil => simp [latin]
  | cons _ _ ih =>
    rw [cons_append, decode_octet fun same => free (same ▸ mem_cons_self),
      ih fun member => free (List.mem_cons_of_mem _ member), Option.map_map]
    rfl

theorem decode_other {char : Char} {text : Text} (other : char ≠ '%') :
    percentDecode (char :: text) = (percentDecode text).map (latin (encode char.toNat) ++ ·) := by
  rw [percentDecode, octets_cons]
  apply decode_octets
  intro member
  by_cases ascii : char.toNat < 0x80
  · rw [Utf8.encode_ascii _ ascii, mem_singleton] at member
    exact other (Char.ext (UInt32.toNat_inj.mp member.symm))
  · have := Utf8.encode_high (by omega) member
    omega

theorem decode_percent (text : Text) :
    percentDecode ('%' :: text) =
      if cuts (text.take 2) then none
      else
        match escape (text.take 2) with
        | some hex => (percentDecode (text.drop 2)).map (Char.ofNat hex :: ·)
        | none => (percentDecode text).map ('%' :: ·) := by
  have mark : octets ('%' :: text) = 37 :: octets text := octets_cons '%' text
  simp only [percentDecode, mark]
  cases text with
  | nil => rfl
  | cons first text =>
    rw [octets_cons first text]
    by_cases ascii : first.toNat < 0x80
    · rw [Utf8.encode_ascii _ ascii]
      cases text with
      | nil =>
        have short : ¬ 0x800 ≤ first.toNat := by omega
        simp [cuts, short, escape, octets, percentDecodeOctets]
      | cons second text =>
        rw [octets_cons second text]
        have low : ¬ 0x800 ≤ first.toNat := by omega
        by_cases next : second.toNat < 0x80
        · have tail : isTail first.toNat = false := by
            simp only [isTail, decide_eq_false_iff_not]
            omega
          have keeps : ¬ 0x80 ≤ second.toNat := by omega
          simp [Utf8.encode_ascii _ next, percentDecodeOctets, tail, octets_start, cuts, low, keeps, escape]
        have keeps : 0x80 ≤ second.toNat := by omega
        have tail : ∃ lead follow rest, encode second.toNat = lead :: follow :: rest ∧ isTail follow = true := by
          by_cases short : second.toNat < 0x800
          · obtain ⟨lead, follow, shape, _, tail⟩ := Utf8.encode_two _ keeps short
            exact ⟨lead, follow, [], shape, tail⟩
          · obtain ⟨lead, follow, _, _, shape, _, tail, _⟩ := Utf8.encode_long second.toNat (by omega)
            exact ⟨lead, follow, _, shape, tail⟩
        obtain ⟨lead, follow, rest, shape, tail⟩ := tail
        simp [shape, percentDecodeOctets, startsTail, tail, cuts, ascii, keeps]
    · by_cases short : first.toNat < 0x800
      · obtain ⟨lead, follow, shape, _, tail⟩ := Utf8.encode_two _ (by omega) short
        have start : isTail lead = false := by
          simp only [isTail, decide_eq_false_iff_not]
          omega
        have low : ¬ 0x800 ≤ first.toNat := by omega
        have uncut : cuts ((first :: text).take 2) = false := by
          cases text <;> simp [cuts, low, ascii]
        have none : escape ((first :: text).take 2) = none := by
          cases text with
          | nil => rfl
          | cons => exact radix_high _ _ (by omega)
        simp only [shape, cons_append, nil_append, percentDecodeOctets, start, octets_start, uncut, none,
          radix_high lead follow (by omega), Bool.or_false, Bool.false_eq_true, if_false]
      · obtain ⟨_, _, _, _, shape, _, _, tail⟩ := Utf8.encode_long first.toNat (by omega)
        have far : 0x800 ≤ first.toNat := by omega
        have cutting : cuts ((first :: text).take 2) = true := by
          cases text <;> simp [cuts, far]
        simp only [shape, cons_append, percentDecodeOctets, startsTail, tail, Bool.or_true, if_true, cutting]

theorem escape_parts (text : Text) (hex : Nat) (read : escape (text.take 2) = some hex) :
    ∃ first second rest, text = first :: second :: rest ∧ first ≠ '%' ∧ second ≠ '%' := by
  obtain _ | ⟨first, _ | ⟨second, rest⟩⟩ := text
  · cases read
  · cases read
  · refine ⟨first, second, rest, rfl, ?_, ?_⟩ <;> rintro rfl
    · cases read
    · simp only [take_succ_cons, take_zero, escape, fromStrRadix, hexPair] at read
      have mark : hexValue (Char.ofNat '%'.toNat) = none := by decide
      split at read
      · cases read
      · split at read <;> simp_all

theorem decode_none_iff (value : Text) : percentDecode value = none ↔ cut value = true := by
  induction size : value.length using Nat.strongRecOn generalizing value with
  | _ n ih =>
    subst size
    cases value with
    | nil => simp [percentDecode, octets, percentDecodeOctets, cut, marks]
    | cons char text =>
      have shorter := ih text.length (by simp) text rfl
      by_cases percent : char = '%'
      · subst percent
        have marked : cut ('%' :: text) = (cuts (text.take 2) || cut text) := by simp [cut, marks]
        rw [decode_percent, marked]
        by_cases cutting : cuts (text.take 2) = true
        · simp [cutting]
        simp only [cutting, if_false, Bool.false_or, Bool.false_eq_true]
        cases read : escape (text.take 2) with
        | none => simpa using shorter
        | some hex =>
          obtain ⟨first, second, rest, rfl, one, two⟩ := escape_parts text hex read
          have after := ih rest.length (by simp; omega) rest rfl
          have same : cut (first :: second :: rest) = cut rest := by simp [cut, marks, one, two]
          simpa [same] using after
      · have same : cut (char :: text) = cut text := by simp [cut, marks, percent]
        rw [decode_other percent, same]
        simpa using shorter

theorem latin_append (left right : List Nat) : latin (left ++ right) = latin left ++ latin right := map_append

theorem decode_free {text : Text} (free : '%' ∉ text) : percentDecode text = some (latin (octets text)) := by
  induction text with
  | nil => rfl
  | cons _ _ ih =>
    rw [mem_cons, not_or] at free
    rw [decode_other fun same => free.1 same.symm, ih free.2, octets_cons, latin_append]
    rfl

theorem latin_octets_iff (text : Text) : latin (octets text) = text ↔ isAscii text = true := by
  have long : ∀ text : Text, text.length ≤ (octets text).length ∧
      ((octets text).length = text.length → isAscii text = true) := by
    intro text
    induction text with
    | nil => exact ⟨Nat.le_refl 0, fun _ => rfl⟩
    | cons char _ ih =>
      rw [octets_cons, length_append, length_cons]
      by_cases ascii : char.toNat < 0x80
      · rw [Utf8.encode_ascii _ ascii]
        refine ⟨by simp; omega, fun same => ?_⟩
        simp only [isAscii, all_cons, ascii, decide_true, Bool.true_and]
        exact ih.2 (by simp at same; omega)
      have two : 2 ≤ (encode char.toNat).length := by
        by_cases short : char.toNat < 0x800
        · obtain ⟨_, _, shape, _⟩ := Utf8.encode_two _ (by omega) short
          simp [shape]
        · obtain ⟨_, _, _, _, shape, _⟩ := Utf8.encode_long char.toNat (by omega)
          simp [shape]
      exact ⟨by omega, fun same => by omega⟩
  constructor
  · intro same
    have lengths := congrArg List.length same
    rw [latin, length_map] at lengths
    exact (long text).2 lengths
  · intro ascii
    induction text with
    | nil => rfl
    | cons char _ ih =>
      simp only [isAscii, all_cons, Bool.and_eq_true, decide_eq_true_eq] at ascii
      have head : latin (encode char.toNat) = [char] := by
        rw [Utf8.encode_ascii _ ascii.1, latin, map_singleton, Char.ofNat_toNat]
      rw [octets_cons, latin_append, head, ih ascii.2]
      rfl

-- The standard encoding: letters, digits and - _ . ~ stand for themselves.
def isUnreserved (char : Char) : Bool :=
  let code := char.toNat
  decide (65 ≤ code ∧ code ≤ 90 ∨ 97 ≤ code ∧ code ≤ 122 ∨ 48 ≤ code ∧ code ≤ 57) || [45, 46, 95, 126].contains code

def hexDigit (value : Nat) : Char := Char.ofNat (if value < 10 then 48 + value else 55 + value)

def percentEncoded (octet : Nat) : Text := ['%', hexDigit (octet / 16), hexDigit (octet % 16)]

def percentEncode (text : Text) : Text :=
  text.flatMap fun char => if isUnreserved char then [char] else (encode char.toNat).flatMap percentEncoded

theorem unreserved_ascii {char : Char} (plain : isUnreserved char = true) : char.toNat < 0x80 ∧ char ≠ '%' := by
  constructor
  · simp only [isUnreserved, Bool.or_eq_true, decide_eq_true_eq, contains_iff_mem, mem_cons,
      not_mem_nil, or_false] at plain
    omega
  · rintro rfl
    exact absurd plain (by decide)

theorem decode_encoded_octet {octet : Nat} {rest : Text} (bounded : octet < 256) :
    percentDecode (percentEncoded octet ++ rest) = (percentDecode rest).map (Char.ofNat octet :: ·) := by
  have digits : ∀ value < 16, hexValue (Char.ofNat (hexDigit value).toNat) = some value ∧
      (hexDigit value).toNat < 0x80 ∧ (hexDigit value).toNat ≠ 43 := by decide
  obtain ⟨upper, _, sign⟩ := digits (octet / 16) (by omega)
  obtain ⟨lower, _, _⟩ := digits (octet % 16) (by omega)
  have uncut : cuts [hexDigit (octet / 16), hexDigit (octet % 16)] = false := by
    simp only [cuts, Bool.or_eq_false_iff, decide_eq_false_iff_not]
    omega
  have read : escape [hexDigit (octet / 16), hexDigit (octet % 16)] = some octet := by
    simp only [escape, fromStrRadix, hexPair, sign, if_false, upper, lower]
    congr 1
    omega
  simp [percentEncoded, decode_percent, uncut, read]

theorem decode_encode (text : Text) : percentDecode (percentEncode text) = some (latin (octets text)) := by
  induction text with
  | nil => rfl
  | cons char text ih =>
    have shape : percentEncode (char :: text) =
        (if isUnreserved char then [char] else (encode char.toNat).flatMap percentEncoded) ++ percentEncode text :=
      flatMap_cons
    have joined : latin (octets (char :: text)) = latin (encode char.toNat) ++ latin (octets text) := by
      rw [octets_cons, latin_append]
    rw [shape, joined]
    by_cases plain : isUnreserved char = true
    · simp [plain, decode_other (unreserved_ascii plain).2, ih]
    simp only [plain, Bool.false_eq_true, if_false]
    have scalar := Utf8.char_scalar char
    simp only [Utf8.isScalar, decide_eq_true_eq] at scalar
    have bounded := fun octet => Utf8.encode_octets char.toNat octet (by omega)
    generalize encode char.toNat = coded at bounded
    induction coded with
    | nil => exact ih
    | cons octet _ inner =>
      rw [flatMap_cons, append_assoc, decode_encoded_octet (bounded octet mem_cons_self),
        inner fun other member => bounded other (List.mem_cons_of_mem _ member)]
      rfl

def reads (route currentPath : Text) : List Text :=
  ((queryOf (orRoot currentPath)).splitOn '&').flatMap (fun part => [(keyValue part).1, (keyValue part).2]) ++
    (bound route currentPath).map Prod.snd

theorem read_parts_none (parts : List Text) :
    readParts parts = none ↔
      ∃ value ∈ parts.flatMap fun part => [(keyValue part).1, (keyValue part).2], cut value = true := by
  induction parts with
  | nil => simp [readParts]
  | cons part parts ih =>
    simp only [flatMap_cons, cons_append, nil_append, mem_cons, exists_eq_or_imp, readParts, ← decode_none_iff] at ih ⊢
    rw [← ih]
    cases percentDecode (keyValue part).1 <;> cases percentDecode (keyValue part).2 <;> cases readParts parts <;> simp

theorem read_query_none (queryString : Text) :
    readQuery queryString = none ↔
      ∃ value ∈ (queryString.splitOn '&').flatMap fun part => [(keyValue part).1, (keyValue part).2],
        cut value = true := by
  rw [← read_parts_none, readQuery]
  split
  · next empty =>
      subst empty
      simp [readParts, keyValue, percentDecode, octets, percentDecodeOctets]
  · simp

theorem read_query_ok {queryString : Text} {read : Except ParseError (List (Text × Text))}
    (done : readQuery queryString = some read) : ∃ query, read = .ok query := by
  unfold readQuery at done
  split at done
  · cases done
    exact ⟨[], rfl⟩
  · obtain ⟨query, _, same⟩ := map_eq_some_iff.mp done
    exact ⟨query, same.symm⟩

theorem parse_panics_iff {route currentPath : Text} :
    parse route currentPath = .panicked ↔ ∃ value ∈ reads route currentPath, cut value = true := by
  have apart : (∃ value ∈ reads route currentPath, cut value = true) ↔ readQuery (queryOf (orRoot currentPath)) = none ∨
        setAll percentDecode (bound route currentPath) .empty = none := by
    rw [read_query_none, set_all_none]
    simp only [reads, mem_append, or_and_right, exists_or, List.mem_map, exists_exists_and_eq_and, decode_none_iff]
  rw [apart, parse, parse_eq]
  simp only [codec]
  cases read : readQuery (queryOf (orRoot currentPath)) with
  | none => simp
  | some =>
    obtain ⟨_, rfl⟩ := read_query_ok read
    cases setAll percentDecode (bound route currentPath) OrderedMap.empty with
    | none => simp
    | some => cases matched route currentPath <;> simp

-- Decoding undoes the encoding, and leaves a text without a percent sign alone, exactly for ASCII texts;
-- parse panics exactly where a value it decodes is cut behind a percent sign.
theorem percent_decoding_iff (text route currentPath : Text) :
    (percentDecode (percentEncode text) = some text ↔ isAscii text = true) ∧
      ('%' ∉ text → (percentDecode text = some text ↔ isAscii text = true)) ∧
      (parse route currentPath ≠ .panicked ↔ ∀ value ∈ reads route currentPath, cut value = false) := by
  refine ⟨?_, fun free => ?_, ?_⟩
  · rw [decode_encode, some.injEq, latin_octets_iff]
  · rw [decode_free free, some.injEq, latin_octets_iff]
  · rw [ne_eq, parse_panics_iff]
    simp

theorem plain_room_decoded :
    percentDecode "room-42".toList = some "room-42".toList ↔ isAscii "room-42".toList = true :=
  (percent_decoding_iff "room-42".toList [] []).2.1 (by decide)

theorem foreign_letters_lost :
    percentDecode (percentEncode "é".toList) ≠ some "é".toList ∧ percentDecode "é".toList ≠ some "é".toList ∧
      parse "/chat/:room".toList "/chat/%€".toList = .panicked := by
  refine ⟨by decide, by decide, parse_panics_iff.mpr ⟨"%€".toList, by decide, by decide⟩⟩

theorem match_segment_differs (routeSeg pathSeg : Text) :
    Rust.matchSegment routeSeg pathSeg = !(Routing.matchSegment routeSeg pathSeg matches .differs) := by
  simp only [Rust.matchSegment, Routing.matchSegment]
  split
  · rfl
  split
  · cases (routeSeg.takeWhile (· ≠ ':')).isPrefixOf pathSeg <;> rfl
  · by_cases same : routeSeg = pathSeg <;> simp [same]

theorem match_segments_fits (routes paths : List Text) :
    Rust.matchSegments routes paths = (decide (routes.length ≤ paths.length) && Routing.fits (routes.zip paths)) := by
  induction routes generalizing paths with
  | nil => simp [Rust.matchSegments, fits]
  | cons routeSeg _ ih =>
    cases paths with
    | nil => rfl
    | cons pathSeg =>
      rw [Rust.matchSegments, ih, match_segment_differs]
      simp only [zip_cons_cons, fits, length_cons, Nat.add_le_add_iff_right]
      cases Routing.matchSegment routeSeg pathSeg <;> simp

theorem squeeze_same (path : Text) : Rust.squeezeSlashes path = Routing.squeezeSlashes path := by
  induction path using Rust.squeezeSlashes.induct with
  | case1 => rfl
  | case2 _ ih => rw [Rust.squeezeSlashes, Routing.squeezeSlashes, ih]
  | case3 _ _ _ ih => rw [Rust.squeezeSlashes, Routing.squeezeSlashes, ih] <;> assumption

theorem split_same (path : Text) : Rust.splitPath path = Routing.splitPath path := by
  simp [Rust.splitPath, Routing.splitPath, squeeze_same]

theorem matches_route_eq (route currentPath : String) :
    matchesRoute route currentPath = Routing.matched route.toList currentPath.toList := by
  have root : (if currentPath = "" then ['/'] else currentPath.toList) = orRoot currentPath.toList := by
    simp [orRoot]
  have path : ∀ text : Text, text.takeWhile (· ≠ '?') = pathOf text := fun _ => rfl
  simp only [matchesRoute, matched, pairsOf, layout, path, root, split_same]
  cases found : (Routing.splitPath route.toList).idxOf? ['*'] with
  | some =>
    simp only [match_segments_fits, bind_some, Routing.Layout.pairs]
    split
    · next longer =>
        rw [decide_eq_false (Nat.not_le.mpr longer)]
        rfl
    next fitting =>
      rw [decide_eq_true (Nat.not_lt.mp fitting)]
      rfl
  | none =>
    by_cases same : (Routing.splitPath route.toList).length =
        (Routing.splitPath (pathOf (orRoot currentPath.toList))).length
    · rw [if_pos same, decide_eq_true same, match_segments_fits, decide_eq_true (Nat.le_of_eq same),
        bind_some, Routing.Layout.pairs, if_neg (by simp [same])]
      rfl
    · rw [if_neg same, decide_eq_false same]
      rfl

end PondSocket.Rust.RouteParser
