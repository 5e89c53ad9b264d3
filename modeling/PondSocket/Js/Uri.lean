import PondSocket.Js.JsString

namespace PondSocket.Js

open Library List

variable (codePoint : Nat)

-- Letters, digits and - _ . ! ~ * ' ( ) stand for themselves.
def isUnescaped (codePoint : Nat) : Bool :=
  decide (65 ≤ codePoint ∧ codePoint ≤ 90 ∨ 97 ≤ codePoint ∧ codePoint ≤ 122 ∨
    48 ≤ codePoint ∧ codePoint ≤ 57) || [45, 95, 46, 33, 126, 42, 39, 40, 41].contains codePoint

def hexDigit (value : Nat) : CodeUnit :=
  if value < 10 then UInt16.ofNat (48 + value) else UInt16.ofNat (55 + value)

def hexValue (unit : CodeUnit) : Option Nat :=
  if 48 ≤ unit ∧ unit ≤ 57 then some (unit.toNat - 48)
  else if 65 ≤ unit ∧ unit ≤ 70 then some (unit.toNat - 55)
  else if 97 ≤ unit ∧ unit ≤ 102 then some (unit.toNat - 87)
  else none

def percentEncoded (octet : Nat) : JsString :=
  [percentSign, hexDigit (octet / 16), hexDigit (octet % 16)]

def encodeCodePoint (codePoint : Nat) : Option JsString :=
  if isUnescaped codePoint then some [UInt16.ofNat codePoint]
  else if Utf8.isScalar codePoint then some ((Utf8.encode codePoint).flatMap percentEncoded)
  else none

def encodeCodePoints : List Nat → Option JsString
  | [] => some []
  | codePoint :: rest =>
    match encodeCodePoint codePoint, encodeCodePoints rest with
    | some first, some later => some (first ++ later)
    | _, _ => none

-- A surrogate without its partner is a URIError, here none.
def encodeURIComponent (text : JsString) : Option JsString :=
  encodeCodePoints (codePoints text)

def hexOctet (high low : CodeUnit) : Option Nat :=
  match hexValue high, hexValue low with
  | some upper, some lower => some (upper * 16 + lower)
  | _, _ => none

def stillMissing (missing octet : Nat) : Option Nat :=
  if missing = 0 then Utf8.needed octet else some (missing - 1)

-- held are the octets read of a code point, missing the number still to come;
-- what is not the encoding of a code point is a URIError, here none.
def decodeFrom : List Nat → Nat → JsString → Option JsString
  | _, missing, [] => if missing = 0 then some [] else none
  | held, missing, first :: rest =>
    if first = percentSign then
      match rest with
      | high :: low :: after =>
        match hexOctet high low with
        | none => none
        | some octet =>
          match stillMissing missing octet with
          | none => none
          | some 0 =>
            match Utf8.decode (held ++ [octet]) with
            | none => none
            | some codePoint => (decodeFrom [] 0 after).map (utf16 codePoint ++ ·)
          | some left => decodeFrom (held ++ [octet]) left after
      | _ => none
    else if missing = 0 then (decodeFrom [] 0 rest).map (first :: ·)
    else none

def decodeURIComponent (text : JsString) : Option JsString :=
  decodeFrom [] 0 text

theorem hex_value_digit {value : Nat} (bounded : value < 16) :
    hexValue (hexDigit value) = some value := by
  revert value
  decide

variable {octet : Nat}

theorem hex_octet_digits (bounded : octet < 256) :
    hexOctet (hexDigit (octet / 16)) (hexDigit (octet % 16)) = some octet := by
  unfold hexOctet
  rw [hex_value_digit (by omega), hex_value_digit (by omega)]
  refine congrArg some ?_
  omega

variable {rest : JsString}

theorem decode_percent {held : List Nat} {missing : Nat} (bounded : octet < 256) :
    decodeFrom held missing (percentEncoded octet ++ rest) =
      match stillMissing missing octet with
      | none => none
      | some 0 =>
        match Utf8.decode (held ++ [octet]) with
        | none => none
        | some codePoint => (decodeFrom [] 0 rest).map (utf16 codePoint ++ ·)
      | some left => decodeFrom (held ++ [octet]) left rest := by
  simp only [percentEncoded, cons_append, nil_append]
  rw [decodeFrom.eq_def]
  simp [hex_octet_digits bounded]

theorem decode_plain {first : CodeUnit} (plain : first ≠ percentSign) :
    decodeFrom [] 0 (first :: rest) = (decodeFrom [] 0 rest).map (first :: ·) := by
  rw [decodeFrom.eq_def]
  simp [plain]

theorem decode_octets (held : List Nat) {octets : List Nat} {codePoint : Nat} (some : octets ≠ [])
    (bounded : ∀ octet ∈ octets, octet < 256) (whole : Utf8.decode (held ++ octets) = .some codePoint) :
    decodeFrom held octets.length (octets.flatMap percentEncoded ++ rest) =
      (decodeFrom [] 0 rest).map (utf16 codePoint ++ ·) := by
  induction octets generalizing held with
  | nil => exact absurd rfl some
  | cons octet octets ih =>
    rw [flatMap_cons, append_assoc, decode_percent (bounded octet mem_cons_self)]
    cases octets with
    | nil => simp [stillMissing, whole]
    | cons =>
      have later := ih (held ++ [octet]) (cons_ne_nil _ _) (fun one member => bounded one (mem_cons_of_mem _ member))
        (by rw [append_assoc]; exact whole)
      exact later

variable {codePoint}

theorem decode_encoded (bounded : codePoint < 0x110000) (scalar : Utf8.isScalar codePoint) :
    decodeFrom [] 0 ((Utf8.encode codePoint).flatMap percentEncoded ++ rest) =
      (decodeFrom [] 0 rest).map (utf16 codePoint ++ ·) := by
  have whole := Utf8.decode_encode codePoint scalar
  have octets := Utf8.encode_octets codePoint
  obtain ⟨first, others, shape, missing⟩ := Utf8.encode_first codePoint bounded
  rw [shape] at whole octets ⊢
  rw [flatMap_cons, append_assoc, decode_percent (octets first bounded mem_cons_self)]
  simp only [stillMissing, if_true, missing]
  cases others with
  | nil => simp [whole]
  | cons =>
    exact decode_octets [first] (cons_ne_nil _ _)
      (fun octet member => octets octet bounded (mem_cons_of_mem _ member)) whole

theorem unescaped_bounds (plain : isUnescaped codePoint) :
    codePoint < 128 ∧ codePoint ≠ 37 ∧ codePoint ≠ 47 ∧ codePoint ≠ 63 := by
  simp only [isUnescaped, contains_eq_mem, mem_cons, not_mem_nil, or_false, Bool.or_eq_true, decide_eq_true_eq] at plain
  omega

theorem decode_code_point (encoded rest : JsString)
    (bounded : codePoint < 0x110000) (made : encodeCodePoint codePoint = some encoded) :
    decodeFrom [] 0 (encoded ++ rest) = (decodeFrom [] 0 rest).map (utf16 codePoint ++ ·) := by
  unfold encodeCodePoint at made
  split at made
  · next plain =>
    have bounds := unescaped_bounds plain
    cases made
    have unit : utf16 codePoint = [UInt16.ofNat codePoint] := by
      unfold utf16
      rw [if_pos (by omega)]
    have notPercent : UInt16.ofNat codePoint ≠ percentSign := by
      intro same
      have values := congrArg UInt16.toNat same
      rw [UInt16.toNat_ofNat_of_lt' (show codePoint < 65536 by omega)] at values
      exact bounds.2.1 values
    rw [unit]
    exact decode_plain notPercent
  · split at made
    · next scalar =>
      cases made
      exact decode_encoded bounded scalar
    · cases made

variable {points : List Nat}

theorem decode_code_points (encoded : JsString) (bounded : ∀ codePoint ∈ points, codePoint < 0x110000)
    (made : encodeCodePoints points = some encoded) : decodeFrom [] 0 encoded = some (points.flatMap utf16) := by
  induction points generalizing encoded with
  | nil =>
    cases made
    rfl
  | cons codePoint _ ih =>
    unfold encodeCodePoints at made
    split at made
    · next first later one others =>
      cases made
      rw [decode_code_point first later (bounded codePoint mem_cons_self) one,
        ih later (fun other member => bounded other (mem_cons_of_mem _ member)) others]
      rfl
    · cases made

variable {encoded text : JsString}

theorem decode_encode_component (made : encodeURIComponent text = some encoded) :
    decodeURIComponent encoded = some text := by
  have points := decode_code_points encoded code_points_bounded made
  rw [utf16_code_points] at points
  exact points

variable {unit : CodeUnit}

theorem percent_encoded_free (bounded : octet < 256) (member : unit ∈ percentEncoded octet) :
    unit ≠ slash ∧ unit ≠ questionMark := by
  have digits : ∀ value < 16, hexDigit value ≠ slash ∧ hexDigit value ≠ questionMark := by
    decide
  simp only [percentEncoded, mem_cons, not_mem_nil, or_false] at member
  rcases member with same | same | same
  · rw [same]
    decide
  · rw [same]
    exact digits _ (by omega)
  · rw [same]
    exact digits _ (by omega)

theorem code_point_free (encoded : JsString) (unit : CodeUnit)
    (bounded : codePoint < 0x110000) (made : encodeCodePoint codePoint = some encoded)
    (member : unit ∈ encoded) : unit ≠ slash ∧ unit ≠ questionMark := by
  unfold encodeCodePoint at made
  split at made
  · next plain =>
    have bounds := unescaped_bounds plain
    cases made
    rw [mem_singleton] at member
    have value : unit.toNat = codePoint := by
      rw [member]
      exact UInt16.toNat_ofNat_of_lt' (show codePoint < 65536 by omega)
    constructor
    · rintro rfl
      exact bounds.2.2.1 value.symm
    · rintro rfl
      exact bounds.2.2.2 value.symm
  · split at made
    · cases made
      obtain ⟨octet, known, inside⟩ := mem_flatMap.mp member
      exact percent_encoded_free (Utf8.encode_octets codePoint octet bounded known) inside
    · cases made

theorem code_points_free (encoded : JsString) (bounded : ∀ codePoint ∈ points, codePoint < 0x110000)
    (made : encodeCodePoints points = some encoded) (member : unit ∈ encoded) : unit ≠ slash ∧ unit ≠ questionMark := by
  induction points generalizing encoded with
  | nil =>
    cases made
    cases member
  | cons codePoint _ ih =>
    unfold encodeCodePoints at made
    split at made
    · next first later one others =>
      cases made
      rcases mem_append.mp member with early | late
      · exact code_point_free first unit (bounded codePoint mem_cons_self) one early
      · exact ih later (fun other known => bounded other (mem_cons_of_mem _ known)) others late
    · cases made

theorem encode_component_free (made : encodeURIComponent text = some encoded) (member : unit ∈ encoded) :
    unit ≠ slash ∧ unit ≠ questionMark :=
  code_points_free encoded code_points_bounded made member

theorem encode_component_some (some : text ≠ []) (made : encodeURIComponent text = .some encoded) : encoded ≠ [] := by
  rintro rfl
  have back := decode_encode_component made
  cases back
  exact some rfl

-- application/x-www-form-urlencoded, as URLSearchParams reads a query string.
def scalarValues (text : JsString) : List Nat :=
  (codePoints text).map (fun point => if Utf8.isScalar point then point else Utf8.replacement)

def percentDecode : List Nat → List Nat
  | [] => []
  | [octet] => [octet]
  | [first, second] => [first, second]
  | first :: high :: low :: rest =>
    if first = 37 then
      match hexOctet (UInt16.ofNat high) (UInt16.ofNat low) with
      | some octet => octet :: percentDecode rest
      | none => first :: percentDecode (high :: low :: rest)
    else first :: percentDecode (high :: low :: rest)

def formDecode (octets : List Nat) : JsString :=
  (Utf8.decodeLossy (percentDecode (octets.map (fun octet => if octet = 43 then 32 else octet)))).flatMap
    utf16

def formPair (piece : List Nat) : JsString × JsString :=
  (formDecode (piece.takeWhile (· ≠ 61)), formDecode ((piece.dropWhile (· ≠ 61)).drop 1))

def searchParams (queryString : JsString) : List (JsString × JsString) :=
  ((((scalarValues queryString).flatMap Utf8.encode).splitOn 38).filter (· ≠ [])).map formPair

example : searchParams (js "a=1&b=x+y%20z&&c") =
    [(js "a", js "1"), (js "b", js "x y z"), (js "c", [])] := by
  decide

end PondSocket.Js
