import PondSocket.Library.Utf8

namespace PondSocket.Js

open Library List

-- A string of the source, as its UTF-16 code units: surrogates may stand alone.
abbrev CodeUnit := UInt16

abbrev JsString := List CodeUnit

abbrev slash : CodeUnit := 47

abbrev questionMark : CodeUnit := 63

abbrev colon : CodeUnit := 58

abbrev star : CodeUnit := 42

abbrev percentSign : CodeUnit := 37

def utf16 (codePoint : Nat) : JsString :=
  if codePoint < 0x10000 then [UInt16.ofNat codePoint]
  else
    [UInt16.ofNat (0xD800 + (codePoint - 0x10000) / 0x400),
      UInt16.ofNat (0xDC00 + (codePoint - 0x10000) % 0x400)]

def js (text : String) : JsString :=
  text.toList.flatMap (fun character => utf16 character.toNat)

def isLead (unit : CodeUnit) : Bool :=
  decide (0xD800 ≤ unit.toNat ∧ unit.toNat < 0xDC00)

def isTrail (unit : CodeUnit) : Bool :=
  decide (0xDC00 ≤ unit.toNat ∧ unit.toNat < 0xE000)

def paired (lead trail : CodeUnit) : Nat :=
  0x10000 + (lead.toNat - 0xD800) * 0x400 + (trail.toNat - 0xDC00)

-- A surrogate without its partner is a code point of its own.
def codePoints : JsString → List Nat
  | [] => []
  | [unit] => [unit.toNat]
  | lead :: trail :: rest =>
    if isLead lead && isTrail trail then paired lead trail :: codePoints rest
    else lead.toNat :: codePoints (trail :: rest)

theorem utf16_unit (unit : CodeUnit) : utf16 unit.toNat = [unit] := by
  have bounded := unit.toNat_lt
  unfold utf16
  rw [if_pos (by omega), UInt16.ofNat_toNat]

theorem utf16_paired {lead trail : CodeUnit} (first : isLead lead) (second : isTrail trail) :
    utf16 (paired lead trail) = [lead, trail] := by
  simp only [isLead, decide_eq_true_eq] at first
  simp only [isTrail, decide_eq_true_eq] at second
  have quotient : 0xD800 + (paired lead trail - 0x10000) / 0x400 = lead.toNat := by
    unfold paired
    omega
  have remainder : 0xDC00 + (paired lead trail - 0x10000) % 0x400 = trail.toNat := by
    unfold paired
    omega
  unfold utf16
  rw [if_neg (by unfold paired; omega), quotient, remainder, UInt16.ofNat_toNat,
    UInt16.ofNat_toNat]

theorem utf16_code_points (text : JsString) : (codePoints text).flatMap utf16 = text := by
  induction text using codePoints.induct with
  | case1 => rfl
  | case2 => simp [codePoints, utf16_unit]
  | case3 _ _ _ both ih =>
    simp only [Bool.and_eq_true] at both
    simp only [codePoints, both.1, both.2, Bool.and_self, if_true, flatMap_cons, ih, utf16_paired both.1 both.2]
    rfl
  | case4 _ _ _ apart ih =>
    simp only [codePoints, apart, if_false, flatMap_cons, ih, utf16_unit, Bool.false_eq_true]
    rfl

variable {text : JsString}

theorem code_points_bounded (codePoint : Nat) (member : codePoint ∈ codePoints text) : codePoint < 0x110000 := by
  induction text using codePoints.induct with
  | case1 => cases member
  | case2 unit =>
    have bounded := unit.toNat_lt
    simp only [codePoints, mem_singleton] at member
    omega
  | case3 _ _ _ both ih =>
    simp only [codePoints, both, if_true, mem_cons] at member
    rcases member with same | later
    · simp only [Bool.and_eq_true, isLead, isTrail, decide_eq_true_eq] at both
      rw [same]
      unfold paired
      omega
    · exact ih later
  | case4 lead _ _ apart ih =>
    have bounded := lead.toNat_lt
    simp only [codePoints, apart, if_false, mem_cons, Bool.false_eq_true] at member
    rcases member with rfl | later
    · omega
    · exact ih later

def split (separator : CodeUnit) (text : JsString) : List JsString :=
  text.splitOn separator

def join (separator : CodeUnit) (texts : List JsString) : JsString :=
  [separator].intercalate texts

@[simp] theorem join_one (separator : CodeUnit) (text : JsString) :
    join separator [text] = text :=
  intercalate_singleton

@[simp] theorem join_more (separator : CodeUnit) (first second : JsString) (rest : List JsString) :
    join separator (first :: second :: rest) =
      first ++ separator :: join separator (second :: rest) := by
  simp [join]

variable {separator : CodeUnit}

theorem split_some : split separator text ≠ [] :=
  splitOn_ne_nil separator text

theorem join_split (separator : CodeUnit) (text : JsString) :
    join separator (split separator text) = text :=
  intercalate_splitOn separator

theorem split_free (free : separator ∉ text) : split separator text = [text] :=
  splitOn_eq_singleton free

theorem split_append (separator : CodeUnit) (first second : JsString) :
    split separator (first ++ separator :: second) =
      split separator first ++ split separator second :=
  splitOn_append_cons_self first second

variable {texts : List JsString}

theorem split_join (some : texts ≠ []) : split separator (join separator texts) = texts.flatMap (split separator) := by
  induction texts with
  | nil => exact absurd rfl some
  | cons _ rest ih =>
    cases rest with
    | nil => simp
    | cons =>
      rw [join_more, split_append, ih (cons_ne_nil _ _)]
      rfl

theorem split_injective {first second : JsString} (same : split separator first = split separator second) :
    first = second := by
  rw [← join_split separator first, same, join_split]

variable {unit : CodeUnit}

theorem join_holds (member : text ∈ texts) (inside : unit ∈ text) : unit ∈ join separator texts := by
  induction texts with
  | nil => cases member
  | cons _ rest ih =>
    cases rest with
    | nil =>
      rw [mem_singleton] at member
      rw [join_one, ← member]
      exact inside
    | cons =>
      rcases mem_cons.mp member with same | later
      · exact mem_append_left _ (same ▸ inside)
      · exact mem_append_right _ (mem_cons_of_mem _ (ih later))

theorem split_first (separator : CodeUnit) (text : JsString) :
    (split separator text).headD [] = text.takeWhile (· ≠ separator) := by
  induction text with
  | nil => rfl
  | cons first rest ih =>
    unfold split at ih ⊢
    rw [splitOn_cons_eq_if_modifyHead]
    by_cases same : first = separator
    · simp [same]
    cases shape : rest.splitOn separator with
    | nil => exact absurd shape (splitOn_ne_nil separator rest)
    | cons =>
      rw [shape] at ih
      simp only [headD_cons] at ih
      simp [same, ih]

theorem split_free_pieces (separator : CodeUnit) (text piece : JsString)
    (member : piece ∈ split separator text) : separator ∉ piece := by
  induction text generalizing piece with
  | nil =>
    have empty : piece = [] := by simpa [split] using member
    rw [empty]
    exact not_mem_nil
  | cons _ rest ih =>
    unfold split at ih member
    rw [splitOn_cons_eq_if_modifyHead] at member
    split at member
    · rcases mem_cons.mp member with rfl | later
      · exact not_mem_nil
      · exact ih piece later
    next different =>
    cases shape : rest.splitOn separator with
    | nil => exact absurd shape (splitOn_ne_nil separator rest)
    | cons head =>
      rw [shape] at ih member
      rcases mem_cons.mp member with rfl | later
      · intro inside
        rcases mem_cons.mp inside with same | deeper
        · exact different (beq_iff_eq.mpr same.symm)
        · exact ih head mem_cons_self deeper
      · exact ih piece (mem_cons_of_mem _ later)

theorem mem_join (member : unit ∈ join separator texts) : unit = separator ∨ ∃ text ∈ texts, unit ∈ text := by
  induction texts with
  | nil => cases member
  | cons first rest ih =>
    cases rest with
    | nil => exact .inr ⟨first, mem_singleton_self _, by simpa using member⟩
    | cons =>
      rw [join_more, mem_append, mem_cons] at member
      rcases member with early | same | later
      · exact .inr ⟨first, mem_cons_self, early⟩
      · exact .inl same
      · rcases ih later with same | ⟨text, known, inside⟩
        · exact .inl same
        · exact .inr ⟨text, mem_cons_of_mem _ known, inside⟩

end PondSocket.Js
