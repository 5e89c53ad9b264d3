import Mathlib.Tactic.Common

namespace Library.Utf8

open List Option

variable (codePoint : Nat)


def isScalar (codePoint : Nat) : Bool :=
  decide (codePoint < 0xD800 ∨ 0xE000 ≤ codePoint ∧ codePoint < 0x110000)

def encode (codePoint : Nat) : List Nat :=
  if codePoint < 0x80 then [codePoint]
  else if codePoint < 0x800 then
    [0xC0 + codePoint / 64, 0x80 + codePoint % 64]
  else if codePoint < 0x10000 then
    [0xE0 + codePoint / 4096, 0x80 + codePoint / 64 % 64, 0x80 + codePoint % 64]
  else
    [0xF0 + codePoint / 262144, 0x80 + codePoint / 4096 % 64, 0x80 + codePoint / 64 % 64,
      0x80 + codePoint % 64]

def isTail (octet : Nat) : Bool :=
  decide (0x80 ≤ octet ∧ octet < 0xC0)

-- The one code point that these octets are the encoding of.
def decode : List Nat → Option Nat
  | [a] => if a < 0x80 then some a else none
  | [a, b] =>
    if 0xC2 ≤ a ∧ a < 0xE0 ∧ isTail b then some ((a - 0xC0) * 64 + (b - 0x80)) else none
  | [a, b, c] =>
    if 0xE0 ≤ a ∧ a < 0xF0 ∧ isTail b ∧ isTail c ∧ (a = 0xE0 → 0xA0 ≤ b) ∧
        (a = 0xED → b < 0xA0) then
      some ((a - 0xE0) * 4096 + (b - 0x80) * 64 + (c - 0x80))
    else none
  | [a, b, c, d] =>
    if 0xF0 ≤ a ∧ a < 0xF5 ∧ isTail b ∧ isTail c ∧ isTail d ∧ (a = 0xF0 → 0x90 ≤ b) ∧
        (a = 0xF4 → b < 0x90) then
      some ((a - 0xF0) * 262144 + (b - 0x80) * 4096 + (c - 0x80) * 64 + (d - 0x80))
    else none
  | _ => none

theorem decode_encode (scalar : isScalar codePoint) :
    decode (encode codePoint) = some codePoint := by
  simp only [isScalar, decide_eq_true_eq] at scalar
  unfold encode
  split
  · next one => simp [decode, one]
  split
  · next two =>
    simp only [decode, isTail, decide_eq_true_eq]
    rw [if_pos (by omega)]
    refine congrArg some ?_
    omega
  split
  · next three =>
    simp only [decode, isTail, decide_eq_true_eq]
    rw [if_pos (by omega)]
    refine congrArg some ?_
    omega
  next four =>
  simp only [decode, isTail, decide_eq_true_eq]
  rw [if_pos (by omega)]
  refine congrArg some ?_
  omega

theorem encode_octets (codePoint octet : Nat) (bounded : codePoint < 0x110000)
    (member : octet ∈ encode codePoint) : octet < 256 := by
  unfold encode at member
  split at member
  · simp at member; omega
  split at member
  · simp at member; omega
  · split at member <;> simp at member <;> omega

-- How many octets still follow a first octet, by its leading ones.
def needed (octet : Nat) : Option Nat :=
  if octet < 0x80 then some 0
  else if octet < 0xC0 then none
  else if octet < 0xE0 then some 1
  else if octet < 0xF0 then some 2
  else if octet < 0xF8 then some 3
  else none

theorem encode_first (bounded : codePoint < 0x110000) :
    ∃ first rest, encode codePoint = first :: rest ∧ needed first = some rest.length := by
  unfold encode
  split
  · next one => exact ⟨_, _, rfl, by simp [needed, one]⟩
  split
  · refine ⟨_, _, rfl, ?_⟩
    simp only [needed, length_cons, length_nil]
    rw [if_neg (by omega), if_neg (by omega), if_pos (by omega)]
  split
  · refine ⟨_, _, rfl, ?_⟩
    simp only [needed, length_cons, length_nil]
    rw [if_neg (by omega), if_neg (by omega), if_neg (by omega), if_pos (by omega)]
  refine ⟨_, _, rfl, ?_⟩
  simp only [needed, length_cons, length_nil]
  rw [if_neg (by omega), if_neg (by omega), if_neg (by omega), if_neg (by omega), if_pos (by omega)]

theorem encode_high {codePoint octet : Nat} (high : 0x80 ≤ codePoint) (member : octet ∈ encode codePoint) :
    0x80 ≤ octet := by
  unfold encode at member
  rw [if_neg (by omega)] at member
  split at member
  · simp at member; omega
  · split at member <;> simp at member <;> omega

theorem encode_ascii (ascii : codePoint < 0x80) : encode codePoint = [codePoint] := by
  rw [encode, if_pos ascii]

theorem encode_two (high : 0x80 ≤ codePoint) (short : codePoint < 0x800) :
    ∃ first second, encode codePoint = [first, second] ∧ 0xC0 ≤ first ∧ isTail second = true := by
  refine ⟨_, _, by rw [encode, if_neg (by omega), if_pos short], by omega, ?_⟩
  simp only [isTail, decide_eq_true_eq]
  omega

theorem encode_long (long : 0x800 ≤ codePoint) :
    ∃ first second third rest, encode codePoint = first :: second :: third :: rest ∧
      0xC0 ≤ first ∧ isTail second = true ∧ isTail third = true := by
  simp only [isTail, decide_eq_true_eq]
  by_cases three : codePoint < 0x10000
  · exact ⟨_, _, _, _, by rw [encode, if_neg (by omega), if_neg (by omega), if_pos three], by omega, by omega, by omega⟩
  · exact ⟨_, _, _, _, by rw [encode, if_neg (by omega), if_neg (by omega), if_neg three], by omega, by omega, by omega⟩

theorem decode_needed {octets : List Nat} {codePoint : Nat} (decoded : decode octets = some codePoint) :
    ∃ first rest, octets = first :: rest ∧ needed first = some rest.length := by
  unfold decode at decoded
  split at decoded
  all_goals first
    | cases decoded
    | (split at decoded
       · refine ⟨_, _, rfl, ?_⟩
         simp only [needed, length_cons, length_nil]
         grind
       · cases decoded)

-- Texts of scalar values, as their octets.
def octets (text : List Char) : List Nat := text.flatMap fun char => encode char.toNat

theorem char_scalar (char : Char) : isScalar char.toNat = true := by
  have valid := char.valid
  simp only [isScalar, decide_eq_true_eq, Char.toNat]
  omega

theorem char_bounded {char : Char} : char.toNat < 0x110000 := by
  have scalar := char_scalar char
  simp only [isScalar, decide_eq_true_eq] at scalar
  omega

-- The decoder that refuses what is not UTF-8: `held` begins a sequence not finished yet.
def readFrom : List Nat → List Nat → Option (List Char)
  | held, [] => if held = [] then some [] else none
  | held, octet :: rest =>
    match decode (held ++ [octet]) with
    | some codePoint => (readFrom [] rest).map (Char.ofNat codePoint :: ·)
    | none => if held.length < 3 then readFrom (held ++ [octet]) rest else none

def read (octets : List Nat) : Option (List Char) := readFrom [] octets

theorem read_from_whole (held : List Nat) {tail rest : List Nat} {char : Char} (some_left : tail ≠ [])
    (whole : held ++ tail = encode char.toNat) :
    readFrom held (tail ++ rest) = (readFrom [] rest).map (char :: ·) := by
  have finished := decode_encode char.toNat (char_scalar char)
  rw [← whole] at finished
  induction tail generalizing held with
  | nil => exact absurd rfl some_left
  | cons octet tail ih =>
    rw [cons_append, readFrom]
    by_cases last : tail = []
    · subst last
      rw [finished]
      simp
    obtain ⟨first, others, shape, length⟩ := decode_needed finished
    have short : decode (held ++ [octet]) = none := by
      cases early : decode (held ++ [octet]) with
      | none => rfl
      | some =>
        obtain ⟨start, _, form, count⟩ := decode_needed early
        have same : start = first := by
          cases held <;> exact (cons.inj form).1.symm.trans (cons.inj shape).1
        have long := congrArg List.length shape
        have brief := congrArg List.length form
        rw [same, length] at count
        simp only [length_append, length_cons, length_nil, some.injEq] at long brief count
        cases tail with
        | nil => exact absurd rfl last
        | cons => simp only [length_cons] at long; omega
    have held_short : held.length < 3 := by
      have long := congrArg List.length shape
      have few : others.length ≤ 3 := by
        simp only [needed] at length
        split at length <;> simp at length <;> grind
      simp only [length_append, length_cons] at long
      cases tail with
      | nil => exact absurd rfl last
      | cons => simp only [length_cons] at long; omega
    rw [short]
    simp only [held_short, if_true]
    exact ih (held ++ [octet]) last (by simpa using whole) (by simpa using finished)

theorem read_octets (text : List Char) : read (octets text) = some text := by
  induction text with
  | nil => rfl
  | cons char text ih =>
    obtain ⟨first, rest, shape, _⟩ := encode_first char.toNat (by
      have scalar := char_scalar char
      simp only [isScalar, decide_eq_true_eq] at scalar
      omega)
    have filled : encode char.toNat ≠ [] := by
      rw [shape]
      exact cons_ne_nil first rest
    calc readFrom [] (encode char.toNat ++ octets text)
        = (read (octets text)).map (char :: ·) := read_from_whole [] filled rfl
      _ = some (char :: text) := by rw [ih, map_some]

theorem octets_injective {left right : List Char} (same : octets left = octets right) : left = right := by
  have read_same := congrArg read same
  rw [read_octets, read_octets] at read_same
  exact some.inj read_same

-- A decoder that never refuses: what is not UTF-8 is replaced.
def replacement : Nat := 0xFFFD

structure Pending where
  codePoint : Nat
  missing : Nat
  lower : Nat
  upper : Nat
deriving DecidableEq

def startOctet (octet : Nat) : List Nat × Option Pending :=
  if octet < 0x80 then ([octet], none)
  else if 0xC2 ≤ octet ∧ octet < 0xE0 then ([], some ⟨octet - 0xC0, 1, 0x80, 0xBF⟩)
  else if 0xE0 ≤ octet ∧ octet < 0xF0 then
    ([], some ⟨octet - 0xE0, 2, if octet = 0xE0 then 0xA0 else 0x80,
      if octet = 0xED then 0x9F else 0xBF⟩)
  else if 0xF0 ≤ octet ∧ octet < 0xF5 then
    ([], some ⟨octet - 0xF0, 3, if octet = 0xF0 then 0x90 else 0x80,
      if octet = 0xF4 then 0x8F else 0xBF⟩)
  else ([replacement], none)

def decodeLossyFrom : Option Pending → List Nat → List Nat
  | none, [] => []
  | some _, [] => [replacement]
  | none, octet :: rest =>
    (startOctet octet).1 ++ decodeLossyFrom (startOctet octet).2 rest
  | some pending, octet :: rest =>
    if pending.lower ≤ octet ∧ octet ≤ pending.upper then
      let codePoint := pending.codePoint * 64 + (octet - 0x80)
      if pending.missing = 1 then codePoint :: decodeLossyFrom none rest
      else decodeLossyFrom (some ⟨codePoint, pending.missing - 1, 0x80, 0xBF⟩) rest
    else
      -- The octet that broke the sequence is read again as a first one.
      replacement :: (startOctet octet).1 ++ decodeLossyFrom (startOctet octet).2 rest

def decodeLossy (octets : List Nat) : List Nat :=
  decodeLossyFrom none octets

theorem lossy_length (held : Option Pending) (octets : List Nat) :
    (decodeLossyFrom held octets).length ≤ octets.length + (if held.isSome then 1 else 0) := by
  have start : ∀ octet, (startOctet octet).1.length + (if (startOctet octet).2.isSome then 1 else 0) ≤ 1 := by
    intro octet
    unfold startOctet
    grind
  induction octets generalizing held with
  | nil => cases held <;> simp [decodeLossyFrom]
  | cons octet _ ih =>
    have next := ih (startOctet octet).2
    have first := start octet
    cases held with
    | none =>
      simp only [decodeLossyFrom, length_append, length_cons]
      omega
    | some pending =>
      simp only [decodeLossyFrom, isSome_some, if_true]
      split
      · split
        · have plain := ih none
          simp at plain ⊢
          omega
        · have more := ih (some ⟨pending.codePoint * 64 + (octet - 0x80), pending.missing - 1, 0x80, 0xBF⟩)
          simp at more ⊢
          omega
      · simp only [length_append, length_cons]
        omega

theorem lossy_ascii {octets : List Nat} (ascii : ∀ octet ∈ octets, octet < 0x80) : decodeLossy octets = octets := by
  induction octets with
  | nil => rfl
  | cons octet _ ih =>
    have low := ascii octet mem_cons_self
    rw [decodeLossy, decodeLossyFrom, startOctet, if_pos low]
    exact congrArg (octet :: ·) (ih fun other member => ascii other (mem_cons_of_mem _ member))

end Library.Utf8
