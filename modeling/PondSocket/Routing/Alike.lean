import PondSocket.Go.RouteParser
import PondSocket.Python.RouteParser
import PondSocket.Rust.RouteParser

namespace PondSocket.Routing

open Library List Option Rust.RouteParser
open Library.Utf8 (octets encode)
open Rust.RouteParser (percentDecode latin escape cuts cut)
open Go.RouteParser (queryUnescape unescaped)
open Python.RouteParser (unquote unquoteFrom unquoteRun unquoteToBytes)

def hexMark : Text → Option Nat
  | [first, second] => hexPair first second
  | _ => none

-- The octets that Rust's loop makes of a value, each then a character.
inductive Decodes : Text → List Nat → Prop
  | done : Decodes [] []
  | other (char : Char) (rest : Text) (bytes : List Nat) (plain : char ≠ '%') (later : Decodes rest bytes) :
    Decodes (char :: rest) (encode char.toNat ++ bytes)
  | kept (rest : Text) (bytes : List Nat) (none : escape (rest.take 2) = none) (later : Decodes rest bytes) :
    Decodes ('%' :: rest) (37 :: bytes)
  | escaped (first second : Char) (rest : Text) (hex : Nat) (bytes : List Nat)
    (read : escape [first, second] = some hex) (later : Decodes rest bytes) :
    Decodes ('%' :: first :: second :: rest) (hex :: bytes)

def high (bytes : List Nat) : Nat := bytes.countP fun octet => decide (0x80 ≤ octet)

theorem decodes_of_uncut (value : Text) (whole : cut value = false) :
    ∃ bytes, Decodes value bytes ∧ percentDecode value = some (latin bytes) := by
  induction size : value.length using Nat.strongRecOn generalizing value with
  | _ n ih =>
    subst size
    cases value with
    | nil => exact ⟨[], .done, rfl⟩
    | cons char rest =>
      by_cases percent : char = '%'
      · subst percent
        simp only [cut, marks, if_true, any_cons, Bool.or_eq_false_iff] at whole
        obtain ⟨bytes, decodes, read⟩ := ih rest.length (by simp) rest whole.2 rfl
        cases found : escape (rest.take 2) with
        | none =>
          refine ⟨37 :: bytes, .kept rest bytes found decodes, ?_⟩
          simp [decode_percent, whole.1, found, read, latin]
        | some hex =>
          obtain ⟨first, second, after, rfl, one, two⟩ := escape_parts rest hex found
          have uncut : cut after = false := by simpa [cut, marks, one, two] using whole.2
          obtain ⟨tail, later, ends⟩ := ih after.length (by simp; omega) after uncut rfl
          refine ⟨hex :: tail, .escaped first second after hex tail found later, ?_⟩
          rw [decode_percent, whole.1, found]
          simp [ends, latin]
      · have uncut : cut rest = false := by simpa [cut, marks, percent] using whole
        obtain ⟨bytes, decodes, read⟩ := ih rest.length (by simp) rest uncut rfl
        exact ⟨encode char.toNat ++ bytes, .other char rest bytes percent decodes,
          by simp [decode_other percent, read, latin]⟩

theorem hex_value_bounds (char : Char) (value : Nat) (digit : JsonText.hexValue char = some value) :
    value < 16 ∧ char.toNat < 0x80 ∧ char ≠ '%' ∧ char ≠ '+' := by
  have low : value < 16 ∧ char.toNat < 0x80 ∧ 43 < char.toNat := by
    simp only [JsonText.hexValue] at digit
    grind
  refine ⟨low.1, low.2.1, ?_, ?_⟩ <;> rintro rfl <;> exact absurd low.2.2 (by decide)

theorem hex_pair_bounds (first second : Char) (octet : Nat) (read : hexPair first second = some octet) :
    octet < 256 ∧ (first.toNat < 0x80 ∧ first ≠ '%' ∧ first ≠ '+') ∧
      second.toNat < 0x80 ∧ second ≠ '%' ∧ second ≠ '+' := by
  unfold hexPair at read
  split at read
  · next upper lower one two =>
    have left := hex_value_bounds first upper one
    have right := hex_value_bounds second lower two
    cases read
    exact ⟨by omega, left.2, right.2⟩
  · cases read

theorem escape_of_hex (mark : Text) (octet : Nat) (read : hexMark mark = some octet) : escape mark = some octet := by
  obtain _ | ⟨first, _ | ⟨second, _ | ⟨third, rest⟩⟩⟩ := mark
  · cases read
  · cases read
  · have sign : first.toNat ≠ 43 := fun same =>
      (hex_pair_bounds first second octet read).2.1.2.2 (Char.ext (UInt32.toNat_inj.mp same))
    simpa only [hexMark, escape, fromStrRadix, sign, if_false, Char.ofNat_toNat] using read
  · cases read

theorem escape_bounds (first second : Char) (hex : Nat) (read : escape [first, second] = some hex) :
    hex < 256 ∧ first.toNat < 0x80 ∧ second.toNat < 0x80 := by
  simp only [escape, fromStrRadix, Char.ofNat_toNat] at read
  split at read
  · have bounds := hex_value_bounds second hex read
    exact ⟨by omega, by omega, bounds.2.1⟩
  · have bounds := hex_pair_bounds first second hex read
    exact ⟨bounds.1, bounds.2.1.1, bounds.2.2.1⟩

theorem marks_escaped (first second : Char) (rest : Text) (hex : Nat) (read : escape [first, second] = some hex) :
    marks ('%' :: first :: second :: rest) = [first, second] :: marks rest := by
  obtain ⟨_, _, _, same, one, two⟩ := escape_parts (first :: second :: rest) hex read
  cases same
  simp [marks, one, two]

variable {bytes : List Nat}

theorem high_ascii : high bytes = 0 ↔ ∀ octet ∈ bytes, octet < 0x80 := by
  simp [high]

theorem high_cons (octet : Nat) (bytes : List Nat) :
    high (octet :: bytes) = high bytes + if 0x80 ≤ octet then 1 else 0 := by
  simp [high, countP_cons]

theorem high_append (left right : List Nat) : high (left ++ right) = high left + high right := countP_append

theorem latin_octets (bounded : ∀ octet ∈ bytes, octet < 256) :
    high (octets (latin bytes)) = 2 * high bytes ∧ (high bytes = 0 → octets (latin bytes) = bytes) := by
  induction bytes with
  | nil => exact ⟨rfl, fun _ => rfl⟩
  | cons octet bytes ih =>
    obtain ⟨double, plain⟩ := ih fun other member => bounded other (mem_cons_of_mem _ member)
    have small := bounded octet mem_cons_self
    have code : (Char.ofNat octet).toNat = octet := by
      rw [Char.ofNat, dif_pos (show octet.isValidChar from .inl (by omega))]
      rfl
    have shape : octets (latin (octet :: bytes)) = encode octet ++ octets (latin bytes) := by
      rw [latin, map_cons, octets_cons, code]
      rfl
    rw [shape, high_append, double, high_cons]
    by_cases ascii : octet < 0x80
    · rw [Utf8.encode_ascii _ ascii, if_neg (by omega), high_cons, if_neg (by omega)]
      refine ⟨by simp [high], fun none => ?_⟩
      rw [plain (by simpa using none)]
      rfl
    have two : high (encode octet) = 2 := by
      obtain ⟨_, _, form, _, tail⟩ := Utf8.encode_two octet (by omega) (by omega)
      simp only [Utf8.isTail, decide_eq_true_eq] at tail
      rw [form, high_cons, high_cons, if_pos (by omega), if_pos (by omega)]
      rfl
    rw [two, if_pos (by omega)]
    exact ⟨by omega, fun none => by omega⟩

theorem encode_high (char : Char) : (char.toNat < 0x80 → high (encode char.toNat) = 0) ∧
    (¬ char.toNat < 0x80 → high (encode char.toNat) = (encode char.toNat).length ∧ 0 < (encode char.toNat).length) := by
  constructor
  · intro ascii
    rw [Utf8.encode_ascii _ ascii, high_ascii]
    simpa using ascii
  · intro foreign
    obtain ⟨_, _, shape, _⟩ := Utf8.encode_first char.toNat Utf8.char_bounded
    refine ⟨countP_eq_length.mpr fun octet member => ?_, by simp [shape]⟩
    simpa using Utf8.encode_high (by omega) member

structure Account (value : Text) (bytes : List Nat) : Prop where
  bounded : ∀ octet ∈ bytes, octet < 256
  grows : high (octets value) ≤ high bytes
  clean : high bytes = 0 ↔ isAscii value = true ∧ ∀ mark ∈ marks value, ∀ hex, escape mark = some hex → hex < 0x80
  shrinks : bytes.length ≤ (octets value).length
  whole : bytes = octets value ↔ ∀ mark ∈ marks value, escape mark = none

variable {value : Text}

theorem account (decodes : Decodes value bytes) : Account value bytes := by
  induction decodes with
  | done => exact ⟨by simp, Nat.le_refl 0, by simp [high, isAscii, marks], Nat.le_refl 0, by simp [octets, marks]⟩
  | other char rest _ plain _ ih =>
    have here := encode_high char
    have same : marks (char :: rest) = marks rest := by simp [marks, plain]
    refine ⟨?_, ?_, ?_, ?_, ?_⟩
    · intro octet member
      rcases mem_append.mp member with first | after
      · exact Utf8.encode_octets _ _ Utf8.char_bounded first
      · exact ih.bounded octet after
    · rw [octets_cons, high_append, high_append]
      exact Nat.add_le_add_left ih.grows _
    · rw [high_append, same]
      by_cases ascii : char.toNat < 0x80
      · rw [here.1 ascii, Nat.zero_add, ih.clean]
        simp [isAscii, ascii]
      · simp only [isAscii, all_cons, ascii, decide_false, Bool.false_and, Bool.false_eq_true, false_and, iff_false]
        omega
    · rw [octets_cons, length_append, length_append]
      exact Nat.add_le_add_left ih.shrinks _
    · rw [octets_cons, append_cancel_left_eq, same, ih.whole]
  | kept rest _ none _ ih =>
    have shape : octets ('%' :: rest) = 37 :: octets rest := octets_cons '%' rest
    have first : marks ('%' :: rest) = rest.take 2 :: marks rest := rfl
    refine ⟨?_, ?_, ?_, ?_, ?_⟩
    · intro octet member
      rcases mem_cons.mp member with rfl | after
      · decide
      · exact ih.bounded octet after
    · rw [shape, high_cons, high_cons]
      exact Nat.add_le_add_right ih.grows _
    · rw [high_cons, first, forall_mem_cons, none]
      simp only [Nat.reduceLeDiff, if_false, Nat.add_zero, ih.clean]
      simp [isAscii]
    · exact Nat.succ_le_succ ih.shrinks
    · rw [shape, first, forall_mem_cons, cons.injEq, ih.whole]
      simp [none]
  | escaped first second rest hex _ read _ ih =>
    obtain ⟨bounded, left, right⟩ := escape_bounds first second hex read
    have shape : octets ('%' :: first :: second :: rest) = 37 :: first.toNat :: second.toNat :: octets rest := by
      simp only [octets_cons, Utf8.encode_ascii _ left, Utf8.encode_ascii _ right]
      rfl
    have marked := marks_escaped first second rest hex read
    refine ⟨?_, ?_, ?_, ?_, ?_⟩
    · intro octet member
      rcases mem_cons.mp member with rfl | after
      · exact bounded
      · exact ih.bounded octet after
    · have grows := ih.grows
      simp only [shape, high_cons, Nat.not_le.mpr left, Nat.not_le.mpr right, Nat.reduceLeDiff, if_false, Nat.add_zero]
      omega
    · rw [high_cons, marked, forall_mem_cons, read]
      have clean := ih.clean
      simp only [isAscii, all_cons, left, right, decide_true, Bool.true_and, some.injEq, forall_eq'] at clean ⊢
      by_cases low : hex < 0x80
      · simp [low, Nat.not_le.mpr low, clean]
      · simp [low, Nat.not_lt.mp low]
    · have shrinks := ih.shrinks
      rw [shape]
      simp only [length_cons]
      omega
    · rw [marked, forall_mem_cons, read, shape]
      have shrinks := ih.shrinks
      constructor
      · intro same
        have lengths := congrArg List.length same
        simp only [length_cons] at lengths
        omega
      · intro none
        cases none.1

theorem unescape_none_iff : queryUnescape value = none ↔ ∃ mark ∈ marks value, hexMark mark = none := by
  fun_induction queryUnescape value with
  | case1 => simp [marks]
  | case2 first second _ octet read ih =>
    have bounds := hex_pair_bounds first second octet read
    simp [read, marks, bounds.2.1.2.1, bounds.2.2.2.1, hexMark, ih]
  | case3 _ _ _ read => simp [read, marks, hexMark]
  | case4 rest short =>
    have open_mark : hexMark (rest.take 2) = none := by
      obtain _ | ⟨first, _ | ⟨second, more⟩⟩ := rest
      · rfl
      · rfl
      · exact (short first second more rfl).elim
    simp [marks, open_mark]
  | case5 _ ih => simp [marks, ih]
  | case6 char _ _ percent _ ih =>
    have plain : char ≠ '%' := percent
    simp [marks, ih, plain]

-- The text that Go unescapes differs from Rust's octets only where a plus sign stands.
theorem unescape_decodes (decodes : Decodes value bytes) (octets : List Nat)
    (read : queryUnescape value = some octets) : high octets = high bytes ∧ (octets = bytes ↔ '+' ∉ value) := by
  induction decodes generalizing octets with
  | done =>
    cases read
    simp
  | other char _ _ plain _ ih =>
    by_cases plus : char = '+'
    · subst plus
      simp only [queryUnescape, map_eq_some_iff] at read
      obtain ⟨after, unescaped, rfl⟩ := read
      have same := (ih after unescaped).1
      have sign : encode '+'.toNat = [43] := by decide
      rw [sign, singleton_append, high_cons, high_cons, same]
      simp
    · rw [queryUnescape] at read
      · obtain ⟨after, unescaped, rfl⟩ := map_eq_some_iff.mp read
        obtain ⟨same, iff⟩ := ih after unescaped
        rw [high_append, high_append, same, append_cancel_left_eq, iff]
        rw [mem_cons, not_or]
        exact ⟨rfl, fun free => ⟨fun same => plus same.symm, free⟩, And.right⟩
      all_goals intros; first | exact plain ‹_› | exact plus ‹_›
  | kept rest _ unread =>
    have whole : ∃ mark ∈ marks ('%' :: rest), hexMark mark = none := by
      refine ⟨rest.take 2, mem_cons_self, ?_⟩
      cases read_mark : hexMark (rest.take 2) with
      | none => rfl
      | some => rw [escape_of_hex _ _ read_mark] at unread; cases unread
    rw [unescape_none_iff.mpr whole] at read
    cases read
  | escaped first second _ hex _ pair _ ih =>
    rw [queryUnescape] at read
    split at read
    · next octet found =>
      have same := escape_of_hex [first, second] octet found
      rw [pair] at same
      cases same
      obtain ⟨after, unescaped, rfl⟩ := map_eq_some_iff.mp read
      obtain ⟨equal, iff⟩ := ih after unescaped
      have bounds := hex_pair_bounds first second hex found
      rw [high_cons, high_cons, equal, cons.injEq, iff]
      simp [Ne.symm bounds.2.1.2.2, Ne.symm bounds.2.2.2.2]
    · cases read

theorem unquote_bytes_eq (decodes : Decodes value bytes) (agree : ∀ mark ∈ marks value, escape mark = hexMark mark) :
    unquoteToBytes value = bytes := by
  induction decodes with
  | done => rfl
  | other _ _ _ plain _ ih =>
    rw [unquoteToBytes, ih fun mark member => agree mark (by simpa [marks, plain] using member)]
    intros
    exact plain ‹_›
  | kept rest _ unread _ ih =>
    have first := agree (rest.take 2) mem_cons_self
    have after := ih fun mark member => agree mark (mem_cons_of_mem _ member)
    obtain _ | ⟨one, _ | ⟨two, more⟩⟩ := rest
    · exact congrArg (37 :: ·) after
    · exact congrArg (37 :: ·) after
    · have pair : hexPair one two = none := first.symm.trans unread
      rw [unquoteToBytes, pair, after]
  | escaped first second rest hex _ read _ ih =>
    rw [marks_escaped first second rest hex read, forall_mem_cons] at agree
    have pair : hexPair first second = some hex := agree.1.symm.trans read
    rw [unquoteToBytes, pair, ih agree.2]

theorem unquote_ascii (ascii : isAscii value = true) (run : Text) :
    unquoteFrom run value = unquoteRun (run ++ value) := by
  induction value generalizing run with
  | nil => rw [unquoteFrom, append_nil]
  | cons _ _ ih =>
    simp only [isAscii, all_cons, Bool.and_eq_true, decide_eq_true_eq] at ascii
    rw [unquoteFrom, if_pos ascii.1, ih ascii.2, append_assoc]
    rfl

theorem ascii_uncut (ascii : isAscii value = true) : cut value = false := by
  have low : ∀ char ∈ value, char.toNat < 0x80 := by simpa [isAscii] using ascii
  clear ascii
  induction value with
  | nil => rfl
  | cons _ rest ih =>
    have later := ih fun other member => low other (mem_cons_of_mem _ member)
    simp only [cut, marks] at later ⊢
    split
    · rw [any_cons, later, Bool.or_false]
      obtain _ | ⟨first, _ | ⟨second, more⟩⟩ := rest
      · rfl
      · have one := low first (by simp)
        simp only [take_succ_cons, take_nil, Rust.RouteParser.cuts, decide_eq_false_iff_not]
        omega
      · have one := low first (by simp)
        have two := low second (by simp)
        simp only [take_succ_cons, take_zero, Rust.RouteParser.cuts, Bool.or_eq_false_iff, decide_eq_false_iff_not]
        omega
    · exact later

theorem marks_free (free : '%' ∉ value) : marks value = [] := by
  induction value with
  | nil => rfl
  | cons _ _ ih =>
    rw [mem_cons, not_or] at free
    rw [marks, if_neg fun same => free.1 same.symm, ih free.2]

-- A parameter's raw value that the three decode alike.
def Plain (value : Text) : Prop :=
  isAscii value = true ∧
    ((∀ mark ∈ marks value, ∃ octet < 0x80, hexMark mark = some octet) ∧ '+' ∉ value ∨
      (∃ mark ∈ marks value, hexMark mark = none) ∧ ∀ mark ∈ marks value, escape mark = none)

-- What a wildcard takes, which Rust leaves as it is.
def PlainRest (value : Text) : Prop :=
  (∀ mark ∈ marks value, hexMark mark = none) ∧ (marks value = [] → '+' ∉ value)

theorem plain_of_alike (decodes : Decodes value bytes) (alike : unescaped value = octets (latin bytes)) :
    Plain value := by
  have known := account decodes
  obtain ⟨double, back⟩ := latin_octets known.bounded
  unfold unescaped at alike
  cases read : queryUnescape value with
  | some whole =>
    rw [read, getD_some] at alike
    obtain ⟨same, plus⟩ := unescape_decodes decodes whole read
    have clean : high bytes = 0 := by
      rw [alike, double] at same
      omega
    obtain ⟨ascii, low⟩ := known.clean.mp clean
    refine ⟨ascii, .inl ⟨fun mark member => ?_, plus.mp (alike.trans (back clean))⟩⟩
    cases found : hexMark mark with
    | none =>
      rw [unescape_none_iff.mpr ⟨mark, member, found⟩] at read
      cases read
    | some octet => exact ⟨octet, low mark member octet (escape_of_hex mark octet found), rfl⟩
  | none =>
    rw [read, getD_none] at alike
    have clean : high bytes = 0 := by
      have grows := known.grows
      rw [alike, double] at grows
      omega
    exact ⟨(known.clean.mp clean).1, .inr ⟨unescape_none_iff.mp read, known.whole.mp (alike.trans (back clean)).symm⟩⟩

theorem alike_of_plain (plain : Plain value) :
    ∃ text, percentDecode value = some text ∧ unescaped value = octets text ∧ unescaped value = octets (unquote value) := by
  obtain ⟨ascii, kind⟩ := plain
  obtain ⟨bytes, decodes, read⟩ := decodes_of_uncut value (ascii_uncut ascii)
  have known := account decodes
  have agree : (∀ mark ∈ marks value, escape mark = hexMark mark) ∧
      ∀ mark ∈ marks value, ∀ hex, escape mark = some hex → hex < 0x80 := by
    rcases kind with ⟨pairs, _⟩ | ⟨_, none⟩
    · constructor <;> intro mark member <;> obtain ⟨octet, low, found⟩ := pairs mark member
      · rw [escape_of_hex mark octet found, found]
      · intro hex other
        rw [escape_of_hex mark octet found] at other
        cases other
        exact low
    constructor <;> intro mark member
    · cases found : hexMark mark with
      | none => exact none mark member
      | some octet =>
        have unread := none mark member
        rw [escape_of_hex mark octet found] at unread
        cases unread
    · intro hex other
      rw [none mark member] at other
      cases other
  have clean := known.clean.mpr ⟨ascii, agree.2⟩
  have back := (latin_octets known.bounded).2 clean
  have go : unescaped value = bytes := by
    unfold unescaped
    cases whole : queryUnescape value with
    | some text =>
      rcases kind with ⟨_, plus⟩ | ⟨broken, _⟩
      · exact (unescape_decodes decodes text whole).2.mpr plus
      · rw [unescape_none_iff.mpr broken] at whole
        cases whole
    | none =>
      rcases kind with ⟨pairs, _⟩ | ⟨_, unread⟩
      · obtain ⟨mark, member, found⟩ := unescape_none_iff.mp whole
        obtain ⟨_, _, other⟩ := pairs mark member
        rw [found] at other
        cases other
      · exact (known.whole.mpr unread).symm
  have python : octets (unquote value) = bytes := by
    unfold unquote
    split
    · rw [unquote_ascii ascii, nil_append, unquoteRun, unquote_bytes_eq decodes agree.1,
        Utf8.lossy_ascii (high_ascii.mp clean)]
      exact back
    · next free =>
      exact (known.whole.mpr (by simp [marks_free free])).symm
  exact ⟨latin bytes, read, go.trans back.symm, go.trans python.symm⟩

theorem marks_run {run rest : Text} {char : Char} (foreign : ¬ char.toNat < 0x80) :
    (∀ mark ∈ marks (run ++ char :: rest), hexMark mark = none) ↔
      (∀ mark ∈ marks run, hexMark mark = none) ∧ ∀ mark ∈ marks rest, hexMark mark = none := by
  have no_digit : JsonText.hexValue char = none := by
    cases digit : JsonText.hexValue char with
    | none => rfl
    | some value => exact absurd (hex_value_bounds char value digit).2.1 foreign
  induction run with
  | nil =>
    have plain : char ≠ '%' := by
      rintro rfl
      exact foreign (by decide)
    simp [marks, plain]
  | cons _ run ih =>
    rw [cons_append, marks, marks]
    split
    · have cut_short : hexMark ((run ++ char :: rest).take 2) = hexMark (run.take 2) := by
        obtain _ | ⟨second, _ | ⟨third, more⟩⟩ := run
        · cases rest with
          | nil => rfl
          | cons => simp [hexMark, hexPair, no_digit]
        · simp [hexMark, hexPair, no_digit]
        · rfl
      rw [forall_mem_cons, forall_mem_cons, cut_short, and_assoc]
      exact and_congr Iff.rfl ih
    · exact ih

theorem unquote_bytes_run {run : Text} (ascii : isAscii run = true) :
    (unquoteToBytes run).length ≤ run.length ∧
      ((unquoteToBytes run).length = run.length → ∀ mark ∈ marks run, hexMark mark = none) ∧
      ((∀ mark ∈ marks run, hexMark mark = none) → unquoteToBytes run = octets run) := by
  fun_induction unquoteToBytes run with
  | case1 => simp [marks, octets]
  | case2 first second _ octet read ih =>
    have bounds := hex_pair_bounds first second octet read
    have shorter := ih (by simpa [isAscii, bounds] using ascii)
    simp only [length_cons, marks, if_true, if_neg bounds.2.1.2.1, if_neg bounds.2.2.2.1, take_succ_cons,
      take_zero, forall_mem_cons, hexMark, read]
    refine ⟨by omega, by omega, fun none => ?_⟩
    cases none.1
  | case3 _ _ _ read ih =>
    have later := ih (by simpa [isAscii] using ascii)
    simp only [length_cons, marks, if_true, take_succ_cons, take_zero, forall_mem_cons, hexMark,
      read, true_and] at later ⊢
    refine ⟨by omega, fun same => later.2.1 (by omega), fun none => ?_⟩
    rw [later.2.2 none]
    rfl
  | case4 char rest short ih =>
    simp only [isAscii, all_cons, Bool.and_eq_true, decide_eq_true_eq] at ascii
    have later := ih ascii.2
    have first : ∀ mark ∈ marks (char :: rest), mark ∈ marks rest ∨ hexMark mark = none := by
      intro mark member
      rw [marks] at member
      split at member
      · next percent =>
        rcases mem_cons.mp member with rfl | after
        · right
          obtain _ | ⟨one, _ | ⟨two, more⟩⟩ := rest
          · rfl
          · rfl
          · exact (short one two more percent rfl).elim
        · exact .inl after
      · exact .inl member
    have inside : ∀ mark ∈ marks rest, mark ∈ marks (char :: rest) := by
      intro mark member
      rw [marks]
      split
      · exact mem_cons_of_mem _ member
      · exact member
    rw [octets_cons, Utf8.encode_ascii _ ascii.1]
    simp only [singleton_append, length_cons]
    refine ⟨by omega, fun same mark member => ?_, fun none => ?_⟩
    · rcases first mark member with after | here
      · exact later.2.1 (by omega) mark after
      · exact here
    · rw [later.2.2 fun mark member => none mark (inside mark member)]

theorem octets_ascii {text : Text} (ascii : isAscii text = true) : octets text = text.map Char.toNat := by
  induction text with
  | nil => rfl
  | cons _ _ ih =>
    simp only [isAscii, all_cons, Bool.and_eq_true, decide_eq_true_eq] at ascii
    rw [octets_cons, Utf8.encode_ascii _ ascii.1, ih ascii.2]
    rfl

theorem unquote_from_run (rest run : Text) (ascii : isAscii run = true) :
    (unquoteFrom run rest).length ≤ run.length + rest.length ∧
      ((unquoteFrom run rest).length = run.length + rest.length → ∀ mark ∈ marks (run ++ rest), hexMark mark = none) ∧
      ((∀ mark ∈ marks (run ++ rest), hexMark mark = none) → unquoteFrom run rest = run ++ rest) := by
  have whole : ∀ run, isAscii run = true → (unquoteRun run).length ≤ run.length ∧
      ((unquoteRun run).length = run.length → ∀ mark ∈ marks run, hexMark mark = none) ∧
      ((∀ mark ∈ marks run, hexMark mark = none) → unquoteRun run = run) := by
    intro run ascii
    obtain ⟨_, strict, same⟩ := unquote_bytes_run ascii
    have lossy := Utf8.lossy_length none (unquoteToBytes run)
    simp only [unquoteRun, length_map, Utf8.decodeLossy]
    simp only [isSome_none, Bool.false_eq_true, if_false, Nat.add_zero] at lossy
    refine ⟨by omega, fun equal => strict (by omega), fun none => ?_⟩
    have codes := octets_ascii ascii
    have low : ∀ octet ∈ run.map Char.toNat, octet < 0x80 := by simpa [isAscii] using ascii
    rw [same none, codes, ← Utf8.decodeLossy, Utf8.lossy_ascii low, List.map_map]
    simp [Function.comp_def]
  induction rest generalizing run with
  | nil =>
    simp only [unquoteFrom, append_nil, length_nil, Nat.add_zero]
    exact whole run ascii
  | cons char _ ih =>
    rw [unquoteFrom]
    split
    · next low =>
      have later := ih (run ++ [char]) (by simpa [isAscii, low] using ascii)
      simp only [append_assoc, singleton_append, length_append, length_singleton] at later
      refine ⟨?_, fun same => later.2.1 ?_, later.2.2⟩ <;> simp only [length_cons] at * <;> omega
    next foreign =>
    have later := ih [] rfl
    have first := whole run ascii
    rw [marks_run foreign]
    simp only [nil_append, length_nil, Nat.zero_add, length_append, length_cons] at later ⊢
    refine ⟨by omega, fun same => ⟨first.2.1 (by omega), later.2.1 (by omega)⟩, fun none => ?_⟩
    rw [first.2.2 none.1, later.2.2 none.2]

theorem unquote_same_iff : unquote value = value ↔ ∀ mark ∈ marks value, hexMark mark = none := by
  obtain ⟨_, strict, same⟩ := unquote_from_run value [] rfl
  simp only [nil_append, length_nil, Nat.zero_add] at strict same
  unfold unquote
  split
  · exact ⟨fun equal => strict (congrArg List.length equal), same⟩
  next free =>
  refine ⟨fun _ mark member => ?_, fun _ => rfl⟩
  rw [marks_free free] at member
  cases member

theorem rest_alike_iff :
    unescaped value = octets value ∧ unescaped value = octets (unquote value) ↔ PlainRest value := by
  have bare : marks value = [] → (unescaped value = octets value ↔ '+' ∉ value) := by
    intro none
    obtain ⟨_, decodes, _⟩ := decodes_of_uncut value (by simp [cut, none])
    have whole := (account decodes).whole.mpr (by simp [none])
    cases read : queryUnescape value with
    | none =>
      obtain ⟨mark, member, _⟩ := unescape_none_iff.mp read
      rw [none] at member
      cases member
    | some text =>
      have plus := (unescape_decodes decodes text read).2
      rw [whole] at plus
      rw [unescaped, read]
      exact plus
  have marked : (∀ mark ∈ marks value, hexMark mark = none) → marks value ≠ [] → unescaped value = octets value := by
    intro none some
    obtain ⟨mark, member⟩ := exists_mem_of_ne_nil _ some
    rw [unescaped, unescape_none_iff.mpr ⟨mark, member, none mark member⟩]
    rfl
  constructor
  · rintro ⟨same, other⟩
    have back : unquote value = value := Utf8.octets_injective (other.symm.trans same)
    exact ⟨unquote_same_iff.mp back, fun none => (bare none).mp same⟩
  · rintro ⟨none, plus⟩
    have same : unescaped value = octets value := by
      by_cases empty : marks value = []
      · exact (bare empty).mpr (plus empty)
      · exact marked none empty
    refine ⟨same, ?_⟩
    rw [unquote_same_iff.mpr none]
    exact same

theorem value_alike_iff :
    unescaped value = octets (unquote value) ∧ some (unescaped value) = (percentDecode value).map octets ↔
      Plain value := by
  constructor
  · rintro ⟨_, same⟩
    obtain ⟨_, decodes, read⟩ := decodes_of_uncut value (by
      rw [Bool.eq_false_iff, ne_eq, ← decode_none_iff]
      intro panics
      rw [panics] at same
      cases same)
    rw [read] at same
    exact plain_of_alike decodes (some.inj same)
  · intro plain
    obtain ⟨_, read, rust, python⟩ := alike_of_plain plain
    rw [read]
    exact ⟨python, congrArg some rust⟩

-- All refuse, or all find the same parameters and wildcard, compared as octets.
def Alike : Outcome (List Nat) → Outcome Text → Outcome Text → Prop
  | .refused _, .refused _, .refused _ => True
  | .routed go, .routed python, .routed rust =>
    (∀ name, go.params.get? name = (python.params.get? name).map octets ∧
      go.params.get? name = (rust.params.get? name).map octets) ∧
    go.wildcard = python.wildcard.map octets ∧ go.wildcard = rust.wildcard.map octets
  | _, _, _ => False

-- No value that was bound is cut, and where the path matches, the values kept are plain.
def Plainly (route path : Text) : Prop :=
  (∀ binding ∈ bound route path, cut binding.2 = false) ∧
    (matched route path = true →
      (∀ name value, lastValue name (bound route path) = some value → Plain value) ∧
        ∀ value, rest route path = some value → PlainRest value)

theorem set_all_total {V : Type} (decode : Text → V) (rows : List (Text × Text)) (params : OrderedMap Text V) :
    ∃ set, setAll (fun value => some (decode value)) rows params = some set := by
  cases done : setAll (fun value => some (decode value)) rows params with
  | some set => exact ⟨set, rfl⟩
  | none =>
    obtain ⟨_, _, other⟩ := (set_all_none params).mp done
    cases other

-- The ports route a path alike exactly where what they decode is plain.
theorem parsers_alike_iff (route path : Text) (bare : '?' ∉ path) :
    Alike (Go.RouteParser.parse route path) (Python.RouteParser.parse route path)
      (Rust.RouteParser.parse route path) ↔ Plainly route path := by
  obtain ⟨go, go_set⟩ := set_all_total unescaped (bound route path) .empty
  obtain ⟨python, python_set⟩ := set_all_total unquote (bound route path) .empty
  have go_parse := parse_bare Go.RouteParser.codec rfl bare go go_set
  have python_parse := parse_bare Python.RouteParser.codec rfl bare python python_set
  rw [Go.RouteParser.parse, Python.RouteParser.parse, Rust.RouteParser.parse, go_parse, python_parse]
  cases rust_set : setAll percentDecode (bound route path) .empty with
  | none =>
    obtain ⟨binding, member, panics⟩ := (set_all_none _).mp rust_set
    rw [parse_bare_panics codec rfl bare rust_set]
    constructor
    · intro alike
      cases fit : matched route path <;> simp [fit, Alike] at alike
    · intro plainly
      have whole := plainly.1 binding member
      rw [(decode_none_iff binding.2).mp panics] at whole
      cases whole
  | some rust =>
    rw [parse_bare codec rfl bare rust rust_set]
    have uncut : ∀ binding ∈ bound route path, cut binding.2 = false := by
      intro binding member
      rw [Bool.eq_false_iff, ne_eq, ← decode_none_iff]
      intro panics
      rw [(set_all_none _).mpr ⟨binding, member, panics⟩] at rust_set
      cases rust_set
    cases fit : matched route path with
    | false =>
      simp only [Plainly, fit, Bool.false_eq_true, if_false, Alike, false_implies, and_true, true_iff]
      exact uncut
    | true =>
      simp only [Plainly, fit, if_true, Alike, forall_const]
      rw [and_iff_right uncut]
      apply and_congr
      · apply forall_congr'
        intro name
        rw [set_all_get .empty go_set, set_all_get .empty python_set, set_all_get .empty rust_set]
        cases lastValue name (bound route path) with
        | none => simp [OrderedMap.empty, OrderedMap.get?, OrderedMap.findEntry]
        | some =>
          simp only [elim_some, some.injEq, forall_eq', map_some]
          exact value_alike_iff
      · cases rest route path with
        | none => simp
        | some =>
          simp only [map_some, some.injEq, forall_eq', ← rest_alike_iff]
          exact and_comm

theorem plain_room_alike :
    Alike (Go.RouteParser.parse "/chat/:room".toList "/chat/a%20b".toList)
        (Python.RouteParser.parse "/chat/:room".toList "/chat/a%20b".toList)
        (Rust.RouteParser.parse "/chat/:room".toList "/chat/a%20b".toList) ↔
      Plainly "/chat/:room".toList "/chat/a%20b".toList :=
  parsers_alike_iff _ _ (by decide)

theorem plus_read_apart :
    ¬ ∀ route path, '?' ∉ path → Alike (Go.RouteParser.parse route path) (Python.RouteParser.parse route path)
      (Rust.RouteParser.parse route path) := by
  intro claim
  have alike := claim "/:a".toList "/+".toList (by decide)
  have other := (alike.1 ['a']).1
  exact absurd other (by decide)

end PondSocket.Routing
