import Mathlib.Data.List.Basic

namespace Library.JsonText

open List Option

-- The grammar of JSON, on the characters of a text.

def isSpace (char : Char) : Bool := char = ' ' || char = '\t' || char = '\n' || char = '\r'

def skip (text : List Char) : List Char := text.dropWhile isSpace

def isDigit (char : Char) : Bool := decide (48 ≤ char.toNat ∧ char.toNat ≤ 57)

def isNumberChar (char : Char) : Bool :=
  isDigit char || char = '-' || char = '+' || char = '.' || char = 'e' || char = 'E'

def afterDigits : List Char → Option (List Char)
  | [] => none
  | first :: rest => if isDigit first then some (rest.dropWhile isDigit) else none

def afterSign : List Char → List Char
  | [] => []
  | first :: rest => if first = '-' then rest else first :: rest

def afterWhole : List Char → Option (List Char)
  | [] => none
  | first :: rest => if first = '0' then some rest else afterDigits (first :: rest)

def afterFraction : List Char → Option (List Char)
  | [] => some []
  | first :: rest => if first = '.' then afterDigits rest else some (first :: rest)

def afterExponent : List Char → Option (List Char)
  | [] => some []
  | mark :: rest =>
    if mark = 'e' ∨ mark = 'E' then
      match rest with
      | [] => none
      | first :: digits => if first = '+' ∨ first = '-' then afterDigits digits else afterDigits (first :: digits)
    else some (mark :: rest)

def isNumber (chars : List Char) : Bool :=
  chars.all isNumberChar &&
    decide (((afterWhole (afterSign chars)).bind afterFraction).bind afterExponent = some [])

-- A number as it is written: what it is worth is for the reader to say.
structure Number where
  literal : List Char
  valid : isNumber literal = true

inductive Value where
  | null
  | bool (value : Bool)
  | number (value : Number)
  | string (text : String)
  | array (items : List Value)
  | object (fields : List (String × Value))

-- How deep the arrays and objects of a value stand in each other.
mutual

def Value.depth : Value → Nat
  | .array items => depthItems items + 1
  | .object fields => depthFields fields + 1
  | _ => 0

def depthItems : List Value → Nat
  | [] => 0
  | item :: rest => max item.depth (depthItems rest)

def depthFields : List (String × Value) → Nat
  | [] => 0
  | (_, value) :: rest => max value.depth (depthFields rest)

end

-- Whether all the numbers in a value are of a kind.
mutual

def Value.allNumbers (kind : Number → Bool) : Value → Bool
  | .number value => kind value
  | .array items => allNumbersItems kind items
  | .object fields => allNumbersFields kind fields
  | _ => true

def allNumbersItems (kind : Number → Bool) : List Value → Bool
  | [] => true
  | item :: rest => item.allNumbers kind && allNumbersItems kind rest

def allNumbersFields (kind : Number → Bool) : List (String × Value) → Bool
  | [] => true
  | (_, value) :: rest => value.allNumbers kind && allNumbersFields kind rest

end

-- Reading. An escape that is a surrogate without its partner is no character, and is
-- read as what lone puts in its place.
section

variable (lone : Nat → Char)

def hexValue (char : Char) : Option Nat :=
  let code := char.toNat
  if 48 ≤ code ∧ code ≤ 57 then some (code - 48)
  else if 97 ≤ code ∧ code ≤ 102 then some (code - 87)
  else if 65 ≤ code ∧ code ≤ 70 then some (code - 55)
  else none

def readUnit : List Char → Option (Nat × List Char)
  | a :: b :: c :: d :: rest => do
      let a ← hexValue a
      let b ← hexValue b
      let c ← hexValue c
      let d ← hexValue d
      return (((a * 16 + b) * 16 + c) * 16 + d, rest)
  | _ => none

def isLead (unit : Nat) : Bool := decide (0xD800 ≤ unit ∧ unit < 0xDC00)

def isTrail (unit : Nat) : Bool := decide (0xDC00 ≤ unit ∧ unit < 0xE000)

def readTrail : List Char → Option (Nat × List Char)
  | slash :: mark :: rest =>
    if slash = '\\' ∧ mark = 'u' then
      match readUnit rest with
      | none => none
      | some (unit, rest) => if isTrail unit then some (unit, rest) else none
    else none
  | _ => none

def readUnicode (text : List Char) : Option (Char × List Char) :=
  match readUnit text with
  | none => none
  | some (unit, rest) =>
    if isLead unit then
      match readTrail rest with
      | none => some (lone unit, rest)
      | some (trail, rest) => some (Char.ofNat (0x10000 + (unit - 0xD800) * 0x400 + (trail - 0xDC00)), rest)
    else if isTrail unit then some (lone unit, rest)
    else some (Char.ofNat unit, rest)

def escaped (mark : Char) : Option Char :=
  [('"', '"'), ('\\', '\\'), ('/', '/'), ('b', '\x08'), ('f', '\x0c'), ('n', '\n'), ('r', '\r'), ('t', '\t')].lookup mark

def readEscape : List Char → Option (Char × List Char)
  | [] => none
  | mark :: rest => if mark = 'u' then readUnicode lone rest else (escaped mark).map fun char => (char, rest)

def consChar (char : Char) (read : List Char × List Char) : List Char × List Char := (char :: read.1, read.2)

def readString : Nat → List Char → Option (List Char × List Char)
  | 0, _ => none
  | _ + 1, [] => none
  | fuel + 1, first :: rest =>
    if first = '"' then some ([], rest)
    else if first = '\\' then
      match readEscape lone rest with
      | none => none
      | some (char, rest) => (readString fuel rest).map (consChar char)
    else if first.toNat < 32 then none
    else (readString fuel rest).map (consChar first)

def readNumber (text : List Char) : Option (Value × List Char) :=
  let literal := text.takeWhile isNumberChar
  if valid : isNumber literal = true then some (.number ⟨literal, valid⟩, text.dropWhile isNumberChar) else none

def readWord (word : List Char) (value : Value) (text : List Char) : Option (Value × List Char) :=
  if word.isPrefixOf text then some (value, text.drop word.length) else none

mutual

def read : Nat → List Char → Option (Value × List Char)
  | 0, _ => none
  | fuel + 1, text =>
    match skip text with
    | [] => none
    | first :: rest =>
      if first = '"' then
        (readString lone rest.length rest).map fun read => (.string (String.ofList read.1), read.2)
      else if first = '[' then
        match skip rest with
        | [] => none
        | second :: after =>
          if second = ']' then some (.array [], after)
          else (readItems fuel rest).map fun read => (.array read.1, read.2)
      else if first = '{' then
        match skip rest with
        | [] => none
        | second :: after =>
          if second = '}' then some (.object [], after)
          else (readFields fuel rest).map fun read => (.object read.1, read.2)
      else if first = 'n' then readWord ['n', 'u', 'l', 'l'] .null (first :: rest)
      else if first = 't' then readWord ['t', 'r', 'u', 'e'] (.bool true) (first :: rest)
      else if first = 'f' then readWord ['f', 'a', 'l', 's', 'e'] (.bool false) (first :: rest)
      else readNumber (first :: rest)

def readItems : Nat → List Char → Option (List Value × List Char)
  | 0, _ => none
  | fuel + 1, text =>
    match read fuel text with
    | none => none
    | some (item, rest) =>
      match skip rest with
      | [] => none
      | first :: rest =>
        if first = ',' then (readItems fuel rest).map fun read => (item :: read.1, read.2)
        else if first = ']' then some ([item], rest)
        else none

def readFields : Nat → List Char → Option (List (String × Value) × List Char)
  | 0, _ => none
  | fuel + 1, text =>
    match skip text with
    | [] => none
    | quote :: rest =>
      if quote = '"' then
        match readString lone rest.length rest with
        | none => none
        | some (key, rest) =>
          match skip rest with
          | [] => none
          | colon :: rest =>
            if colon = ':' then
              match read fuel rest with
              | none => none
              | some (value, rest) =>
                match skip rest with
                | [] => none
                | first :: rest =>
                  if first = ',' then
                    (readFields fuel rest).map fun read => ((String.ofList key, value) :: read.1, read.2)
                  else if first = '}' then some ([(String.ofList key, value)], rest)
                  else none
            else none
      else none

end

-- A whole text: one value, with nothing but space around it.
def parse (text : List Char) : Option Value :=
  match read lone text.length text with
  | none => none
  | some (value, rest) => if skip rest = [] then some value else none

end

-- How a writer puts the characters of a string: each is read back as itself, and none
-- is written with a control character.
structure Escape where
  write : Char → List Char
  reads : ∀ lone fuel char rest,
    readString lone (fuel + 1) (write char ++ rest) = (readString lone fuel rest).map (consChar char)
  solid : ∀ char, 0 < (write char).length
  printable : ∀ char, ∀ written ∈ write char, 32 ≤ written.toNat

section

variable (escape : Escape)

def renderString (text : String) : List Char := '"' :: (text.toList.flatMap escape.write ++ ['"'])

mutual

def Value.render : Value → List Char
  | .null => ['n', 'u', 'l', 'l']
  | .bool true => ['t', 'r', 'u', 'e']
  | .bool false => ['f', 'a', 'l', 's', 'e']
  | .number value => value.literal
  | .string text => renderString escape text
  | .array items => '[' :: (renderItems items ++ [']'])
  | .object fields => '{' :: (renderFields fields ++ ['}'])

def renderItems : List Value → List Char
  | [] => []
  | item :: rest => item.render ++ if rest.isEmpty then [] else ',' :: renderItems rest

def renderFields : List (String × Value) → List Char
  | [] => []
  | (key, value) :: rest =>
    renderString escape key ++ ':' :: (value.render ++ if rest.isEmpty then [] else ',' :: renderFields rest)

end

-- A text that nothing but the end or one of these can follow a number in.
def Ends (rest : List Char) : Prop := ∀ char after, rest = char :: after → isNumberChar char = false

theorem ends_nil : Ends [] := by
  intro char after same
  cases same

theorem ends_cons (char : Char) (after : List Char) (other : isNumberChar char = false) : Ends (char :: after) := by
  intro found rest same
  cases same
  exact other

theorem skip_cons (char : Char) (rest : List Char) (solid : isSpace char = false) :
    skip (char :: rest) = char :: rest := by
  simp [skip, solid]

theorem number_chars (number : Number) (char : Char) (member : char ∈ number.literal) : isNumberChar char = true := by
  have valid := number.valid
  simp only [isNumber, Bool.and_eq_true] at valid
  exact all_eq_true.mp valid.1 char member

theorem number_solid (number : Number) : number.literal ≠ [] := by
  intro empty
  have valid := number.valid
  rw [empty] at valid
  cases valid

variable {rest : List Char}

theorem take_number {literal : List Char} (chars : ∀ char ∈ literal, isNumberChar char = true) (ends : Ends rest) :
    (literal ++ rest).takeWhile isNumberChar = literal ∧ (literal ++ rest).dropWhile isNumberChar = rest := by
  induction literal with
  | nil =>
    cases rest with
    | nil => exact ⟨rfl, rfl⟩
    | cons char after =>
      have other := ends char after rfl
      simp [other]
  | cons char _ ih =>
    have later := ih fun char member => chars char (mem_cons_of_mem _ member)
    simp [chars char mem_cons_self, later.1, later.2]

variable (lone : Nat → Char)

theorem number_head (number : Number) :
    ∃ first rest, number.literal = first :: rest ∧ isSpace first = false ∧
      ∀ mark, isNumberChar mark = false → first ≠ mark := by
  cases shape : number.literal with
  | nil => exact absurd shape (number_solid number)
  | cons first rest =>
    have char := number_chars number first (by rw [shape]; exact mem_cons_self)
    have other : ∀ mark, isNumberChar mark = false → first ≠ mark := by
      intro mark no same
      rw [same, no] at char
      cases char
    refine ⟨first, rest, rfl, ?_, other⟩
    simp only [isSpace, decide_eq_false (other ' ' (by decide)), decide_eq_false (other '\t' (by decide)),
      decide_eq_false (other '\n' (by decide)), decide_eq_false (other '\r' (by decide)), Bool.or_self]

theorem read_number (number : Number) (ends : Ends rest) :
    readNumber (number.literal ++ rest) = some (.number number, rest) := by
  obtain ⟨taken, left⟩ := take_number (number_chars number) ends
  simp [readNumber, taken, left, number.valid]

theorem read_chars (chars rest : List Char) (fuel : Nat) (enough : chars.length < fuel) :
    readString lone fuel (chars.flatMap escape.write ++ '"' :: rest) = some (chars, rest) := by
  induction chars generalizing fuel with
  | nil =>
    cases fuel with
    | zero => cases enough
    | succ => rfl
  | cons _ _ ih =>
    cases fuel with
    | zero => cases enough
    | succ fuel =>
      rw [flatMap_cons, append_assoc, escape.reads, ih fuel (Nat.lt_of_succ_lt_succ enough)]
      rfl

theorem written_length (chars : List Char) : chars.length ≤ (chars.flatMap escape.write).length := by
  induction chars with
  | nil => exact Nat.le_refl 0
  | cons char =>
    have solid := escape.solid char
    rw [flatMap_cons, length_append, length_cons]
    omega

theorem read_string (text : String) (rest : List Char) :
    readString lone (text.toList.flatMap escape.write ++ '"' :: rest).length
      (text.toList.flatMap escape.write ++ '"' :: rest) = some (text.toList, rest) := by
  apply read_chars
  have written := written_length escape text.toList
  rw [length_append, length_cons]
  omega

mutual

def Value.size : Value → Nat
  | .array items => sizeItems items + 1
  | .object fields => sizeFields fields + 1
  | _ => 1

def sizeItems : List Value → Nat
  | [] => 0
  | item :: rest => max item.size (sizeItems rest) + 1

def sizeFields : List (String × Value) → Nat
  | [] => 0
  | (_, value) :: rest => max value.size (sizeFields rest) + 1

end

theorem render_head (value : Value) :
    ∃ first rest, value.render escape = first :: rest ∧ isSpace first = false ∧ first ≠ ']' := by
  cases value with
  | null => exact ⟨'n', _, rfl, by decide, by decide⟩
  | bool value =>
    cases value with
    | true => exact ⟨'t', _, rfl, by decide, by decide⟩
    | false => exact ⟨'f', _, rfl, by decide, by decide⟩
  | string => exact ⟨'"', _, rfl, by decide, by decide⟩
  | array => exact ⟨'[', _, rfl, by decide, by decide⟩
  | object => exact ⟨'{', _, rfl, by decide, by decide⟩
  | number value =>
    obtain ⟨first, rest, shape, solid, other⟩ := number_head value
    exact ⟨first, rest, shape, solid, other ']' (by decide)⟩

theorem read_numeral (value : Number) (fuel : Nat) (rest : List Char) (ends : Ends rest) :
    read lone (fuel + 1) (value.literal ++ rest) = some (.number value, rest) := by
  have whole := read_number value ends
  obtain ⟨first, _, shape, solid, other⟩ := number_head value
  rw [shape, cons_append] at whole ⊢
  rw [read, skip_cons first _ solid]
  simp only [if_neg (other '"' (by decide)), if_neg (other '[' (by decide)), if_neg (other '{' (by decide)),
    if_neg (other 'n' (by decide)), if_neg (other 't' (by decide)), if_neg (other 'f' (by decide))]
  exact whole

theorem read_text (text : String) (fuel : Nat) (rest : List Char) :
    read lone (fuel + 1) (renderString escape text ++ rest) = some (.string text, rest) := by
  simp only [renderString, cons_append, append_assoc, nil_append]
  rw [read, skip_cons '"' _ (by decide)]
  simp only [if_true]
  rw [read_string escape lone text rest, map_some, String.ofList_toList]

mutual

theorem read_render (value : Value) (fuel : Nat) (rest : List Char) (enough : value.size ≤ fuel) (ends : Ends rest) :
    read lone fuel (value.render escape ++ rest) = some (value, rest) := by
  cases fuel with
  | zero => cases value <;> cases enough
  | succ fuel =>
    cases value with
    | null => rfl
    | bool value => cases value <;> rfl
    | number value => exact read_numeral lone value fuel rest ends
    | string text => exact read_text escape lone text fuel rest
    | array items =>
      simp only [Value.render, cons_append, append_assoc, nil_append]
      rw [read, skip_cons '[' _ (by decide)]
      simp only [if_neg (show ('[' : Char) ≠ '"' by decide), if_true]
      cases items with
      | nil => rfl
      | cons item others =>
        have later := read_render_items item others fuel rest (Nat.le_of_succ_le_succ enough)
        obtain ⟨first, more, shape, solid, other⟩ := render_head escape item
        rw [renderItems, shape, cons_append, cons_append] at later ⊢
        rw [skip_cons first _ solid]
        simp only [if_neg other, later, map_some]
    | object fields =>
      simp only [Value.render, cons_append, append_assoc, nil_append]
      rw [read, skip_cons '{' _ (by decide)]
      simp only [if_neg (show ('{' : Char) ≠ '"' by decide), if_neg (show ('{' : Char) ≠ '[' by decide), if_true]
      cases fields with
      | nil => rfl
      | cons entry others =>
        have later := read_render_fields entry others fuel rest (Nat.le_of_succ_le_succ enough)
        rw [renderFields, renderString, cons_append, cons_append] at later ⊢
        rw [skip_cons '"' _ (by decide)]
        simp only [if_neg (show ('"' : Char) ≠ '}' by decide), later, map_some]
termination_by fuel

theorem read_render_items (item : Value) (others : List Value) (fuel : Nat) (rest : List Char)
    (enough : sizeItems (item :: others) ≤ fuel) :
    readItems lone fuel (renderItems escape (item :: others) ++ ']' :: rest) = some (item :: others, rest) := by
  cases fuel with
  | zero => cases enough
  | succ fuel =>
    have room := Nat.max_le.mp (Nat.le_of_succ_le_succ enough)
    rw [renderItems, append_assoc, readItems]
    cases others with
    | nil =>
      have one := read_render item fuel (']' :: rest) room.1 (ends_cons ']' rest (by decide))
      simp only [isEmpty_nil, if_true, nil_append, one, skip_cons ']' rest (by decide)]
      rfl
    | cons next others =>
      have one := read_render item fuel (',' :: (renderItems escape (next :: others) ++ ']' :: rest)) room.1
        (ends_cons ',' _ (by decide))
      have later := read_render_items next others fuel rest room.2
      simp only [isEmpty_cons, Bool.false_eq_true, if_false, cons_append, one,
        skip_cons ',' _ (show isSpace ',' = false by decide), if_true, later, map_some]
termination_by fuel

theorem read_render_fields (entry : String × Value) (others : List (String × Value)) (fuel : Nat) (rest : List Char)
    (enough : sizeFields (entry :: others) ≤ fuel) :
    readFields lone fuel (renderFields escape (entry :: others) ++ '}' :: rest) = some (entry :: others, rest) := by
  obtain ⟨key, value⟩ := entry
  cases fuel with
  | zero => cases enough
  | succ fuel =>
    have room := Nat.max_le.mp (Nat.le_of_succ_le_succ enough)
    simp only [renderFields, renderString, cons_append, append_assoc, nil_append]
    rw [readFields, skip_cons '"' _ (by decide)]
    simp only [if_true]
    rw [read_string escape lone key]
    simp only [skip_cons ':' _ (show isSpace ':' = false by decide), if_true, String.ofList_toList]
    cases others with
    | nil =>
      have one := read_render value fuel ('}' :: rest) room.1 (ends_cons '}' rest (by decide))
      simp only [isEmpty_nil, if_true, nil_append, one, skip_cons '}' rest (by decide)]
      rfl
    | cons next others =>
      have one := read_render value fuel (',' :: (renderFields escape (next :: others) ++ '}' :: rest)) room.1
        (ends_cons ',' _ (by decide))
      have later := read_render_fields next others fuel rest room.2
      simp only [isEmpty_cons, Bool.false_eq_true, if_false, cons_append, one,
        skip_cons ',' _ (show isSpace ',' = false by decide), if_true, later, map_some]
termination_by fuel

end

mutual

theorem render_length (value : Value) : value.size ≤ (value.render escape).length := by
  cases value with
  | null => exact Nat.le_add_left 1 3
  | bool value => cases value <;> exact Nat.le_add_left 1 _
  | number value => exact length_pos_iff.mpr (number_solid value)
  | string text => exact Nat.le_add_left 1 _
  | array items =>
    have inner := render_items_length items
    simp only [Value.size, Value.render, length_cons, length_append, length_nil]
    omega
  | object fields =>
    have inner := render_fields_length fields
    simp only [Value.size, Value.render, length_cons, length_append, length_nil]
    omega

theorem render_items_length (items : List Value) : sizeItems items ≤ (renderItems escape items).length + 1 := by
  cases items with
  | nil => exact Nat.zero_le _
  | cons item rest =>
    have one := render_length item
    have later := render_items_length rest
    simp only [sizeItems, renderItems, length_append]
    cases rest with
    | nil =>
      simp only [sizeItems, isEmpty_nil, if_true, length_nil]
      omega
    | cons next others =>
      simp only [isEmpty_cons, Bool.false_eq_true, if_false, length_cons]
      omega

theorem render_fields_length (fields : List (String × Value)) :
    sizeFields fields ≤ (renderFields escape fields).length + 1 := by
  cases fields with
  | nil => exact Nat.zero_le _
  | cons entry rest =>
    obtain ⟨key, value⟩ := entry
    have one := render_length value
    have later := render_fields_length rest
    simp only [sizeFields, renderFields, length_append, length_cons]
    cases rest with
    | nil =>
      simp only [sizeFields, isEmpty_nil, if_true, length_nil]
      omega
    | cons next others =>
      simp only [isEmpty_cons, Bool.false_eq_true, if_false, length_cons]
      omega

end

theorem number_char_printable (char : Char) (valid : isNumberChar char = true) : 32 ≤ char.toNat := by
  simp only [isNumberChar, isDigit, Bool.or_eq_true, decide_eq_true_eq] at valid
  rcases valid with ((((_ | same) | same) | same) | same) | same
  · omega
  all_goals
    rw [same]
    decide

theorem render_string_printable (text : String) : ∀ char ∈ renderString escape text, 32 ≤ char.toNat := by
  intro char member
  rcases mem_cons.mp member with same | inside
  · rw [same]
    decide
  rcases mem_append.mp inside with written | last
  · obtain ⟨source, _, found⟩ := mem_flatMap.mp written
    exact escape.printable source char found
  · rw [mem_singleton.mp last]
    decide

theorem word_printable (word : List Char) (plain : word.all (fun char => decide (32 ≤ char.toNat)) = true) :
    ∀ char ∈ word, 32 ≤ char.toNat :=
  fun char member => of_decide_eq_true (all_eq_true.mp plain char member)

-- A writer puts no control character, and no line break, into a text.
mutual

theorem render_printable (value : Value) : ∀ char ∈ value.render escape, 32 ≤ char.toNat := by
  cases value with
  | null => exact word_printable ['n', 'u', 'l', 'l'] rfl
  | bool value =>
    cases value with
    | true => exact word_printable ['t', 'r', 'u', 'e'] rfl
    | false => exact word_printable ['f', 'a', 'l', 's', 'e'] rfl
  | number value => exact fun char member => number_char_printable char (number_chars value char member)
  | string text => exact render_string_printable escape text
  | array items =>
    have inner := render_items_printable items
    intro char member
    rcases mem_cons.mp member with same | inside
    · rw [same]
      decide
    rcases mem_append.mp inside with written | last
    · exact inner char written
    · rw [mem_singleton.mp last]
      decide
  | object fields =>
    have inner := render_fields_printable fields
    intro char member
    rcases mem_cons.mp member with same | inside
    · rw [same]
      decide
    rcases mem_append.mp inside with written | last
    · exact inner char written
    · rw [mem_singleton.mp last]
      decide

theorem render_items_printable (items : List Value) : ∀ char ∈ renderItems escape items, 32 ≤ char.toNat := by
  cases items with
  | nil => exact fun char member => nomatch member
  | cons item rest =>
    have one := render_printable item
    have later := render_items_printable rest
    intro char member
    rcases mem_append.mp member with first | others
    · exact one char first
    split at others
    · cases others
    rcases mem_cons.mp others with same | inside
    · rw [same]
      decide
    · exact later char inside

theorem render_fields_printable (fields : List (String × Value)) :
    ∀ char ∈ renderFields escape fields, 32 ≤ char.toNat := by
  cases fields with
  | nil => exact fun char member => nomatch member
  | cons entry rest =>
    obtain ⟨key, value⟩ := entry
    have one := render_printable value
    have later := render_fields_printable rest
    intro char member
    rcases mem_append.mp member with first | others
    · exact render_string_printable escape key char first
    rcases mem_cons.mp others with same | inside
    · rw [same]
      decide
    rcases mem_append.mp inside with written | more
    · exact one char written
    split at more
    · cases more
    rcases mem_cons.mp more with same | inside
    · rw [same]
      decide
    · exact later char inside

end

theorem parse_render (value : Value) : parse lone (value.render escape) = some value := by
  have whole := read_render escape lone value _ [] (render_length escape value) ends_nil
  rw [append_nil] at whole
  simp only [parse, whole]
  rfl

theorem parse_overlong (value : Value) (first : Char) (rest : List Char) (ends : isNumberChar first = false)
    (more : skip (first :: rest) ≠ []) : parse lone (value.render escape ++ first :: rest) = none := by
  have enough : value.size ≤ (value.render escape ++ first :: rest).length := by
    rw [length_append]
    exact Nat.le_trans (render_length escape value) (Nat.le_add_right _ _)
  simp only [parse, read_render escape lone value _ (first :: rest) enough (ends_cons first rest ends), if_neg more]

end

end Library.JsonText
