import Mathlib.Data.List.TakeWhile
import PondSocket.Library.JsonText

namespace Library.LooseJson

open List Option

open Library.JsonText (Number skip isSpace isNumber isNumberChar isLead isTrail readUnit readTrail escaped Ends ends_nil ends_cons
  skip_cons number_head read_number number_solid number_chars take_number)

-- JSON with the numbers that are none and with strings of any code points.

inductive CodePoint where
  | char (char : Char)
  | surrogate (unit : Nat)
deriving DecidableEq

inductive Constant where
  | nan
  | infinity
  | negInfinity
deriving DecidableEq

def Constant.literal : Constant → List Char
  | .nan => ['N', 'a', 'N']
  | .infinity => ['I', 'n', 'f', 'i', 'n', 'i', 't', 'y']
  | .negInfinity => ['-', 'I', 'n', 'f', 'i', 'n', 'i', 't', 'y']

inductive Value where
  | null
  | bool (value : Bool)
  | number (value : Number)
  | constant (value : Constant)
  | string (text : List CodePoint)
  | array (items : List Value)
  | object (fields : List (List CodePoint × Value))

def joined (unit trail : Nat) : Char := Char.ofNat (0x10000 + (unit - 0xD800) * 0x400 + (trail - 0xDC00))

def readUnicode (text : List Char) : Option (CodePoint × List Char) :=
  match readUnit text with
  | none => none
  | some (unit, rest) =>
    if isLead unit then
      match readTrail rest with
      | none => some (.surrogate unit, rest)
      | some (trail, rest) =>
        some (.char (joined unit trail), rest)
    else if isTrail unit then some (.surrogate unit, rest)
    else some (.char (Char.ofNat unit), rest)

def readEscape : List Char → Option (CodePoint × List Char)
  | [] => none
  | mark :: rest => if mark = 'u' then readUnicode rest else (escaped mark).map fun char => (.char char, rest)

def consPoint (point : CodePoint) (read : List CodePoint × List Char) : List CodePoint × List Char :=
  (point :: read.1, read.2)

def readString : Nat → List Char → Option (List CodePoint × List Char)
  | 0, _ => none
  | _ + 1, [] => none
  | fuel + 1, first :: rest =>
    if first = '"' then some ([], rest)
    else if first = '\\' then
      match readEscape rest with
      | none => none
      | some (point, rest) => (readString fuel rest).map (consPoint point)
    else if first.toNat < 32 then none
    else (readString fuel rest).map (consPoint (.char first))

def readNumber (text : List Char) : Option (Value × List Char) :=
  let literal := text.takeWhile isNumberChar
  if valid : isNumber literal = true then some (.number ⟨literal, valid⟩, text.dropWhile isNumberChar) else none

def readWord (word : List Char) (value : Value) (text : List Char) : Option (Value × List Char) :=
  if word.isPrefixOf text then some (value, text.drop word.length) else none

def readConstant (constant : Constant) (text : List Char) : Option (Value × List Char) :=
  readWord constant.literal (.constant constant) text

mutual

def read : Nat → List Char → Option (Value × List Char)
  | 0, _ => none
  | fuel + 1, text =>
    match skip text with
    | [] => none
    | first :: rest =>
      if first = '"' then (readString rest.length rest).map fun read => (.string read.1, read.2)
      else if first = '[' then
        match skip rest with
        | [] => none
        | second :: after =>
          if second = ']' then some (.array [], after)
          else (readItems fuel rest).map fun read => (.array read.1, read.2)
      else if first = '{' then
        match skip rest with
        | [] => none
        | second :: after =>
          if second = '}' then some (.object [], after)
          else (readFields fuel rest).map fun read => (.object read.1, read.2)
      else if first = 'n' then readWord ['n', 'u', 'l', 'l'] .null (first :: rest)
      else if first = 't' then readWord ['t', 'r', 'u', 'e'] (.bool true) (first :: rest)
      else if first = 'f' then readWord ['f', 'a', 'l', 's', 'e'] (.bool false) (first :: rest)
      else if first = 'N' then readConstant .nan (first :: rest)
      else if first = 'I' then readConstant .infinity (first :: rest)
      else if Constant.negInfinity.literal.isPrefixOf (first :: rest) then readConstant .negInfinity (first :: rest)
      else readNumber (first :: rest)

def readItems : Nat → List Char → Option (List Value × List Char)
  | 0, _ => none
  | fuel + 1, text =>
    match read fuel text with
    | none => none
    | some (item, rest) =>
      match skip rest with
      | [] => none
      | first :: rest =>
        if first = ',' then (readItems fuel rest).map fun read => (item :: read.1, read.2)
        else if first = ']' then some ([item], rest)
        else none

def readFields : Nat → List Char → Option (List (List CodePoint × Value) × List Char)
  | 0, _ => none
  | fuel + 1, text =>
    match skip text with
    | [] => none
    | quote :: rest =>
      if quote = '"' then
        match readString rest.length rest with
        | none => none
        | some (key, rest) =>
          match skip rest with
          | [] => none
          | colon :: rest =>
            if colon = ':' then
              match read fuel rest with
              | none => none
              | some (value, rest) =>
                match skip rest with
                | [] => none
                | first :: rest =>
                  if first = ',' then (readFields fuel rest).map fun read => ((key, value) :: read.1, read.2)
                  else if first = '}' then some ([(key, value)], rest)
                  else none
            else none
      else none

end

def parse (text : List Char) : Option Value :=
  match read text.length text with
  | none => none
  | some (value, rest) => if skip rest = [] then some value else none

variable {A B : Type}

-- What JSON proper has for a value: nothing for the constants.
section

variable (lone : Nat → Char)

def CodePoint.strict : CodePoint → Char
  | .char symbol => symbol
  | .surrogate unit => lone unit

def strictText (text : List CodePoint) : String := String.ofList (text.map (CodePoint.strict lone))

mutual

def Value.strict : Value → Option JsonText.Value
  | .null => some .null
  | .bool value => some (.bool value)
  | .number value => some (.number value)
  | .constant _ => none
  | .string text => some (.string (strictText lone text))
  | .array items => (strictItems items).map .array
  | .object fields => (strictFields fields).map .object

def strictItems : List Value → Option (List JsonText.Value)
  | [] => some []
  | item :: rest => item.strict.bind fun item => (strictItems rest).map fun rest => item :: rest

def strictFields : List (List CodePoint × Value) → Option (List (String × JsonText.Value))
  | [] => some []
  | (key, value) :: rest =>
    value.strict.bind fun value => (strictFields rest).map fun rest => (strictText lone key, value) :: rest

end

-- What a reader of JSON proper makes of a result.
def narrow {A B : Type} (strict : A → Option B) (result : Option (A × List Char)) : Option (B × List Char) :=
  result.bind fun read => (strict read.1).map fun value => (value, read.2)

theorem narrow_some (strict : A → Option B) (value : A) (rest : List Char) :
    narrow strict (some (value, rest)) = (strict value).map fun value => (value, rest) := rfl

theorem narrow_none (strict : A → Option B) : narrow strict none = none := rfl

theorem strict_char (symbol : Char) : CodePoint.strict lone (.char symbol) = symbol := rfl

theorem strict_unicode {text : List Char} :
    JsonText.readUnicode lone text = (readUnicode text).map fun read => (read.1.strict lone, read.2) := by
  rw [JsonText.readUnicode, readUnicode]
  cases readUnit text with
  | none => rfl
  | some found =>
    obtain ⟨unit, rest⟩ := found
    dsimp only
    by_cases lead : isLead unit = true
    · rw [if_pos lead, if_pos lead]
      cases readTrail rest with
      | none => rfl
      | some => rw [Option.map_some, strict_char, joined]
    rw [if_neg lead, if_neg lead]
    by_cases trail : isTrail unit = true
    · rw [if_pos trail, if_pos trail]
      rfl
    · rw [if_neg trail, if_neg trail]
      rfl

theorem strict_escape (text : List Char) :
    JsonText.readEscape lone text = (readEscape text).map fun read => (read.1.strict lone, read.2) := by
  cases text with
  | nil => rfl
  | cons mark =>
    rw [JsonText.readEscape, readEscape]
    by_cases unicode : mark = 'u'
    · rw [if_pos unicode, if_pos unicode]
      exact strict_unicode lone
    · rw [if_neg unicode, if_neg unicode, Option.map_map]
      rfl

theorem strict_string (fuel : Nat) (text : List Char) :
    JsonText.readString lone fuel text =
      (readString fuel text).map fun read => (read.1.map (CodePoint.strict lone), read.2) := by
  induction fuel generalizing text with
  | zero => rfl
  | succ _ ih =>
    cases text with
    | nil => rfl
    | cons first rest =>
      rw [JsonText.readString, readString]
      by_cases quote : first = '"'
      · rw [if_pos quote, if_pos quote]
        rfl
      rw [if_neg quote, if_neg quote]
      by_cases slash : first = '\\'
      · rw [if_pos slash, if_pos slash, strict_escape]
        cases readEscape rest with
        | none => rfl
        | some =>
          simp only [Option.map_some, ih, Option.map_map]
          rfl
      rw [if_neg slash, if_neg slash]
      by_cases control : first.toNat < 32
      · rw [if_pos control, if_pos control]
        rfl
      · rw [if_neg control, if_neg control, ih, Option.map_map, Option.map_map]
        rfl

theorem strict_word (word : List Char) (value : Value) (known : JsonText.Value) (same : value.strict lone = some known)
    (text : List Char) : JsonText.readWord word known text = narrow (Value.strict lone) (readWord word value text) := by
  rw [JsonText.readWord, readWord]
  split
  · rw [narrow_some, same]
    rfl
  · rfl

theorem strict_number (text : List Char) :
    JsonText.readNumber text = narrow (Value.strict lone) (readNumber text) := by
  simp only [JsonText.readNumber, readNumber]
  split <;> rfl

theorem number_none (first : Char) (rest : List Char) (other : isNumberChar first = false) :
    JsonText.readNumber (first :: rest) = none := by
  have none : (first :: rest).takeWhile isNumberChar = [] := by simp [other]
  simp only [JsonText.readNumber, none]
  rfl

theorem minus_none (text : List Char) (shape : Constant.negInfinity.literal.isPrefixOf text = true) :
    JsonText.readNumber text = none := by
  obtain ⟨_, same⟩ := isPrefixOf_iff_prefix.mp shape
  rw [← same]
  rfl

theorem strict_constant (constant : Constant) (text : List Char) :
    narrow (Value.strict lone) (readConstant constant text) = none := by
  rw [readConstant, readWord]
  split <;> rfl

theorem narrow_item (item : Value) (others : Option (List Value × List Char)) :
    narrow (strictItems lone) (others.map fun read => (item :: read.1, read.2)) = (item.strict lone).bind fun item =>
        (narrow (strictItems lone) others).map fun read => (item :: read.1, read.2) := by
  cases others with
  | none => cases item.strict lone <;> rfl
  | some read =>
    rw [Option.map_some, narrow_some, narrow_some, strictItems]
    cases item.strict lone with
    | none => rfl
    | some => cases strictItems lone read.1 <;> rfl

theorem narrow_field (key : List CodePoint) (value : Value) (others : Option (List (List CodePoint × Value) × List Char)) :
    narrow (strictFields lone) (others.map fun read => ((key, value) :: read.1, read.2)) =
      (value.strict lone).bind fun value =>
        (narrow (strictFields lone) others).map fun read => ((strictText lone key, value) :: read.1, read.2) := by
  cases others with
  | none => cases value.strict lone <;> rfl
  | some read =>
    rw [Option.map_some, narrow_some, narrow_some, strictFields]
    cases value.strict lone with
    | none => rfl
    | some => cases strictFields lone read.1 <;> rfl

mutual

theorem strict_read (fuel : Nat) (text : List Char) :
    JsonText.read lone fuel text = narrow (Value.strict lone) (read fuel text) := by
  cases fuel with
  | zero => rfl
  | succ fuel =>
    rw [JsonText.read, read]
    cases skip text with
    | nil => rfl
    | cons first rest =>
      dsimp only
      by_cases quote : first = '"'
      · rw [if_pos quote, if_pos quote, strict_string]
        cases readString rest.length rest <;> rfl
      rw [if_neg quote, if_neg quote]
      by_cases bracket : first = '['
      · rw [if_pos bracket, if_pos bracket]
        cases skip rest with
        | nil => rfl
        | cons second after =>
          dsimp only
          by_cases empty : second = ']'
          · rw [if_pos empty, if_pos empty]
            rfl
          rw [if_neg empty, if_neg empty, strict_read_items fuel rest]
          cases found : readItems fuel rest with
          | none => rfl
          | some read =>
            rw [narrow_some, Option.map_some, narrow_some, Value.strict, Option.map_map, Option.map_map]
            rfl
      rw [if_neg bracket, if_neg bracket]
      by_cases brace : first = '{'
      · rw [if_pos brace, if_pos brace]
        cases skip rest with
        | nil => rfl
        | cons second after =>
          dsimp only
          by_cases empty : second = '}'
          · rw [if_pos empty, if_pos empty]
            rfl
          rw [if_neg empty, if_neg empty, strict_read_fields fuel rest]
          cases found : readFields fuel rest with
          | none => rfl
          | some read =>
            rw [narrow_some, Option.map_some, narrow_some, Value.strict, Option.map_map, Option.map_map]
            rfl
      rw [if_neg brace, if_neg brace]
      by_cases null : first = 'n'
      · rw [if_pos null, if_pos null]
        exact strict_word lone _ _ _ rfl _
      rw [if_neg null, if_neg null]
      by_cases yes : first = 't'
      · rw [if_pos yes, if_pos yes]
        exact strict_word lone _ _ _ rfl _
      rw [if_neg yes, if_neg yes]
      by_cases no : first = 'f'
      · rw [if_pos no, if_pos no]
        exact strict_word lone _ _ _ rfl _
      rw [if_neg no, if_neg no]
      by_cases nan : first = 'N'
      · rw [if_pos nan, strict_constant, nan]
        exact number_none 'N' rest rfl
      rw [if_neg nan]
      by_cases infinity : first = 'I'
      · rw [if_pos infinity, strict_constant, infinity]
        exact number_none 'I' rest rfl
      rw [if_neg infinity]
      by_cases minus : Constant.negInfinity.literal.isPrefixOf (first :: rest) = true
      · rw [if_pos minus, strict_constant]
        exact minus_none _ minus
      · rw [if_neg minus]
        exact strict_number lone _
termination_by fuel

theorem strict_read_items (fuel : Nat) (text : List Char) :
    JsonText.readItems lone fuel text = narrow (strictItems lone) (readItems fuel text) := by
  cases fuel with
  | zero => rfl
  | succ fuel =>
    rw [JsonText.readItems, readItems, strict_read fuel text]
    cases read fuel text with
    | none => rfl
    | some found =>
      obtain ⟨item, rest⟩ := found
      rw [narrow_some]
      dsimp only
      cases after : skip rest with
      | nil => cases item.strict lone <;> simp only [map_none, Option.map_some, after, narrow_none]
      | cons first rest =>
        dsimp only
        by_cases comma : first = ','
        · rw [if_pos comma, narrow_item, ← strict_read_items fuel rest]
          cases item.strict lone <;>
            simp only [map_none, Option.map_some, bind_none, bind_some, after, if_pos comma]
        rw [if_neg comma]
        by_cases last : first = ']'
        · have one := narrow_item lone item (some ([], rest))
          rw [Option.map_some] at one
          rw [if_pos last, one, narrow_some, strictItems]
          cases item.strict lone <;>
            simp only [map_none, Option.map_some, bind_none, bind_some, after, if_neg comma, if_pos last]
        rw [if_neg last, narrow_none]
        cases item.strict lone <;>
          simp only [map_none, Option.map_some, after, if_neg comma, if_neg last]
termination_by fuel

theorem strict_read_fields (fuel : Nat) (text : List Char) :
    JsonText.readFields lone fuel text = narrow (strictFields lone) (readFields fuel text) := by
  cases fuel with
  | zero => rfl
  | succ fuel =>
    rw [JsonText.readFields, readFields]
    cases skip text with
    | nil => rfl
    | cons quote rest =>
      dsimp only
      by_cases quoted : quote = '"'
      swap
      · rw [if_neg quoted, if_neg quoted]
        rfl
      rw [if_pos quoted, if_pos quoted, strict_string]
      cases readString rest.length rest with
      | none => rfl
      | some read =>
        obtain ⟨key, rest⟩ := read
        rw [Option.map_some]
        dsimp only
        cases skip rest with
        | nil => rfl
        | cons colon rest =>
          dsimp only
          by_cases divided : colon = ':'
          swap
          · rw [if_neg divided, if_neg divided]
            rfl
          rw [if_pos divided, if_pos divided, strict_read fuel rest]
          cases read fuel rest with
          | none => rfl
          | some found =>
            obtain ⟨value, rest⟩ := found
            rw [narrow_some]
            dsimp only
            cases after : skip rest with
            | nil => cases value.strict lone <;> simp only [map_none, Option.map_some, after, narrow_none]
            | cons first rest =>
              dsimp only
              by_cases comma : first = ','
              · rw [if_pos comma, narrow_field, ← strict_read_fields fuel rest]
                cases value.strict lone <;>
                  simp only [map_none, Option.map_some, bind_none, bind_some, after, if_pos comma, strictText]
              rw [if_neg comma]
              by_cases last : first = '\x7d'
              · have one := narrow_field lone key value (some ([], rest))
                rw [Option.map_some] at one
                rw [if_pos last, one, narrow_some, strictFields]
                cases value.strict lone <;>
                  simp only [map_none, Option.map_some, bind_none, bind_some, after,
                    if_neg comma, if_pos last, strictText]
              rw [if_neg last, narrow_none]
              cases value.strict lone <;>
                simp only [map_none, Option.map_some, after, if_neg comma, if_neg last]
termination_by fuel

end

end

def CodePoint.scalar : CodePoint → Option Char
  | .char symbol => some symbol
  | .surrogate _ => none

def points (text : List Char) : List CodePoint := text.map .char

def chars (text : List CodePoint) : List Char := text.filterMap CodePoint.scalar

def isText (text : List CodePoint) : Bool := text.all fun point => point.scalar.isSome

-- The characters of a text, which no surrogate is.
def encode (text : List CodePoint) : Option (List Char) := if isText text then some (chars text) else none

theorem chars_points (text : List Char) : chars (points text) = text := by
  rw [chars, points, filterMap_map]
  exact filterMap_some

theorem chars_append (left right : List CodePoint) : chars (left ++ right) = chars left ++ chars right :=
  filterMap_append

theorem chars_char (symbol : Char) (rest : List CodePoint) : chars (.char symbol :: rest) = symbol :: chars rest := rfl

theorem is_text_points (text : List Char) : isText (points text) = true := by
  rw [isText, points, List.all_map, List.all_eq_true]
  intro symbol _
  rfl

theorem is_text_append (left right : List CodePoint) : isText (left ++ right) = (isText left && isText right) :=
  all_append

theorem is_text_char (symbol : Char) (rest : List CodePoint) : isText (.char symbol :: rest) = isText rest := by
  exact Bool.true_and _

-- How a writer puts the characters of a string; a surrogate it puts as it is.
structure Escape where
  write : Char → List Char
  reads : ∀ fuel char rest,
    readString (fuel + 1) (write char ++ rest) = (readString fuel rest).map (consPoint (.char char))
  solid : ∀ char, 0 < (write char).length

section

variable (escape : Escape)

def writePoint : CodePoint → List CodePoint
  | .char symbol => points (escape.write symbol)
  | .surrogate unit => [.surrogate unit]

def renderString (text : List CodePoint) : List CodePoint :=
  .char '"' :: (text.flatMap (writePoint escape) ++ [.char '"'])

mutual

def Value.render : Value → List CodePoint
  | .null => points ['n', 'u', 'l', 'l']
  | .bool true => points ['t', 'r', 'u', 'e']
  | .bool false => points ['f', 'a', 'l', 's', 'e']
  | .number value => points value.literal
  | .constant value => points value.literal
  | .string text => renderString escape text
  | .array items => .char '[' :: (renderItems items ++ [.char ']'])
  | .object fields => .char '{' :: (renderFields fields ++ [.char '}'])

def renderItems : List Value → List CodePoint
  | [] => []
  | item :: rest => item.render ++ if rest.isEmpty then [] else .char ',' :: renderItems rest

def renderFields : List (List CodePoint × Value) → List CodePoint
  | [] => []
  | (key, value) :: rest =>
    renderString escape key ++
      .char ':' :: (value.render ++ if rest.isEmpty then [] else .char ',' :: renderFields rest)

end

mutual

def Value.plain : Value → Bool
  | .string text => isText text
  | .array items => plainItems items
  | .object fields => plainFields fields
  | _ => true

def plainItems : List Value → Bool
  | [] => true
  | item :: rest => item.plain && plainItems rest

def plainFields : List (List CodePoint × Value) → Bool
  | [] => true
  | (key, value) :: rest => isText key && (value.plain && plainFields rest)

end

theorem is_text_render_string (text : List CodePoint) : isText (renderString escape text) = isText text := by
  have inner : isText (text.flatMap (writePoint escape)) = isText text := by
    induction text with
    | nil => rfl
    | cons point _ ih =>
      rw [flatMap_cons, is_text_append, ih]
      cases point with
      | char => rw [writePoint, is_text_points, is_text_char, Bool.true_and]
      | surrogate => rfl
  rw [renderString, is_text_char, is_text_append, inner]
  exact Bool.and_true _

mutual

theorem is_text_render (value : Value) : isText (value.render escape) = value.plain := by
  cases value with
  | null => rfl
  | bool value => cases value <;> rfl
  | number value => exact is_text_points value.literal
  | constant value => exact is_text_points value.literal
  | string text => exact is_text_render_string escape text
  | array items =>
    rw [Value.render, Value.plain, is_text_char, is_text_append, is_text_render_items items]
    exact Bool.and_true _
  | object fields =>
    rw [Value.render, Value.plain, is_text_char, is_text_append, is_text_render_fields fields]
    exact Bool.and_true _

theorem is_text_render_items (items : List Value) : isText (renderItems escape items) = plainItems items := by
  cases items with
  | nil => rfl
  | cons item rest =>
    rw [renderItems, plainItems, is_text_append, is_text_render item]
    cases rest with
    | nil => rfl
    | cons next others =>
      rw [← is_text_render_items (next :: others)]
      rfl

theorem is_text_render_fields (fields : List (List CodePoint × Value)) :
    isText (renderFields escape fields) = plainFields fields := by
  cases fields with
  | nil => rfl
  | cons entry rest =>
    obtain ⟨key, value⟩ := entry
    rw [renderFields, plainFields, is_text_append, is_text_render_string, is_text_char, is_text_append,
      is_text_render value]
    cases rest with
    | nil => rfl
    | cons next others =>
      rw [← is_text_render_fields (next :: others)]
      rfl

end

variable (text : List CodePoint)

theorem read_points {rest : List Char} (fuel : Nat) (plain : isText text = true)
    (enough : text.length < fuel) :
    readString fuel (chars (text.flatMap (writePoint escape)) ++ '"' :: rest) = some (text, rest) := by
  induction text generalizing fuel with
  | nil =>
    cases fuel with
    | zero => cases enough
    | succ => rfl
  | cons point _ ih =>
    cases fuel with
    | zero => cases enough
    | succ fuel =>
      cases point with
      | surrogate => cases plain
      | char =>
        rw [flatMap_cons, chars_append, writePoint, chars_points, append_assoc, escape.reads,
          ih fuel plain (Nat.lt_of_succ_lt_succ enough)]
        rfl

theorem points_length (plain : isText text = true) :
    text.length ≤ (chars (text.flatMap (writePoint escape))).length := by
  induction text with
  | nil => exact Nat.le_refl 0
  | cons point _ ih =>
    cases point with
    | surrogate => cases plain
    | char symbol =>
      have later := ih plain
      have solid := escape.solid symbol
      rw [flatMap_cons, chars_append, writePoint, chars_points, length_append, length_cons]
      omega

theorem chars_render_string (rest : List Char) :
    chars (renderString escape text) ++ rest = '"' :: (chars (text.flatMap (writePoint escape)) ++ '"' :: rest) := by
  rw [renderString, chars_char, chars_append, cons_append, append_assoc]
  rfl

theorem read_string (rest : List Char) (plain : isText text = true) :
    readString (chars (text.flatMap (writePoint escape)) ++ '"' :: rest).length
      (chars (text.flatMap (writePoint escape)) ++ '"' :: rest) = some (text, rest) := by
  apply read_points escape text _ plain
  have written := points_length escape text plain
  rw [length_append, length_cons]
  omega

mutual

def Value.size : Value → Nat
  | .array items => sizeItems items + 1
  | .object fields => sizeFields fields + 1
  | _ => 1

def sizeItems : List Value → Nat
  | [] => 0
  | item :: rest => max item.size (sizeItems rest) + 1

def sizeFields : List (List CodePoint × Value) → Nat
  | [] => 0
  | (_, value) :: rest => max value.size (sizeFields rest) + 1

end

theorem render_head (value : Value) :
    ∃ first rest, chars (value.render escape) = first :: rest ∧ isSpace first = false ∧ first ≠ ']' := by
  cases value with
  | null => exact ⟨'n', _, rfl, by decide, by decide⟩
  | bool value =>
    cases value with
    | true => exact ⟨'t', _, rfl, by decide, by decide⟩
    | false => exact ⟨'f', _, rfl, by decide, by decide⟩
  | constant value =>
    cases value with
    | nan => exact ⟨'N', _, rfl, by decide, by decide⟩
    | infinity => exact ⟨'I', _, rfl, by decide, by decide⟩
    | negInfinity => exact ⟨'-', _, rfl, by decide, by decide⟩
  | string => exact ⟨'"', _, rfl, by decide, by decide⟩
  | array => exact ⟨'[', _, rfl, by decide, by decide⟩
  | object => exact ⟨'{', _, rfl, by decide, by decide⟩
  | number value =>
    obtain ⟨first, rest, shape, solid, other⟩ := number_head value
    refine ⟨first, rest, ?_, solid, other ']' (by decide)⟩
    rw [Value.render, chars_points, shape]

theorem read_numeral (value : Number) (fuel : Nat) (rest : List Char) (ends : Ends rest) :
    read (fuel + 1) (value.literal ++ rest) = some (.number value, rest) := by
  obtain ⟨taken, left⟩ := take_number (number_chars value) ends
  have whole : readNumber (value.literal ++ rest) = some (.number value, rest) := by
    simp [readNumber, taken, left, value.valid]
  have digits : Constant.negInfinity.literal.isPrefixOf (value.literal ++ rest) = false := by
    rw [Bool.eq_false_iff]
    intro minus
    have none := minus_none _ minus
    rw [read_number value ends] at none
    cases none
  obtain ⟨first, _, shape, solid, other⟩ := number_head value
  rw [shape, cons_append] at whole digits ⊢
  rw [read, skip_cons first _ solid]
  simp only [if_neg (other '"' (by decide)), if_neg (other '[' (by decide)), if_neg (other '{' (by decide)),
    if_neg (other 'n' (by decide)), if_neg (other 't' (by decide)), if_neg (other 'f' (by decide)),
    if_neg (other 'N' (by decide)), if_neg (other 'I' (by decide)), digits, Bool.false_eq_true, if_false]
  exact whole

theorem read_literal (constant : Constant) (fuel : Nat) (rest : List Char) :
    read (fuel + 1) (constant.literal ++ rest) = some (.constant constant, rest) := by
  cases constant <;> rfl

theorem read_text (text : List CodePoint) (fuel : Nat) (rest : List Char) (plain : isText text = true) :
    read (fuel + 1) (chars (renderString escape text) ++ rest) = some (.string text, rest) := by
  rw [chars_render_string, read, skip_cons '"' _ (by decide)]
  simp only [if_true]
  rw [read_string escape text rest plain, Option.map_some]

mutual

theorem read_render (value : Value) (fuel : Nat) (rest : List Char) (plain : value.plain = true)
    (enough : value.size ≤ fuel) (ends : Ends rest) :
    read fuel (chars (value.render escape) ++ rest) = some (value, rest) := by
  cases fuel with
  | zero => cases value <;> cases enough
  | succ fuel =>
    cases value with
    | null => rfl
    | bool value => cases value <;> rfl
    | number value =>
      rw [Value.render, chars_points]
      exact read_numeral value fuel rest ends
    | constant value =>
      rw [Value.render, chars_points]
      exact read_literal value fuel rest
    | string text => exact read_text escape text fuel rest plain
    | array items =>
      rw [Value.render, chars_char, chars_append, cons_append, append_assoc, read, skip_cons '[' _ (by decide)]
      simp only [if_neg (show ('[' : Char) ≠ '"' by decide), if_true]
      cases items with
      | nil => rfl
      | cons item others =>
        have later := read_render_items item others fuel rest plain (Nat.le_of_succ_le_succ enough)
        obtain ⟨first, more, shape, solid, other⟩ := render_head escape item
        rw [renderItems, chars_append, shape, cons_append, cons_append] at later ⊢
        rw [skip_cons first _ solid]
        simp only [if_neg other]
        rw [show chars [.char ']'] ++ rest = ']' :: rest from rfl, later, Option.map_some]
    | object fields =>
      rw [Value.render, chars_char, chars_append, cons_append, append_assoc, read, skip_cons '{' _ (by decide)]
      simp only [if_neg (show ('{' : Char) ≠ '"' by decide), if_neg (show ('{' : Char) ≠ '[' by decide), if_true]
      cases fields with
      | nil => rfl
      | cons entry others =>
        have later := read_render_fields entry others fuel rest plain (Nat.le_of_succ_le_succ enough)
        rw [renderFields, chars_append, append_assoc, chars_render_string] at later ⊢
        rw [skip_cons '"' _ (by decide)]
        simp only [if_neg (show ('"' : Char) ≠ '}' by decide)]
        rw [show chars [.char '}'] ++ rest = '}' :: rest from rfl, later, Option.map_some]
termination_by fuel

theorem read_render_items (item : Value) (others : List Value) (fuel : Nat) (rest : List Char)
    (plain : plainItems (item :: others) = true) (enough : sizeItems (item :: others) ≤ fuel) :
    readItems fuel (chars (renderItems escape (item :: others)) ++ ']' :: rest) = some (item :: others, rest) := by
  cases fuel with
  | zero => cases enough
  | succ fuel =>
    have room := Nat.max_le.mp (Nat.le_of_succ_le_succ enough)
    rw [plainItems, Bool.and_eq_true] at plain
    rw [renderItems, chars_append, append_assoc, readItems]
    cases others with
    | nil =>
      have one := read_render item fuel (']' :: rest) plain.1 room.1 (ends_cons ']' rest (by decide))
      rw [show chars (if ([] : List Value).isEmpty then [] else .char ',' :: renderItems escape []) ++ ']' :: rest =
        ']' :: rest from rfl, one]
      simp only [skip_cons ']' rest (by decide)]
      rfl
    | cons next others =>
      have one := read_render item fuel (',' :: (chars (renderItems escape (next :: others)) ++ ']' :: rest)) plain.1
        room.1 (ends_cons ',' _ (by decide))
      have later := read_render_items next others fuel rest plain.2 room.2
      simp only [isEmpty_cons, Bool.false_eq_true, if_false, chars_char, cons_append, one,
        skip_cons ',' _ (show isSpace ',' = false by decide), if_true, later, Option.map_some]
termination_by fuel

theorem read_render_fields (entry : List CodePoint × Value) (others : List (List CodePoint × Value)) (fuel : Nat)
    (rest : List Char) (plain : plainFields (entry :: others) = true) (enough : sizeFields (entry :: others) ≤ fuel) :
    readFields fuel (chars (renderFields escape (entry :: others)) ++ '}' :: rest) = some (entry :: others, rest) := by
  obtain ⟨key, value⟩ := entry
  cases fuel with
  | zero => cases enough
  | succ fuel =>
    have room := Nat.max_le.mp (Nat.le_of_succ_le_succ enough)
    rw [plainFields, Bool.and_eq_true, Bool.and_eq_true] at plain
    rw [renderFields, chars_append, append_assoc, chars_render_string, readFields, skip_cons '"' _ (by decide)]
    simp only [if_true]
    rw [read_string escape key _ plain.1]
    simp only [chars_char, chars_append, cons_append, append_assoc,
      skip_cons ':' _ (show isSpace ':' = false by decide), if_true]
    cases others with
    | nil =>
      have one := read_render value fuel ('}' :: rest) plain.2.1 room.1 (ends_cons '}' rest (by decide))
      rw [show chars (if ([] : List (List CodePoint × Value)).isEmpty then []
        else .char ',' :: renderFields escape []) ++ '}' :: rest = '}' :: rest from rfl, one]
      simp only [skip_cons '}' rest (by decide)]
      rfl
    | cons next others =>
      have one := read_render value fuel (',' :: (chars (renderFields escape (next :: others)) ++ '}' :: rest))
        plain.2.1 room.1 (ends_cons ',' _ (by decide))
      have later := read_render_fields next others fuel rest plain.2.2 room.2
      simp only [isEmpty_cons, Bool.false_eq_true, if_false, chars_char, cons_append, one,
        skip_cons ',' _ (show isSpace ',' = false by decide), if_true, later, Option.map_some]
termination_by fuel

end

mutual

theorem render_length (value : Value) : value.size ≤ (chars (value.render escape)).length := by
  cases value with
  | null => exact Nat.le_add_left 1 3
  | bool value => cases value <;> exact Nat.le_add_left 1 _
  | number value =>
    rw [Value.render, chars_points]
    exact length_pos_iff.mpr (number_solid value)
  | constant value => cases value <;> exact Nat.le_add_left 1 _
  | string text => exact Nat.le_add_left 1 _
  | array items =>
    have inner := render_items_length items
    simp only [Value.size, Value.render, chars_char, chars_append, length_cons, length_append]
    omega
  | object fields =>
    have inner := render_fields_length fields
    simp only [Value.size, Value.render, chars_char, chars_append, length_cons, length_append]
    omega

theorem render_items_length (items : List Value) : sizeItems items ≤ (chars (renderItems escape items)).length + 1 := by
  cases items with
  | nil => exact Nat.zero_le _
  | cons item rest =>
    have one := render_length item
    have later := render_items_length rest
    simp only [sizeItems, renderItems, chars_append, length_append]
    cases rest with
    | nil =>
      simp only [sizeItems]
      omega
    | cons next others =>
      simp only [isEmpty_cons, Bool.false_eq_true, if_false, chars_char, length_cons]
      omega

theorem render_fields_length (fields : List (List CodePoint × Value)) :
    sizeFields fields ≤ (chars (renderFields escape fields)).length + 1 := by
  cases fields with
  | nil => exact Nat.zero_le _
  | cons entry rest =>
    obtain ⟨key, value⟩ := entry
    have one := render_length value
    have later := render_fields_length rest
    simp only [sizeFields, renderFields, chars_append, chars_char, length_append, length_cons]
    cases rest with
    | nil =>
      simp only [sizeFields]
      omega
    | cons next others =>
      simp only [isEmpty_cons, Bool.false_eq_true, if_false, chars_char, length_cons]
      omega

end

variable {escape}

theorem parse_render {value : Value} (plain : value.plain = true) :
    parse (chars (value.render escape)) = some value := by
  have whole := read_render escape value (chars (value.render escape)).length [] plain (render_length escape value) ends_nil
  rw [append_nil] at whole
  rw [parse, whole]
  rfl

theorem encode_render (value : Value) :
    encode (value.render escape) = if value.plain then some (chars (value.render escape)) else none := by
  rw [encode, is_text_render]

theorem strict_parse (lone : Nat → Char) (text : List Char) :
    JsonText.parse lone text = (parse text).bind (Value.strict lone) := by
  rw [JsonText.parse, parse, strict_read]
  cases read text.length text with
  | none => rfl
  | some found =>
    obtain ⟨value, rest⟩ := found
    rw [narrow_some]
    dsimp only
    by_cases done : skip rest = []
    · rw [if_pos done, bind_some]
      cases value.strict lone with
      | none => rfl
      | some => simp [if_pos done]
    rw [if_neg done, bind_none]
    cases value.strict lone with
    | none => rfl
    | some => simp [if_neg done]

mutual

def Value.finite : Value → Bool
  | .constant _ => false
  | .array items => finiteItems items
  | .object fields => finiteFields fields
  | _ => true

def finiteItems : List Value → Bool
  | [] => true
  | item :: rest => item.finite && finiteItems rest

def finiteFields : List (List CodePoint × Value) → Bool
  | [] => true
  | (_, value) :: rest => value.finite && finiteFields rest

end

theorem some_both {C : Type} (left : Option A) (right : Option B) (join : A → B → C) :
    (left.bind fun a => right.map fun b => join a b).isSome = (left.isSome && right.isSome) := by
  cases left with
  | none => rfl
  | some => cases right <;> rfl

mutual

theorem strict_some (lone : Nat → Char) (value : Value) : (value.strict lone).isSome = value.finite := by
  cases value with
  | null => rfl
  | bool value => rfl
  | number value => rfl
  | constant value => rfl
  | string text => rfl
  | array items => rw [Value.strict, isSome_map, Value.finite, strict_some_items lone items]
  | object fields => rw [Value.strict, isSome_map, Value.finite, strict_some_fields lone fields]

theorem strict_some_items (lone : Nat → Char) (items : List Value) :
    (strictItems lone items).isSome = finiteItems items := by
  cases items with
  | nil => rfl
  | cons item rest => rw [strictItems, some_both, finiteItems, strict_some lone item, strict_some_items lone rest]

theorem strict_some_fields (lone : Nat → Char) (fields : List (List CodePoint × Value)) :
    (strictFields lone fields).isSome = finiteFields fields := by
  cases fields with
  | nil => rfl
  | cons entry rest =>
    obtain ⟨key, value⟩ := entry
    rw [strictFields, some_both, finiteFields, strict_some lone value, strict_some_fields lone rest]

end

theorem valid_iff {lone : Nat → Char} {value : Value} :
    (∃ text, encode (value.render escape) = some text ∧ (JsonText.parse lone text).isSome = true) ↔
      value.plain = true ∧ value.finite = true := by
  rw [encode_render]
  by_cases plain : value.plain = true
  · rw [if_pos plain]
    have read : JsonText.parse lone (chars (value.render escape)) = value.strict lone := by
      rw [strict_parse, parse_render plain, bind_some]
    constructor
    · intro valid
      obtain ⟨text, same, accepted⟩ := valid
      cases same
      rw [read, strict_some] at accepted
      exact ⟨plain, accepted⟩
    · intro both
      refine ⟨_, rfl, ?_⟩
      rw [read, strict_some]
      exact both.2
  · rw [if_neg plain]
    constructor
    · intro valid
      obtain ⟨_, same, _⟩ := valid
      cases same
    · intro both
      exact absurd both.1 plain

end

-- Whole numbers.
section

open Library.JsonText (isDigit afterWhole afterDigits afterSign afterFraction afterExponent)

def isWhole (number : Number) : Bool := number.literal.all fun char => isDigit char || decide (char = '-')

def wholeText : Int → List Char
  | .ofNat size => Nat.toDigits 10 size
  | .negSucc size => '-' :: Nat.toDigits 10 (size + 1)

def readWhole : List Char → Int
  | [] => 0
  | first :: rest =>
    if first = '-' then -(Nat.ofDigitChars 10 rest 0) else Nat.ofDigitChars 10 (first :: rest) 0

theorem digits_digit (size : Nat) (char : Char) (member : char ∈ Nat.toDigits 10 size) : isDigit char = true := by
  have digit := Nat.isDigit_of_mem_toDigits (by decide) (by decide) member
  simp only [Char.isDigit, Bool.and_eq_true, decide_eq_true_eq] at digit
  exact decide_eq_true ⟨digit.1, digit.2⟩

theorem digits_head {size : Nat} (solid : 0 < size) : ∃ first rest, Nat.toDigits 10 size = first :: rest ∧ first ≠ '0' := by
  induction size using Nat.strongRecOn with
  | ind size ih =>
    rw [Nat.toDigits_eq_if (by decide)]
    by_cases small : size < 10
    · rw [if_pos small]
      refine ⟨_, _, rfl, ?_⟩
      have all : ∀ digit : Fin 10, digit.val ≠ 0 → Nat.digitChar digit.val ≠ '0' := by decide
      exact all ⟨size, small⟩ (Nat.ne_of_gt solid)
    rw [if_neg small]
    obtain ⟨first, _, shape, other⟩ := ih (size / 10) (by omega) (by omega)
    exact ⟨first, _, by rw [shape, cons_append], other⟩

theorem digits_number (size : Nat) :
    ((afterWhole (Nat.toDigits 10 size)).bind afterFraction).bind afterExponent = some [] := by
  cases size with
  | zero => rfl
  | succ size =>
    obtain ⟨first, rest, shape, other⟩ := digits_head (Nat.succ_pos size)
    have digit := digits_digit (size + 1)
    rw [shape] at digit ⊢
    have left : rest.dropWhile isDigit = [] :=
      dropWhile_eq_nil_iff.mpr fun char member => digit char (mem_cons_of_mem first member)
    rw [afterWhole, if_neg other, afterDigits, if_pos (digit first mem_cons_self), left]
    rfl

theorem digit_number_char {char : Char} (digit : isDigit char = true) : isNumberChar char = true := by
  simp [isNumberChar, digit]

theorem digit_no_sign (char : Char) (digit : isDigit char = true) : char ≠ '-' := by
  intro same
  rw [same] at digit
  cases digit

theorem digits_unsigned (size : Nat) : afterSign (Nat.toDigits 10 size) = Nat.toDigits 10 size := by
  have digit := digits_digit size
  cases shape : Nat.toDigits 10 size with
  | nil => rfl
  | cons first =>
    rw [shape] at digit
    rw [afterSign, if_neg (digit_no_sign first (digit first mem_cons_self))]

theorem whole_number {value : Int} : isNumber (wholeText value) = true := by
  cases value with
  | ofNat size =>
    rw [wholeText, isNumber, Bool.and_eq_true, digits_unsigned, digits_number]
    exact ⟨List.all_eq_true.mpr fun char member => digit_number_char (digits_digit size char member), rfl⟩
  | negSucc =>
    rw [wholeText, isNumber, Bool.and_eq_true, afterSign, if_pos rfl, digits_number, all_cons, Bool.and_eq_true]
    exact ⟨⟨rfl, List.all_eq_true.mpr fun char member => digit_number_char (digits_digit _ char member)⟩, rfl⟩

def whole (value : Int) : Number := ⟨wholeText value, whole_number⟩

theorem whole_is_whole (value : Int) : isWhole (whole value) = true := by
  rw [isWhole, List.all_eq_true]
  cases value with
  | ofNat size =>
    intro char member
    rw [digits_digit size char member, Bool.true_or]
  | negSucc =>
    intro char member
    rcases mem_cons.mp member with same | digit
    · rw [same]
      rfl
    · rw [digits_digit _ char digit, Bool.true_or]

theorem read_whole (value : Int) : readWhole (whole value).literal = value := by
  cases value with
  | ofNat size =>
    have digit := digits_digit size
    have back : Nat.ofDigitChars 10 (Nat.toDigits 10 size) 0 = size := Nat.ofDigitChars_ten_toDigits
    change readWhole (Nat.toDigits 10 size) = Int.ofNat size
    cases shape : Nat.toDigits 10 size with
    | nil => exact absurd shape Nat.toDigits_ne_nil
    | cons first =>
      rw [shape] at digit back
      rw [readWhole, if_neg (digit_no_sign first (digit first mem_cons_self)), back]
      rfl
  | negSucc size =>
    change readWhole ('-' :: Nat.toDigits 10 (size + 1)) = Int.negSucc size
    rw [readWhole, if_pos rfl, Nat.ofDigitChars_ten_toDigits]
    rfl

end

end Library.LooseJson
