import Mathlib.Data.List.Basic

namespace Library.EventStream

open List

-- What a reader of an event stream dispatches.
structure Message where
  type : List Char
  data : List Char
deriving DecidableEq

-- The lines that have ended; a carriage return ends one, alone or before a line feed.
def lines : List Char → List Char → List (List Char)
  | _, [] => []
  | line, '\n' :: rest => line.reverse :: lines [] rest
  | line, '\r' :: '\n' :: rest => line.reverse :: lines [] rest
  | line, '\r' :: rest => line.reverse :: lines [] rest
  | line, char :: rest => lines (char :: line) rest

-- The name of a field and its value, without the one space that may stand before it.
def field (line : List Char) : List Char × List Char :=
  (line.takeWhile (· ≠ ':'),
    match line.dropWhile (· ≠ ':') with
    | _ :: ' ' :: value => value
    | _ :: value => value
    | [] => [])

structure Pending where
  type : List Char
  data : List Char
deriving DecidableEq

def fresh : Pending := ⟨[], []⟩

def typeOf (name : List Char) : List Char := if name = [] then ['m', 'e', 's', 's', 'a', 'g', 'e'] else name

-- An empty line dispatches what there is data for, a line with a colon first is a
-- comment; each line of data is followed by a line feed.
def Pending.line (pending : Pending) (line : List Char) : Pending × Option Message :=
  if line = [] then
    if pending.data = [] then (fresh, none)
    else (fresh, some ⟨typeOf pending.type, pending.data.dropLast⟩)
  else if line.head? = some ':' then (pending, none)
  else if (field line).1 = ['e', 'v', 'e', 'n', 't'] then ({ pending with type := (field line).2 }, none)
  else if (field line).1 = ['d', 'a', 't', 'a'] then
    ({ pending with data := pending.data ++ ((field line).2 ++ ['\n']) }, none)
  else (pending, none)

def dispatch : Pending → List (List Char) → List Message
  | _, [] => []
  | pending, line :: rest => (pending.line line).2.toList ++ dispatch (pending.line line).1 rest

-- A byte order mark at the start is not part of the stream.
def messages (text : List Char) : List Message :=
  dispatch fresh (lines [] (if text.head? = some '\uFEFF' then text.tail else text))

def OneLine (text : List Char) : Prop := '\n' ∉ text ∧ '\r' ∉ text

instance (text : List Char) : Decidable (OneLine text) := inferInstanceAs (Decidable (_ ∧ _))

theorem one_line_append (first rest : List Char) : OneLine (first ++ rest) ↔ OneLine first ∧ OneLine rest := by
  simp only [OneLine, mem_append, not_or]
  tauto

variable {rest : List Char}

theorem lines_char {line : List Char} {char : Char} (feed : char ≠ '\n') (carriage : char ≠ '\r') :
    lines line (char :: rest) = lines (char :: line) rest := by
  rw [lines]
  · exact feed
  · intro other same
    exact absurd same carriage
  · exact carriage

theorem lines_until (text : List Char) (line rest : List Char) (whole : OneLine text) :
    lines line (text ++ '\n' :: rest) = (line.reverse ++ text) :: lines [] rest := by
  induction text generalizing line with
  | nil =>
    rw [append_nil]
    rfl
  | cons char others ih =>
    have feed : char ≠ '\n' := fun same => whole.1 (same ▸ mem_cons_self)
    have carriage : char ≠ '\r' := fun same => whole.2 (same ▸ mem_cons_self)
    have tail : OneLine others :=
      ⟨fun member => whole.1 (mem_cons_of_mem char member), fun member => whole.2 (mem_cons_of_mem char member)⟩
    rw [cons_append, lines_char feed carriage, ih (char :: line) tail, reverse_cons, append_assoc, singleton_append]

variable {text : List Char}

theorem lines_line (whole : OneLine text) :
    lines [] (text ++ '\n' :: rest) = text :: lines [] rest := lines_until text [] rest whole

-- A text dispatches some messages, between messages and whatever comes after it.
def Yields (text : List Char) (found : List Message) : Prop :=
  ∀ rest, dispatch fresh (lines [] (text ++ rest)) = found ++ dispatch fresh (lines [] rest)

theorem yields_nil : Yields [] [] := fun _ => rfl

theorem yields_append {first second : List Char} {before after : List Message} (early : Yields first before)
    (late : Yields second after) : Yields (first ++ second) (before ++ after) := by
  intro rest
  rw [append_assoc, early, late, append_assoc]

theorem yields_all {Item : Type} (text : Item → List Char) {found : Item → List Message} (items : List Item)
    (each : ∀ item ∈ items, Yields (text item) (found item)) : Yields (items.flatMap text) (items.flatMap found) := by
  induction items with
  | nil => exact yields_nil
  | cons item _ ih =>
    exact yields_append (each item mem_cons_self) (ih fun other member => each other (mem_cons_of_mem item member))

theorem yields_messages {found : List Message} (yields : Yields text found) (marked : text.head? ≠ some '\uFEFF') :
    messages text = found := by
  have whole := yields []
  rw [append_nil] at whole
  rw [messages, if_neg marked, whole]
  exact append_nil found

theorem yields_comment (whole : OneLine text) : Yields (':' :: (text ++ ['\n', '\n'])) [] := by
  intro rest
  have comment : OneLine (':' :: text) := (one_line_append [':'] text).mpr ⟨by decide, whole⟩
  have split : ':' :: (text ++ ['\n', '\n']) ++ rest = (':' :: text) ++ '\n' :: ([] ++ '\n' :: rest) := by simp
  rw [split, lines_line comment, lines_line ⟨not_mem_nil, not_mem_nil⟩]
  rfl

theorem line_data (pending : Pending) (data : List Char) :
    pending.line ('d' :: 'a' :: 't' :: 'a' :: ':' :: ' ' :: data) =
      ({ pending with data := pending.data ++ (data ++ ['\n']) }, none) := rfl

theorem line_event (pending : Pending) (name : List Char) :
    pending.line ('e' :: 'v' :: 'e' :: 'n' :: 't' :: ':' :: ' ' :: name) = ({ pending with type := name }, none) := rfl

theorem line_end (type data : List Char) :
    Pending.line ⟨type, data ++ ['\n']⟩ [] = (fresh, some ⟨typeOf type, data⟩) := by
  rw [Pending.line, if_pos rfl, if_neg (by simp), dropLast_concat]

variable {data : List Char}

theorem yields_data (whole : OneLine data) :
    Yields (['d', 'a', 't', 'a', ':', ' '] ++ (data ++ ['\n', '\n'])) [⟨typeOf [], data⟩] := by
  intro rest
  have line : OneLine (['d', 'a', 't', 'a', ':', ' '] ++ data) := (one_line_append _ data).mpr ⟨by decide, whole⟩
  have split : ['d', 'a', 't', 'a', ':', ' '] ++ (data ++ ['\n', '\n']) ++ rest =
      (['d', 'a', 't', 'a', ':', ' '] ++ data) ++ '\n' :: ([] ++ '\n' :: rest) := by simp
  rw [split, lines_line line, lines_line ⟨not_mem_nil, not_mem_nil⟩]
  simp [dispatch, line_data, fresh, line_end]

theorem yields_named {name : List Char} (named : OneLine name) (whole : OneLine data) :
    Yields (['e', 'v', 'e', 'n', 't', ':', ' '] ++ (name ++ '\n' :: (['d', 'a', 't', 'a', ':', ' '] ++
      (data ++ ['\n', '\n'])))) [⟨typeOf name, data⟩] := by
  intro rest
  have first : OneLine (['e', 'v', 'e', 'n', 't', ':', ' '] ++ name) := (one_line_append _ name).mpr ⟨by decide, named⟩
  have second : OneLine (['d', 'a', 't', 'a', ':', ' '] ++ data) := (one_line_append _ data).mpr ⟨by decide, whole⟩
  have split : ['e', 'v', 'e', 'n', 't', ':', ' '] ++ (name ++ '\n' :: (['d', 'a', 't', 'a', ':', ' '] ++
      (data ++ ['\n', '\n']))) ++ rest =
      (['e', 'v', 'e', 'n', 't', ':', ' '] ++ name) ++ '\n' :: ((['d', 'a', 't', 'a', ':', ' '] ++ data) ++ '\n' ::
        ([] ++ '\n' :: rest)) := by simp
  rw [split, lines_line first, lines_line second, lines_line ⟨not_mem_nil, not_mem_nil⟩]
  simp [dispatch, line_event, line_data, fresh, line_end]

end Library.EventStream
