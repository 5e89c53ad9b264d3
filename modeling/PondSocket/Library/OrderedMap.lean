import Mathlib.Data.List.Nodup
import PondSocket.Library.Places

namespace Library

open List Option

-- A finite map that is iterated in insertion order. Writing a present key keeps
-- its place, writing an absent key appends it, deleting a key frees its place.
structure OrderedMap (K V : Type) where
  entries : List (K × V)
  distinct : (entries.map Prod.fst).Nodup
deriving DecidableEq

namespace OrderedMap

variable {K V : Type} [DecidableEq K]

variable (map : OrderedMap K V) (key : K)

variable (rows : List (K × V))

def findEntry (key : K) : List (K × V) → Option V
  | [] => none
  | (other, value) :: tail => if key = other then some value else findEntry key tail

def putEntry (key : K) (value : V) : List (K × V) → List (K × V)
  | [] => [(key, value)]
  | (other, old) :: tail =>
    if key = other then (key, value) :: tail else (other, old) :: putEntry key value tail

def dropEntry (key : K) (rows : List (K × V)) : List (K × V) :=
  rows.filter fun row => decide (row.1 ≠ key)

variable {query : K} {value : V}

theorem find_entry_put {key : K} :
    findEntry query (putEntry key value rows) = if query = key then some value else findEntry query rows := by
  induction rows with
  | nil => rfl
  | cons row _ ih =>
    obtain ⟨other, _⟩ := row
    by_cases same : key = other
    · subst same
      by_cases hit : query = key <;> simp [putEntry, findEntry, hit]
    by_cases hit : query = other
    · have miss : ¬ other = key := fun eq => same eq.symm
      subst hit
      simp [putEntry, findEntry, same, miss]
    · simp [putEntry, findEntry, same, hit, ih]

theorem find_entry_drop {key : K} :
    findEntry query (dropEntry key rows) = if query = key then none else findEntry query rows := by
  induction rows with
  | nil => simp [dropEntry, findEntry]
  | cons row _ ih =>
    obtain ⟨other, _⟩ := row
    simp only [dropEntry] at ih ⊢
    by_cases same : other = key
    · subst same
      by_cases hit : query = other <;> simpa [findEntry, hit] using ih
    by_cases hit : query = other
    · subst hit
      simp [findEntry, same]
    · simpa [findEntry, same, hit] using ih

theorem find_entry_some_iff (key : K) :
    (findEntry key rows).isSome ↔ key ∈ rows.map Prod.fst := by
  induction rows with
  | nil => simp [findEntry]
  | cons row _ ih =>
    obtain ⟨other, _⟩ := row
    by_cases same : key = other <;> simp [findEntry, same, ih]

theorem find_entry_mem (distinct : (rows.map Prod.fst).Nodup) {key : K} :
    findEntry key rows = some value ↔ (key, value) ∈ rows := by
  induction rows with
  | nil => simp [findEntry]
  | cons row tail ih =>
    obtain ⟨other, _⟩ := row
    obtain ⟨absent, rest⟩ := nodup_cons.mp distinct
    by_cases same : key = other
    · subst same
      have missing : (key, value) ∉ tail := fun member => absent (mem_map.mpr ⟨_, member, rfl⟩)
      simp [findEntry, missing, eq_comm]
    · simp [findEntry, same, ih rest]

theorem mem_keys_put {key : K} :
    query ∈ (putEntry key value rows).map Prod.fst ↔ query = key ∨ query ∈ rows.map Prod.fst := by
  rw [← find_entry_some_iff, ← find_entry_some_iff, find_entry_put]
  by_cases hit : query = key <;> simp [hit]

theorem put_distinct (key : K) (value : V) (distinct : (rows.map Prod.fst).Nodup) :
    ((putEntry key value rows).map Prod.fst).Nodup := by
  induction rows with
  | nil => simp [putEntry]
  | cons row tail ih =>
    obtain ⟨other, _⟩ := row
    obtain ⟨absent, rest⟩ := nodup_cons.mp distinct
    by_cases same : key = other
    · subst same
      simpa [putEntry] using distinct
    simp only [putEntry, if_neg same, map_cons, nodup_cons]
    refine ⟨fun member => ?_, ih rest⟩
    rcases (mem_keys_put tail).mp member with eq | later
    · exact same eq.symm
    · exact absent later

theorem drop_distinct (key : K) (distinct : (rows.map Prod.fst).Nodup) :
    ((dropEntry key rows).map Prod.fst).Nodup :=
  distinct.sublist (filter_sublist.map Prod.fst)

def empty : OrderedMap K V := ⟨[], List.nodup_nil⟩

def get? (map : OrderedMap K V) (key : K) : Option V := findEntry key map.entries

def has (map : OrderedMap K V) (key : K) : Bool := (map.get? key).isSome

def set (map : OrderedMap K V) (key : K) (value : V) : OrderedMap K V :=
  ⟨putEntry key value map.entries, put_distinct map.entries key value map.distinct⟩

def delete (map : OrderedMap K V) (key : K) : OrderedMap K V :=
  ⟨dropEntry key map.entries, drop_distinct map.entries key map.distinct⟩

def keys (map : OrderedMap K V) : List K := map.entries.map Prod.fst

def values (map : OrderedMap K V) : List V := map.entries.map Prod.snd

def size (map : OrderedMap K V) : Nat := map.entries.length

def isEmpty (map : OrderedMap K V) : Bool := map.entries.isEmpty

-- Later entries overwrite earlier ones and keep their place.
def merge (map other : OrderedMap K V) : OrderedMap K V :=
  other.entries.foldl (fun result row => result.set row.1 row.2) map

def ofList (rows : List (K × V)) : OrderedMap K V :=
  rows.foldl (fun result row => result.set row.1 row.2) empty

@[simp] theorem get_empty : (empty : OrderedMap K V).get? key = none := rfl

@[simp] theorem has_empty : (empty : OrderedMap K V).has key = false := rfl

theorem get_set (key query : K) (value : V) :
    (map.set key value).get? query = if query = key then some value else map.get? query :=
  find_entry_put map.entries

theorem get_delete (key query : K) :
    (map.delete key).get? query = if query = key then none else map.get? query :=
  find_entry_drop map.entries

variable {map key}

@[simp] theorem get_set_same :
    (map.set key value).get? key = some value := by
  rw [get_set, if_pos rfl]

@[simp] theorem get_delete_same : (map.delete key).get? key = none := by
  rw [get_delete, if_pos rfl]

theorem get_set_other {key : K} (different : query ≠ key) : (map.set key value).get? query = map.get? query := by
  rw [get_set, if_neg different]

theorem get_delete_other {key : K} (different : query ≠ key) : (map.delete key).get? query = map.get? query := by
  rw [get_delete, if_neg different]

theorem find_entry_absent {key : K} (absent : key ∉ rows.map Prod.fst) :
    findEntry key rows = none := by
  rw [← not_isSome_iff_eq_none, find_entry_some_iff]
  exact absent

theorem find_append (first rest : List (K × V)) (key : K) :
    findEntry key (first ++ rest) = (findEntry key first).or (findEntry key rest) := by
  induction first with
  | nil => rfl
  | cons entry _ ih =>
    obtain ⟨other, _⟩ := entry
    by_cases same : key = other <;> simp [findEntry, same, ih]

theorem get_fold_set (distinct : (rows.map Prod.fst).Nodup) (map : OrderedMap K V) :
    (rows.foldl (fun result row => result.set row.1 row.2) map).get? query =
      (findEntry query rows).or (map.get? query) := by
  induction rows generalizing map with
  | nil => rfl
  | cons row tail ih =>
    obtain ⟨key, _⟩ := row
    obtain ⟨absent, rest⟩ := nodup_cons.mp distinct
    rw [foldl_cons, ih rest, get_set]
    by_cases same : query = key
    · subst same
      simp [findEntry, find_entry_absent tail absent]
    · simp [findEntry, same]

theorem get_merge (map other : OrderedMap K V) (query : K) :
    (map.merge other).get? query = (other.get? query).or (map.get? query) :=
  get_fold_set other.entries other.distinct map

theorem get_of_list (distinct : (rows.map Prod.fst).Nodup) (query : K) :
    (ofList rows).get? query = findEntry query rows := by
  rw [ofList, get_fold_set rows distinct, get_empty, or_none]

variable {rows}

theorem put_entry_absent {key : K} (absent : key ∉ rows.map Prod.fst) :
    putEntry key value rows = rows ++ [(key, value)] := by
  induction rows with
  | nil => rfl
  | cons _ _ ih =>
    obtain ⟨different, later⟩ := not_or.mp (mem_cons.not.mp absent)
    rw [putEntry, if_neg different, ih later, cons_append]

theorem fold_set_entries (map : OrderedMap K V) (distinct : ((map.entries ++ rows).map Prod.fst).Nodup) :
    (rows.foldl (fun result row => result.set row.1 row.2) map).entries = map.entries ++ rows := by
  induction rows generalizing map with
  | nil => exact (append_nil _).symm
  | cons row _ ih =>
    obtain ⟨key, value⟩ := row
    have absent : key ∉ map.entries.map Prod.fst := by
      rw [map_append, map_cons, nodup_append] at distinct
      exact fun member => distinct.2.2 key member key mem_cons_self rfl
    have put : (map.set key value).entries = map.entries ++ [(key, value)] := put_entry_absent absent
    rw [foldl_cons, ih _ (by rwa [put, append_assoc]), put, append_assoc, singleton_append]

theorem of_list_entries (map : OrderedMap K V) : ofList map.entries = map := by
  have same : (ofList map.entries).entries = map.entries := fold_set_entries empty map.distinct
  obtain ⟨rows, _⟩ := map
  generalize ofList rows = built at same ⊢
  cases same
  rfl

theorem drop_entry_absent {key : K} (absent : findEntry key rows = none) :
    dropEntry key rows = rows := by
  have missing : key ∉ rows.map Prod.fst := by simp [← find_entry_some_iff, absent]
  refine filter_eq_self.mpr fun row member => ?_
  have different : row.1 ≠ key := fun eq => missing (mem_map.mpr ⟨row, member, eq⟩)
  simpa using different

theorem delete_absent (absent : map.has key = false) : map.delete key = map := by
  obtain ⟨rows, _⟩ := map
  have none : findEntry key rows = none := by simpa [has, get?] using absent
  simp [delete, drop_entry_absent none]

theorem has_iff : map.has key = true ↔ ∃ value, map.get? key = some value :=
  isSome_iff_exists

theorem has_false_iff : map.has key = false ↔ map.get? key = none := by
  simp [has]

theorem has_set :
    (map.set key value).has query = true ↔ query = key ∨ map.has query = true := by
  by_cases hit : query = key <;> simp [has, get_set, hit]

theorem has_delete :
    (map.delete key).has query = true ↔ query ≠ key ∧ map.has query = true := by
  by_cases hit : query = key <;> simp [has, get_delete, hit]

theorem has_delete_all {keys : List K} (map : OrderedMap K V) :
    (keys.foldl delete map).has query = true ↔ query ∉ keys ∧ map.has query = true := by
  induction keys generalizing map with
  | nil => simp
  | cons _ _ ih =>
    rw [foldl_cons, ih, has_delete, mem_cons, not_or]
    tauto

theorem get_delete_all {keys : List K} (map : OrderedMap K V) (absent : query ∉ keys) :
    (keys.foldl delete map).get? query = map.get? query := by
  induction keys generalizing map with
  | nil => rfl
  | cons _ _ ih =>
    obtain ⟨different, later⟩ := not_or.mp (mem_cons.not.mp absent)
    rw [foldl_cons, ih _ later, get_delete_other different]

theorem mem_keys : key ∈ map.keys ↔ map.has key = true :=
  (find_entry_some_iff map.entries key).symm

theorem mem_entries :
    (key, value) ∈ map.entries ↔ map.get? key = some value :=
  (find_entry_mem map.entries map.distinct).symm

theorem empty_iff : map.isEmpty = true ↔ ∀ key, map.has key = false := by
  constructor
  · intro none key
    have nil : map.entries = [] := isEmpty_iff.mp none
    simp [has, get?, nil, findEntry]
  · intro absent
    cases rows : map.entries with
    | nil => simp [isEmpty, rows]
    | cons row =>
      have present : map.has row.1 = true := mem_keys.mp (by simp [keys, rows])
      rw [absent row.1] at present
      cases present

omit [DecidableEq K] in
theorem eq_empty (none : map.isEmpty = true) : map = empty := by
  obtain ⟨entries, distinct⟩ := map
  cases isEmpty_iff.mp none
  rfl

theorem count_zero_iff (p : V → Bool) :
    map.values.countP p = 0 ↔ ∀ key value, map.get? key = some value → p value = false := by
  simp only [values, countP_eq_zero, List.mem_map]
  constructor
  · intro none key value found
    exact Bool.eq_false_iff.mpr (none value ⟨(key, value), mem_entries.mpr found, rfl⟩)
  · rintro none value ⟨⟨key, other⟩, member, rfl⟩
    exact Bool.eq_false_iff.mp (none key other (mem_entries.mp member))

theorem count_one_iff (p : V → Bool) (key : K) (value : V)
    (found : map.get? key = some value) (counted : p value = true) :
    map.values.countP p = 1 ↔ ∀ other entry, map.get? other = some entry → p entry = true → other = key := by
  have rest : map.values.countP p = (map.delete key).values.countP p + 1 := by
    obtain ⟨rows, distinct⟩ := map
    simp only [get?] at found
    simp only [values, delete]
    induction rows with
    | nil => cases found
    | cons row tail ih =>
      obtain ⟨first, entry⟩ := row
      obtain ⟨absent, later⟩ := nodup_cons.mp distinct
      by_cases same : key = first
      · subst same
        have hit : entry = value := by simpa [findEntry] using found
        have missing : findEntry key tail = none := by
          rw [← not_isSome_iff_eq_none, find_entry_some_iff]
          exact absent
        have dropped : dropEntry key ((key, entry) :: tail) = tail := by
          have skip : dropEntry key ((key, entry) :: tail) = dropEntry key tail := by simp [dropEntry]
          rw [skip, drop_entry_absent missing]
        rw [dropped, map_cons, countP_cons_of_pos (by rw [hit]; exact counted)]
      · have kept : dropEntry key ((first, entry) :: tail) = (first, entry) :: dropEntry key tail :=
          filter_cons_of_pos (decide_eq_true fun eq : first = key => same eq.symm)
        have step := ih later (by simpa [findEntry, same] using found)
        rw [kept, map_cons, map_cons, countP_cons, countP_cons, step]
        omega
  rw [rest, Nat.add_eq_right, count_zero_iff]
  constructor
  · intro none other entry row hit
    by_contra different
    rw [none other entry (by rw [get_delete_other different]; exact row)] at hit
    cases hit
  · intro only other entry row
    rw [get_delete] at row
    split at row
    · cases row
    rename_i different
    cases hit : p entry with
    | false => rfl
    | true => exact absurd (only other entry row hit) different

theorem count_pos (p : V → Bool) (key : K) (value : V)
    (found : map.get? key = some value) (counted : p value = true) : 0 < map.values.countP p := by
  rw [Nat.pos_iff_ne_zero, Ne, count_zero_iff]
  intro none
  rw [none key value found] at counted
  cases counted

theorem foldl_set_keyed (of : V → K) (values : List V) (map : OrderedMap K V)
    (keyed : ∀ key value, map.get? key = some value → of value = key)
    (found : (values.foldl (fun map value => map.set (of value) value) map).get? key = some value) : of value = key := by
  induction values generalizing map with
  | nil => exact keyed key value found
  | cons first _ ih =>
    refine ih (map.set (of first) first) ?_ found
    intro other held found
    rw [get_set] at found
    split at found
    · rename_i same
      cases found
      exact same.symm
    · exact keyed other held found

end OrderedMap

abbrev OrderedSet (K : Type) := OrderedMap K Unit

def OrderedSet.add {K : Type} [DecidableEq K] (members : OrderedSet K) (key : K) : OrderedSet K :=
  OrderedMap.set members key ()

end Library
