import Reconciliation.Edit
import Reconciliation.SortedMap

/-! # One-sided unions of maps

Two ways to bring the entries of a wanted map into an existing one, both of which keep all its other
entries: `merge` lets the wanted values win, `addMissing` the existing ones. A map that is absent is
created with the first entry that is put into it, so it stays absent if nothing is wanted.
-/

namespace Reconciliation.Merge

variable {α : Type}

/-- Set one entry. -/
def setEntry [DecidableEq α] (key : String) (value : α) (existing : Option (SortedMap String α)) :
    Edit (Option (SortedMap String α)) :=
  let map := existing.getD .empty
  if map.get? key = some value then .keep existing else ⟨some (map.insert key value), true⟩

/-- Set one entry unless there is one under its key. -/
def addEntry (key : String) (value : α) (existing : Option (SortedMap String α)) :
    Edit (Option (SortedMap String α)) :=
  let map := existing.getD .empty
  if map.contains key then .keep existing else ⟨some (map.insert key value), true⟩

/-- Bring in the entries of a list one after the other. -/
def each (put : String → α → Option (SortedMap String α) → Edit (Option (SortedMap String α)))
    (existing : Option (SortedMap String α)) (entries : List (String × α)) :
    Edit (Option (SortedMap String α)) :=
  entries.foldl (fun edit entry => edit.bind (put entry.1 entry.2)) (.keep existing)

/-- The union in which the wanted values win. -/
def merge [DecidableEq α] (existing wanted : Option (SortedMap String α)) :
    Edit (Option (SortedMap String α)) :=
  each setEntry existing ((wanted.map (·.entries)).getD [])

/-- The union in which the existing values win. -/
def addMissing (existing wanted : Option (SortedMap String α)) : Edit (Option (SortedMap String α)) :=
  each addEntry existing ((wanted.map (·.entries)).getD [])

end Reconciliation.Merge
