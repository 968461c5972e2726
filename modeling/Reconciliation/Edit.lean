/-! # Edits

An edit is a value together with the report whether it differs from what it was made from. The
report is made of those of the parts, so that whoever calls learns whether there is anything to write
without comparing whole objects.
-/

namespace Reconciliation

/-- A new value, and whether anything was changed to obtain it. -/
structure Edit (α : Type) where
  value : α
  changed : Bool
deriving DecidableEq

namespace Edit

variable {α β γ : Type}

/-- Leave a value as it is. -/
def keep (value : α) : Edit α := ⟨value, false⟩

/-- Make a value another one; this is a change if they differ. -/
def replace [DecidableEq α] (current wanted : α) : Edit α := ⟨wanted, decide (current ≠ wanted)⟩

/-- Put the new value into something larger. -/
def map (f : α → β) (edit : Edit α) : Edit β := ⟨f edit.value, edit.changed⟩

/-- Edit the new value once more; the changes add up. -/
def bind (edit : Edit α) (next : α → Edit β) : Edit β :=
  let after := next edit.value
  ⟨after.value, edit.changed || after.changed⟩

/-- Edit each item with the one at the same place of another list. Where that list has no item, the
items are kept. -/
def pairs (edit : α → β → Edit α) : List α → List β → Edit (List α)
  | current :: more, wanted :: rest =>
      let first := edit current wanted
      let others := pairs edit more rest
      ⟨first.value :: others.value, first.changed || others.changed⟩
  | current, _ => keep current

/-- Like `pairs`, but wanted items beyond the existing ones are added. -/
def pairsOrAdded (edit : α → α → Edit α) : List α → List α → Edit (List α)
  | current :: more, wanted :: rest =>
      let first := edit current wanted
      let others := pairsOrAdded edit more rest
      ⟨first.value :: others.value, first.changed || others.changed⟩
  | [], wanted => ⟨wanted, !wanted.isEmpty⟩
  | current, [] => keep current

/-- Make the items called `name` follow the wanted ones: if both lists have one, the first existing
one becomes the first wanted one; if only one of the lists has one, it is added or removed. -/
def named [DecidableEq α] (nameOf : α → String) (name : String) (current : Option (List α))
    (wanted : List α) : Edit (Option (List α)) :=
  let items := current.getD []
  match items.findIdx? (nameOf · == name), wanted.find? (nameOf · == name) with
  | none, none => keep current
  | some index, none => ⟨some (items.eraseIdx index), true⟩
  | none, some item => ⟨some (items ++ [item]), true⟩
  | some index, some item =>
      ⟨some (items.set index item), decide (items[index]? ≠ some item)⟩

/-- Let the items of each name in turn follow the wanted ones. -/
def namedEach [DecidableEq α] (nameOf : α → String) (names : List String) (current : Option (List α))
    (wanted : List α) : Edit (Option (List α)) :=
  names.foldl (fun edit name => edit.bind fun current => named nameOf name current wanted) (keep current)

end Edit

end Reconciliation
