import Mathlib.Data.List.Nodup
import Reconciliation.Proofs.Edits

/-! # Edits of lists

What an edit of pairs or of named items comes to, and what is left to do when the same edit is made once more. An
edit of pairs settles if the edit of an item does. One of named items does not: for every name it removes only the
first of several items that are not wanted.

Some rules compare lists whose order does not matter by sorting both by name. Items of one name stay in the order that
they have, so two sorted lists are equal only if one list is the other in some order, and this is all there is to it if
items of one name are the same item on one of the two sides.
-/

namespace Reconciliation

namespace Edit

variable {α β : Type}

theorem length_value_pairs (edit : α → β → Edit α) (items : List α) (wanted : List β) :
    (pairs edit items wanted).value.length = items.length := by
  induction items generalizing wanted with
  | nil => cases wanted <;> rfl
  | cons item rest ih =>
    cases wanted with
    | nil => rfl
    | cons goal goals => exact congrArg (· + 1) (ih goals)

/-- An edit that changes nothing changes no pairs. -/
theorem pairs_of_idle {edit : α → β → Edit α} (idle : ∀ current wanted, edit current wanted = keep current)
    (items : List α) (wanted : List β) : pairs edit items wanted = keep items := by
  induction items generalizing wanted with
  | nil => cases wanted <;> rfl
  | cons item rest ih =>
    cases wanted with
    | nil => rfl
    | cons goal goals =>
      simp only [pairs, idle, ih]
      rfl

/-- If editing an item again changes nothing, neither does editing a list in pairs again. -/
theorem changed_pairs_again {edit : α → β → Edit α}
    (again : ∀ current wanted, (edit (edit current wanted).value wanted).changed = false) (items : List α)
    (wanted : List β) : (pairs edit (pairs edit items wanted).value wanted).changed = false := by
  induction items generalizing wanted with
  | nil => cases wanted <;> rfl
  | cons item rest ih =>
    cases wanted with
    | nil => rfl
    | cons goal goals => simp only [pairs, again, ih, Bool.or_self]

theorem changed_pairsOrAdded_again {edit : α → α → Edit α}
    (again : ∀ current wanted, (edit (edit current wanted).value wanted).changed = false)
    (still : ∀ item, edit item item = keep item) (items wanted : List α) :
    (pairsOrAdded edit (pairsOrAdded edit items wanted).value wanted).changed = false := by
  induction items generalizing wanted with
  | nil =>
    cases wanted with
    | nil => rfl
    | cons goal goals =>
      exact congrArg Edit.changed (pairsOrAdded_self fun item _ => still item)
  | cons item rest ih =>
    cases wanted with
    | nil => rfl
    | cons goal goals => simp only [pairsOrAdded, again, ih, Bool.or_self]

/-- Where nothing is reported, pairs are as they were. -/
theorem value_pairsOrAdded_of_unchanged {edit : α → α → Edit α}
    (exact : ∀ current wanted, (edit current wanted).changed = false → (edit current wanted).value = current)
    {items wanted : List α} (unchanged : (pairsOrAdded edit items wanted).changed = false) :
    (pairsOrAdded edit items wanted).value = items := by
  induction items generalizing wanted with
  | nil =>
    cases wanted with
    | nil => rfl
    | cons goal goals => cases unchanged
  | cons item rest ih =>
    cases wanted with
    | nil => rfl
    | cons goal goals =>
      obtain ⟨here, later⟩ := Bool.or_eq_false_iff.mp unchanged
      simp only [pairsOrAdded, exact _ _ here, ih later]

/-- No more items than wanted ones become these, which is a change unless they are the same. -/
theorem pairsOrAdded_replace [DecidableEq α] {items wanted : List α} (fit : items.length ≤ wanted.length) :
    pairsOrAdded replace items wanted = ⟨wanted, decide (items ≠ wanted)⟩ := by
  induction items generalizing wanted with
  | nil => cases wanted <;> rfl
  | cons item rest ih =>
    cases wanted with
    | nil => cases fit
    | cons goal goals =>
      have later := ih (Nat.le_of_succ_le_succ fit)
      simp [pairsOrAdded, later]

section Named

variable [DecidableEq α] {nameOf : α → String}

theorem namedEach_cons (name : String) (names : List String) (current : Option (List α)) (wanted : List α) :
    namedEach nameOf (name :: names) current wanted =
      (named nameOf name current wanted).bind fun current => namedEach nameOf names current wanted :=
  foldl_bind_cons ..

/-- An unwanted item is removed. -/
theorem named_of_unwanted {name : String} {item : α} (called : nameOf item = name) (rest : List α) :
    named nameOf name (some (item :: rest)) [] = ⟨some rest, true⟩ := by
  simp [named, List.findIdx?_cons, called]

/-- If nothing is wanted, every time that a name is given removes an item of that name. -/
theorem namedEach_replicate {name : String} {item : α} (called : nameOf item = name) (names : List String)
    (count : Nat) :
    namedEach nameOf names (some (List.replicate (names.count name + count) item)) [] =
      ⟨some (List.replicate count item), decide (name ∈ names)⟩ := by
  induction names with
  | nil => simp [namedEach, keep]
  | cons first rest ih =>
    rw [namedEach_cons]
    by_cases here : first = name
    · subst here
      have one_more : (first :: rest).count first + count = rest.count first + count + 1 := by simp; omega
      rw [one_more, List.replicate_succ, named_of_unwanted called]
      simp [Edit.bind, ih]
    · have absent : nameOf item ≠ first := fun same => here (same.symm.trans called)
      have kept (items : Nat) : named nameOf first (some (List.replicate items item)) [] =
          keep (some (List.replicate items item)) := by simp [named, List.findIdx?_replicate, absent]
      rw [kept, keep_bind, List.count_cons_of_ne here, ih]
      simp [Ne.symm here]

/-- Two rounds of removal both remove something if there are enough items. -/
theorem changed_namedEach_twice {name : String} {names : List String} (given : name ∈ names) {item : α}
    (called : nameOf item = name) :
    let items := some (List.replicate (names.count name + (names.count name + 0)) item)
    (namedEach nameOf names (namedEach nameOf names items []).value []).changed = true := by
  simp only [namedEach_replicate called, given, decide_true]

end Named

end Edit

section NameOrder

variable {α : Type} {nameOf : α → String} {items others : List α}

theorem pairwise_mergeSort_name (nameOf : α → String) (items : List α) :
    (items.mergeSort fun a b => nameOf a ≤ nameOf b).Pairwise fun a b => nameOf a ≤ nameOf b := by
  refine (List.pairwise_mergeSort (fun a b c first second => ?_) (fun a b => ?_) items).imp of_decide_eq_true
  · simp only [decide_eq_true_eq] at *
    exact String.le_trans first second
  · simpa using String.le_total (nameOf a) (nameOf b)

theorem perm_of_mergeSort_name_eq
    (same : (items.mergeSort fun a b => nameOf a ≤ nameOf b) = others.mergeSort fun a b => nameOf a ≤ nameOf b) :
    items.Perm others :=
  (List.mergeSort_perm items _).symm.trans (same ▸ List.mergeSort_perm others _)

/-- Where the name tells the item, two lists that are the same in some order are the same when they are sorted. -/
theorem mergeSort_name_eq_iff (determines : ∀ a ∈ others, ∀ b ∈ others, nameOf a = nameOf b → a = b) :
    (items.mergeSort fun a b => nameOf a ≤ nameOf b) = (others.mergeSort fun a b => nameOf a ≤ nameOf b) ↔
      items.Perm others := by
  refine ⟨perm_of_mergeSort_name_eq, fun reordered => ?_⟩
  refine List.Perm.eq_of_pairwise (fun a b here there below above => ?_) (pairwise_mergeSort_name nameOf items)
    (pairwise_mergeSort_name nameOf others)
    (((List.mergeSort_perm items _).trans reordered).trans (List.mergeSort_perm others _).symm)
  have listed : a ∈ others := reordered.mem_iff.mp (List.mem_mergeSort.mp here)
  exact determines a listed b (List.mem_mergeSort.mp there) (String.le_antisymm below above)

end NameOrder

end Reconciliation
