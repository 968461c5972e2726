import Reconciliation.Proofs.ExactEdits

/-! # What an edit of named items comes to

An edit of named items works on one item of a name at a time. Every round puts the first wanted item into the place
of the first existing one, and drops this if none is wanted. So of several items of one name the later ones stay as
they are, and all that is left to a second edit is to drop more of those that are not wanted. Items of other names
are out of its reach.
-/

namespace Reconciliation.Edit

variable {α β : Type}

section Pairs

variable {edit : α → β → Edit α} {items : List α} {wanted : List β}

/-- Of two lists of the same length each item is edited with the one at its place. -/
theorem getElem?_value_pairs (same : items.length = wanted.length) (index : Nat) :
    (pairs edit items wanted).value[index]? =
      items[index]?.bind fun current => wanted[index]?.map fun goal => (edit current goal).value := by
  induction items generalizing wanted index with
  | nil => cases wanted <;> simp [pairs]
  | cons item rest ih =>
    cases wanted with
    | nil => cases same
    | cons goal goals =>
      cases index with
      | zero => rfl
      | succ index =>
        simp only [pairs, List.getElem?_cons_succ]
        exact ih (Nat.succ.inj same) index

theorem changed_pairs_eq_false_iff :
    (pairs edit items wanted).changed = false ↔
      ∀ (index : Nat) (current : α) (goal : β), items[index]? = some current → wanted[index]? = some goal →
        (edit current goal).changed = false := by
  induction items generalizing wanted with
  | nil => cases wanted <;> simp [pairs]
  | cons item rest ih =>
    cases wanted with
    | nil => simp [pairs]
    | cons goal goals =>
      simp only [pairs, Bool.or_eq_false_iff, ih]
      constructor
      · rintro ⟨first, later⟩ index current wanted here there
        cases index with
        | zero =>
          cases here
          cases there
          exact first
        | succ index => exact later index current wanted here there
      · intro all
        constructor
        · exact all 0 item goal rfl rfl
        · intro index current wanted here there
          exact all (index + 1) current wanted here there

end Pairs

section Rounds

/-- What rounds for one name make of the items of this name. -/
def rounds (count : Nat) (wanted items : List α) : List α :=
  match wanted with
  | [] => items.drop count
  | goal :: _ => if count = 0 then items else goal :: items.tail

@[simp] theorem rounds_zero (wanted items : List α) : rounds 0 wanted items = items := by
  cases wanted <;> rfl

/-- One more round in front of others. -/
theorem rounds_succ (count : Nat) (wanted items : List α) :
    rounds count wanted (wanted.head?.toList ++ items.tail) = rounds (count + 1) wanted items := by
  cases wanted with
  | nil => simp [rounds]
  | cons goal goals => cases count <;> simp [rounds]

/-- One more round behind others has something to do only if there are still items that are not wanted. -/
theorem rounds_settled_iff {count : Nat} (positive : 0 < count) {wanted items : List α} :
    wanted.head?.toList ++ (rounds count wanted items).tail = rounds count wanted items ↔
      (wanted = [] → items.length ≤ count) := by
  cases wanted with
  | cons goal goals => simp [rounds, Nat.ne_of_gt positive]
  | nil =>
    simp only [rounds, List.head?_nil, Option.toList_none, List.nil_append, forall_const]
    constructor
    · intro same
      have lengths := congrArg List.length same
      simp only [List.length_tail, List.length_drop] at lengths
      omega
    · intro few
      rw [List.drop_eq_nil_of_le few]
      rfl

/-- Where there is at most one item on either side, it becomes the wanted one. -/
theorem rounds_of_single {count : Nat} (positive : 0 < count) {wanted items : List α} (one : wanted.length ≤ 1)
    (single : items.length ≤ 1) : rounds count wanted items = wanted := by
  cases wanted with
  | nil => exact List.drop_eq_nil_of_le (by omega)
  | cons goal goals =>
    obtain rfl : goals = [] := List.length_eq_zero_iff.mp (by simpa using one)
    have alone : items.tail = [] := List.length_eq_zero_iff.mp (by rw [List.length_tail]; omega)
    rw [rounds, if_neg (by omega), alone]

end Rounds

section Named

variable {nameOf : α → String} {name : String} {current : Option (List α)} {wanted : List α}

theorem find?_eq_head?_called (nameOf : α → String) (name : String) (wanted : List α) :
    wanted.find? (nameOf · == name) = (called nameOf name (some wanted)).head? :=
  List.head?_filter.symm

variable [DecidableEq α]

/-- Every time that a name is given is a round for its items. -/
theorem called_namedEach_eq_rounds (nameOf : α → String) (name : String) (names : List String)
    (current : Option (List α)) (wanted : List α) :
    called nameOf name (namedEach nameOf names current wanted).value =
      rounds (names.count name) (called nameOf name (some wanted)) (called nameOf name current) := by
  induction names generalizing current with
  | nil =>
    rw [List.count_nil, rounds_zero]
    rfl
  | cons first rest ih =>
    rw [namedEach_cons, value_bind, ih]
    by_cases here : first = name
    · subst here
      rw [called_named_self, find?_eq_head?_called, rounds_succ, List.count_cons_self]
    · rw [called_named_of_ne here, List.count_cons_of_ne here]

theorem changed_namedEach_eq_false_iff {names : List String} :
    (namedEach nameOf names current wanted).changed = false ↔
      ∀ name ∈ names, (called nameOf name (some wanted)).head?.toList ++ (called nameOf name current).tail =
        called nameOf name current := by
  refine (changed_foldl_eq_false_iff fun _ _ => named_of_unchanged).trans ?_
  apply forall₂_congr
  intro name _
  rw [← find?_eq_head?_called]
  constructor
  · intro kept
    rw [← called_named_self, kept, value_keep]
  · intro same
    apply named_of_unchanged
    exact Bool.eq_false_iff.mpr fun changed => changed_named_iff.mp changed same

/-- A second edit has nothing to do exactly if the first one could drop all that is not wanted. -/
theorem changed_namedEach_again_iff (nameOf : α → String) (names : List String) (current : Option (List α))
    (wanted : List α) :
    (namedEach nameOf names (namedEach nameOf names current wanted).value wanted).changed = false ↔
      ∀ name ∈ names, called nameOf name (some wanted) = [] →
        (called nameOf name current).length ≤ names.count name := by
  rw [changed_namedEach_eq_false_iff]
  apply forall₂_congr
  intro name given
  rw [called_namedEach_eq_rounds]
  exact rounds_settled_iff (List.count_pos_iff.mpr given)

/-- Items that fail a test are out of reach of a round for a name whose items all fail it. -/
theorem filter_named {test : α → Bool} (fails : ∀ item, nameOf item = name → test item = false)
    (current : Option (List α)) (wanted : List α) :
    ((named nameOf name current wanted).value.getD []).filter test = (current.getD []).filter test := by
  have goal_fails (goal : α) (found : wanted.find? (nameOf · == name) = some goal) : test goal = false := by
    apply fails
    simpa using List.find?_some found
  rcases named_cases nameOf name current with none | ⟨before, item, after, items, index, first, -⟩
  · rw [named_of_none none]
    cases found : wanted.find? (nameOf · == name) with
    | none => rfl
    | some goal => simp [goal_fails goal found]
  · rw [named_of_some items index, items]
    cases found : wanted.find? (nameOf · == name) with
    | none => simp [fails item first]
    | some goal => simp [fails item first, goal_fails goal found]

/-- Items of other names stay, in their order. -/
theorem filter_namedEach (nameOf : α → String) (names : List String) (current : Option (List α)) (wanted : List α) :
    ((namedEach nameOf names current wanted).value.getD []).filter (nameOf · ∉ names) =
      (current.getD []).filter (nameOf · ∉ names) := by
  refine foldl_keeps (fun value : Option (List α) =>
    (value.getD []).filter (nameOf · ∉ names) = (current.getD []).filter (nameOf · ∉ names)) ?_ rfl
  intro name given value kept
  rw [← kept]
  apply filter_named
  rintro item rfl
  simpa using given

end Named

end Reconciliation.Edit
