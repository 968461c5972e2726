import Reconciliation.Proofs.EditLaws

/-! # Edits that tell the truth

The report of an edit is true if a change is reported only where the value has become another one, and everywhere
there. Edits of parts of a value are composed in such a way that true reports of the parts make a true report of the
whole, with one reservation: where an edit creates something absent on its way to a part, the report is silent about
that. Items of one name that several rounds of one edit go over cannot change back in a later round.
-/

namespace Reconciliation

namespace Edit

variable {α β : Type}

/-- A change is reported only if the value is another one than before, and, where what is created on the way is
present, always then. -/
structure Truthful (present : Prop) (before : α) (edit : Edit α) : Prop where
  still : present → edit.changed = false → edit.value = before
  moved : edit.changed = true → edit.value ≠ before

namespace Truthful

variable {present : Prop} {before : α} {edit : Edit α}

theorem keep (value : α) : Truthful True value (.keep value) := ⟨fun _ _ => rfl, nofun⟩

theorem of_ne {value : α} (different : value ≠ before) : Truthful True before ⟨value, true⟩ :=
  ⟨nofun, fun _ => different⟩

theorem replace [DecidableEq α] (current wanted : α) : Truthful True current (.replace current wanted) where
  still _ unchanged := Eq.symm (by simpa using unchanged)
  moved changed := Ne.symm (by simpa using changed)

/-- A true report is also true with a stronger reservation. -/
theorem mono {other : Prop} (truthful : Truthful present before edit) (stronger : other → present) :
    Truthful other before edit :=
  ⟨fun there => truthful.still (stronger there), truthful.moved⟩

theorem weaken (truthful : Truthful True before edit) (present : Prop) : Truthful present before edit :=
  truthful.mono fun _ => trivial

theorem ite {condition : Prop} [Decidable condition] {first second : Edit α}
    (yes : condition → Truthful present before first) (no : ¬ condition → Truthful present before second) :
    Truthful present before (if condition then first else second) := by
  split
  · next holds => exact yes holds
  · next fails => exact no fails

/-- The edit of a part that can be read off the whole and be put back into it. -/
theorem part {whole : β} {put : α → β} (read : β → α) (truthful : Truthful True (read whole) edit)
    (reads : ∀ value, read (put value) = value) (back : present → put (read whole) = whole) :
    Truthful present whole (edit.map put) where
  still there unchanged := by rw [value_map, truthful.still trivial unchanged, back there]
  moved changed same := truthful.moved changed ((reads edit.value).symm.trans (congrArg read same))

/-- A change that is not reported again has been one. -/
theorem of_again (edit : α → Edit α)
    (still : present → (edit before).changed = false → (edit before).value = before)
    (again : (edit (edit before).value).changed = false) : Truthful present before (edit before) where
  still := still
  moved changed same := by
    rw [same, changed] at again
    cases again

/-- If the value is what it was before, nothing is reported. -/
theorem unchanged_of_same (truthful : Truthful present before edit) (same : edit.value = before) :
    edit.changed = false := by
  cases changed : edit.changed with
  | false => rfl
  | true => exact absurd same (truthful.moved changed)

/-- A report without a reservation tells whether the value has become another one. -/
theorem changed_iff (truthful : Truthful True before edit) : edit.changed = true ↔ edit.value ≠ before := by
  refine ⟨truthful.moved, fun different => ?_⟩
  rw [← Bool.not_eq_false]
  exact fun unchanged => different (truthful.still trivial unchanged)

section Lists

/-- The edits of the first item and of the others. -/
theorem cons {item : α} {rest : List α} {first : Edit α} {others : Edit (List α)} (head : Truthful True item first)
    (tail : Truthful True rest others) :
    Truthful True (item :: rest) ⟨first.value :: others.value, first.changed || others.changed⟩ where
  still _ unchanged := by
    obtain ⟨here, later⟩ := Bool.or_eq_false_iff.mp unchanged
    exact congr (congrArg _ (head.still trivial here)) (tail.still trivial later)
  moved changed same := by
    obtain ⟨sameHead, sameTail⟩ := List.cons.inj same
    rcases Bool.or_eq_true_iff.mp changed with here | later
    · exact head.moved here sameHead
    · exact tail.moved later sameTail

theorem pairs {each : α → β → Edit α} (truthful : ∀ current wanted, Truthful True current (each current wanted))
    (items : List α) (wanted : List β) : Truthful True items (Edit.pairs each items wanted) := by
  induction items generalizing wanted with
  | nil => cases wanted <;> exact keep []
  | cons item rest ih =>
    cases wanted with
    | nil => exact keep _
    | cons goal goals => exact (truthful item goal).cons (ih goals)

theorem pairsOrAdded {each : α → α → Edit α} (truthful : ∀ current wanted, Truthful True current (each current wanted))
    (items wanted : List α) : Truthful True items (Edit.pairsOrAdded each items wanted) := by
  induction items generalizing wanted with
  | nil =>
    cases wanted with
    | nil => exact keep []
    | cons goal goals => exact of_ne (List.cons_ne_nil goal goals)
  | cons item rest ih =>
    cases wanted with
    | nil => exact keep _
    | cons goal goals => exact (truthful item goal).cons (ih goals)

end Lists

section Rows

variable {step : β → α → Edit α} {items : List β}

/-- After a row of steps that leave each other's work alone none of them has anything left to do. -/
theorem settled_foldl
    (settled : ∀ item ∈ items, ∀ value, step item (step item value).value = .keep (step item value).value)
    (spared : ∀ item ∈ items, ∀ other ∈ items, ∀ value, step other value = .keep value →
      step other (step item value).value = .keep (step item value).value) (start : α) :
    let last := (items.foldl (fun edit item => edit.bind (step item)) (Edit.keep start)).value
    ∀ item ∈ items, step item last = .keep last := by
  induction items generalizing start with
  | nil => exact fun _ within => absurd within List.not_mem_nil
  | cons first rest ih =>
    have later := ih (fun item within => settled item (.tail _ within))
      (fun item within other among => spared item (.tail _ within) other (.tail _ among)) (step first start).value
    rw [foldl_bind_cons, value_bind]
    refine List.forall_mem_cons.mpr ⟨?_, later⟩
    refine foldl_keeps (fun value => step first value = .keep value) (fun item within value kept => ?_)
      (settled first List.mem_cons_self start)
    exact spared item (.tail _ within) first List.mem_cons_self value kept

/-- A row of steps that leave each other's work alone tells the truth if each step does. -/
theorem foldl (still : ∀ item value, (step item value).changed = false → step item value = .keep value)
    (settled : ∀ item ∈ items, ∀ value, step item (step item value).value = .keep (step item value).value)
    (spared : ∀ item ∈ items, ∀ other ∈ items, ∀ value, step other value = .keep value →
      step other (step item value).value = .keep (step item value).value) (start : α) :
    Truthful True start (items.foldl (fun edit item => edit.bind (step item)) (Edit.keep start)) where
  still _ unchanged := by rw [foldl_eq_keep ((changed_foldl_eq_false_iff still).mp unchanged), value_keep]
  moved changed same := by
    have last := settled_foldl settled spared start
    rw [same] at last
    rw [(changed_foldl_eq_false_iff still).mpr last] at changed
    cases changed

end Rows

end Truthful

section Named

variable {nameOf : α → String} {name other : String} {current : Option (List α)} {wanted : List α}

/-- The items of one name, none if the list is absent. -/
def called (nameOf : α → String) (name : String) (items : Option (List α)) : List α :=
  (items.getD []).filter (nameOf · == name)

/-- The first item of a name is where the list can be cut. -/
theorem split_of_findIdx? {test : α → Bool} {items : List α} {index : Nat} (found : items.findIdx? test = some index) :
    ∃ before item after, items = before ++ item :: after ∧ before.length = index ∧ test item = true ∧
      ∀ earlier ∈ before, test earlier = false := by
  induction items generalizing index with
  | nil => cases found
  | cons item rest ih =>
    rw [List.findIdx?_cons] at found
    cases passes : test item with
    | true =>
      simp only [passes, if_true, Option.some.injEq] at found
      exact ⟨[], item, rest, rfl, found, passes, fun _ within => absurd within List.not_mem_nil⟩
    | false =>
      simp only [passes, Bool.false_eq_true, if_false] at found
      obtain ⟨place, later, rfl⟩ := Option.map_eq_some_iff.mp found
      obtain ⟨before, first, after, rfl, rfl, meets, fails⟩ := ih later
      exact ⟨item :: before, first, after, rfl, rfl, meets, List.forall_mem_cons.mpr ⟨passes, fails⟩⟩

/-- A list has no item of the name, or can be cut at the first one. -/
theorem named_cases (nameOf : α → String) (name : String) (current : Option (List α)) :
    (current.getD []).findIdx? (nameOf · == name) = none ∨
      ∃ before item after, current = some (before ++ item :: after) ∧
        (before ++ item :: after).findIdx? (nameOf · == name) = some before.length ∧
        nameOf item = name ∧ ∀ earlier ∈ before, nameOf earlier ≠ name := by
  cases sought : (current.getD []).findIdx? (nameOf · == name) with
  | none => exact .inl rfl
  | some index =>
    obtain ⟨before, item, after, items, rfl, meets, fails⟩ := split_of_findIdx? sought
    have listed : current = some (before ++ item :: after) := by
      cases current with
      | none => cases sought
      | some list => exact congrArg some items
    refine .inr ⟨before, item, after, listed, items ▸ sought, beq_iff_eq.mp meets, fun earlier within => ?_⟩
    exact beq_eq_false_iff_ne.mp (fails earlier within)

theorem called_of_none (none : (current.getD []).findIdx? (nameOf · == name) = none) :
    called nameOf name current = [] := by
  refine List.filter_eq_nil_iff.mpr fun item within => ?_
  simpa using List.findIdx?_eq_none_iff.mp none item within

theorem called_of_some {before after : List α} {item : α} (first : nameOf item = name)
    (earlier : ∀ item ∈ before, nameOf item ≠ name) :
    called nameOf name (some (before ++ item :: after)) = item :: after.filter (nameOf · == name) := by
  have skipped : before.filter (nameOf · == name) = [] :=
    List.filter_eq_nil_iff.mpr fun item within => by simpa using earlier item within
  simp [called, List.filter_append, skipped, first]

variable [DecidableEq α]

/-- Where no item has the name, at most one is added. -/
theorem named_of_none (none : (current.getD []).findIdx? (nameOf · == name) = none) :
    named nameOf name current wanted =
      match wanted.find? (nameOf · == name) with
      | .none => keep current
      | .some item => ⟨some (current.getD [] ++ [item]), true⟩ := by
  simp only [named, none]
  cases wanted.find? (nameOf · == name) <;> rfl

/-- Where an item has the name, the first of these is removed or replaced. -/
theorem named_of_some {before after : List α} {item : α} (items : current = some (before ++ item :: after))
    (index : (before ++ item :: after).findIdx? (nameOf · == name) = some before.length) :
    named nameOf name current wanted =
      match wanted.find? (nameOf · == name) with
      | none => ⟨some (before ++ after), true⟩
      | some goal => ⟨some (before ++ goal :: after), decide (item ≠ goal)⟩ := by
  subst items
  simp only [named, Option.getD_some, index]
  cases wanted.find? (nameOf · == name) with
  | none => simp [List.eraseIdx_append_of_length_le]
  | some goal => simp

/-- The wanted item takes the place of the first one of its name. -/
theorem called_named_self (nameOf : α → String) (name : String) (current : Option (List α)) (wanted : List α) :
    called nameOf name (named nameOf name current wanted).value =
      (wanted.find? (nameOf · == name)).toList ++ (called nameOf name current).tail := by
  have fits (goal : α) (found : wanted.find? (nameOf · == name) = some goal) : nameOf goal = name := by
    simpa using List.find?_some found
  rcases named_cases nameOf name current with none | ⟨before, item, after, items, index, first, earlier⟩
  · rw [named_of_none none, called_of_none none]
    cases goal : wanted.find? (nameOf · == name) with
    | none => exact called_of_none none
    | some goal' =>
      have rest := called_of_none none
      simp only [called] at rest
      simp [called, rest, fits goal' goal]
  · rw [named_of_some items index, items, called_of_some first earlier]
    have skipped : before.filter (nameOf · == name) = [] :=
      List.filter_eq_nil_iff.mpr fun item within => by simpa using earlier item within
    cases goal : wanted.find? (nameOf · == name) with
    | none => simp [called, skipped]
    | some goal' => simp [called, skipped, fits goal' goal]

/-- Items of other names stay. -/
theorem called_named_of_ne (different : name ≠ other) (current : Option (List α)) (wanted : List α) :
    called nameOf other (named nameOf name current wanted).value = called nameOf other current := by
  have apart (goal : α) (found : wanted.find? (nameOf · == name) = some goal) : nameOf goal ≠ other := by
    have fits : nameOf goal = name := by simpa using List.find?_some found
    exact fits ▸ different
  rcases named_cases nameOf name current with none | ⟨before, item, after, items, index, first, earlier⟩
  · rw [named_of_none none]
    cases goal : wanted.find? (nameOf · == name) with
    | none => rfl
    | some goal' => simp [called, apart goal' goal]
  · rw [named_of_some items index, items]
    have skipped : nameOf item ≠ other := first ▸ different
    cases goal : wanted.find? (nameOf · == name) with
    | none => simp [called, skipped]
    | some goal' => simp [called, skipped, apart goal' goal]

/-- One round reports a change exactly if the items of its name become others. -/
theorem changed_named_iff :
    (named nameOf name current wanted).changed = true ↔
      (wanted.find? (nameOf · == name)).toList ++ (called nameOf name current).tail ≠ called nameOf name current := by
  rcases named_cases nameOf name current with none | ⟨before, item, after, items, index, first, earlier⟩
  · rw [named_of_none none, called_of_none none]
    cases wanted.find? (nameOf · == name) <;> simp
  · rw [named_of_some items index, items, called_of_some first earlier]
    cases wanted.find? (nameOf · == name) with
    | none => simp
    | some goal => simp [Ne, eq_comm (a := goal)]

theorem named_of_unchanged (unchanged : (named nameOf name current wanted).changed = false) :
    named nameOf name current wanted = keep current := by
  rcases named_cases nameOf name current with none | ⟨before, item, after, items, index, first, earlier⟩
  · rw [named_of_none none] at unchanged ⊢
    cases goal : wanted.find? (nameOf · == name) with
    | none => rfl
    | some goal' => simp [goal] at unchanged
  · rw [named_of_some items index] at unchanged ⊢
    cases goal : wanted.find? (nameOf · == name) with
    | none => simp [goal] at unchanged
    | some goal' =>
      obtain rfl : item = goal' := by simpa [goal] using unchanged
      exact eq_keep_iff.mpr ⟨items.symm, by simp⟩

theorem truthful_named : Truthful True current (named nameOf name current wanted) where
  still _ unchanged := congrArg value (named_of_unchanged unchanged)
  moved changed same := by
    refine changed_named_iff.mp changed ?_
    rw [← called_named_self, same]

/-- However often a name comes up again, of the items of this name that there were only some at the end are left,
behind the wanted one. -/
theorem called_namedEach {items : List α}
    (begins : ∃ dropped, 0 < dropped ∧
      called nameOf name current = (wanted.find? (nameOf · == name)).toList ++ items.drop dropped)
    (names : List String) :
    ∃ dropped, 0 < dropped ∧ called nameOf name (namedEach nameOf names current wanted).value =
      (wanted.find? (nameOf · == name)).toList ++ items.drop dropped := by
  induction names generalizing current with
  | nil => exact begins
  | cons first rest ih =>
    rw [namedEach_cons, value_bind]
    refine ih ?_
    obtain ⟨dropped, some_dropped, left⟩ := begins
    by_cases here : first = name
    · subst here
      rw [called_named_self, left]
      cases wanted.find? (nameOf · == first) with
      | none => exact ⟨dropped + 1, dropped.succ_pos, by simp⟩
      | some goal => exact ⟨dropped, some_dropped, rfl⟩
    · exact ⟨dropped, some_dropped, (called_named_of_ne here current wanted).trans left⟩

/-- The items of a name that have changed in one round are not what they were after any later ones. -/
theorem truthful_namedEach (names : List String) :
    Truthful True current (namedEach nameOf names current wanted) := by
  induction names with
  | nil => exact .keep current
  | cons first rest ih =>
    rw [namedEach_cons]
    cases here : (named nameOf first current wanted).changed with
    | false => rwa [named_of_unchanged here, keep_bind]
    | true =>
      refine ⟨fun _ unchanged => ?_, fun _ same => changed_named_iff.mp here ?_⟩
      · simp [here] at unchanged
      · have begins := called_named_self nameOf first current wanted
        rw [← List.drop_one] at begins
        obtain ⟨dropped, some_dropped, left⟩ := called_namedEach ⟨1, Nat.one_pos, begins⟩ rest
        rw [value_bind] at same
        rw [same] at left
        cases goal : wanted.find? (nameOf · == first) with
        | some goal' =>
          rw [goal] at left
          rw [left]
          rfl
        | none =>
          rw [goal, Option.toList_none, List.nil_append] at left
          have none_left : called nameOf first current = [] := by
            have shorter := congrArg List.length left
            rw [List.length_drop] at shorter
            exact List.length_eq_zero_iff.mp (by omega)
          rw [none_left]
          rfl

end Named

end Edit

end Reconciliation
