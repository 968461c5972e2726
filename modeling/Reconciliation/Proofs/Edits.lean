import Reconciliation.Mutation

/-! # Laws of edits and mutations

Edits compose like values with a flag that only ever rises, and mutations like edits that may stop.
The lemmas on values and flags are the ones by which every later proof computes, so that none of them
unfolds a composition itself.
-/

namespace Reconciliation

namespace Edit

variable {α β γ : Type}

theorem ext {a b : Edit α} (values : a.value = b.value) (flags : a.changed = b.changed) : a = b := by
  cases a
  cases b
  simp_all

@[simp] theorem value_keep (value : α) : (keep value).value = value := rfl

@[simp] theorem changed_keep (value : α) : (keep value).changed = false := rfl

@[simp] theorem value_replace [DecidableEq α] (current wanted : α) :
    (replace current wanted).value = wanted := rfl

@[simp] theorem changed_replace [DecidableEq α] (current wanted : α) :
    (replace current wanted).changed = decide (current ≠ wanted) := rfl

theorem changed_replace_eq_false_iff [DecidableEq α] {current wanted : α} :
    (replace current wanted).changed = false ↔ current = wanted := by simp

@[simp] theorem value_map (f : α → β) (edit : Edit α) : (edit.map f).value = f edit.value := rfl

@[simp] theorem changed_map (f : α → β) (edit : Edit α) : (edit.map f).changed = edit.changed := rfl

@[simp] theorem value_bind (edit : Edit α) (next : α → Edit β) :
    (edit.bind next).value = (next edit.value).value := rfl

@[simp] theorem changed_bind (edit : Edit α) (next : α → Edit β) :
    (edit.bind next).changed = (edit.changed || (next edit.value).changed) := rfl

@[simp] theorem keep_bind (value : α) (next : α → Edit β) : (keep value).bind next = next value :=
  ext rfl (Bool.false_or _)

@[simp] theorem map_keep (f : α → β) (value : α) : (keep value).map f = keep (f value) := rfl

theorem bind_assoc (edit : Edit α) (next : α → Edit β) (last : β → Edit γ) :
    (edit.bind next).bind last = edit.bind fun value => (next value).bind last :=
  ext rfl (Bool.or_assoc ..)

/-- An edit without a change is known by its value. -/
theorem eq_keep_iff {edit : Edit α} {value : α} :
    edit = keep value ↔ edit.value = value ∧ edit.changed = false := by
  constructor
  · rintro rfl
    exact ⟨rfl, rfl⟩
  · rintro ⟨values, flags⟩
    exact ext values flags

theorem replace_self [DecidableEq α] (value : α) : replace value value = keep value :=
  eq_keep_iff.mpr ⟨rfl, by simp⟩

/-- Folding edits from an edited start is editing the start by the fold. -/
theorem foldl_bind (step : β → α → Edit α) (items : List β) (start : Edit α) :
    items.foldl (fun edit item => edit.bind (step item)) start =
      start.bind fun value => items.foldl (fun edit item => edit.bind (step item)) (keep value) := by
  induction items generalizing start with
  | nil => exact ext rfl (Bool.or_false _).symm
  | cons item rest ih =>
    simp only [List.foldl_cons, keep_bind]
    rw [ih, bind_assoc]
    congr 1
    funext value
    rw [← ih]

theorem foldl_bind_cons (step : β → α → Edit α) (item : β) (rest : List β) (value : α) :
    (item :: rest).foldl (fun edit item => edit.bind (step item)) (keep value) =
      (step item value).bind fun value =>
        rest.foldl (fun edit item => edit.bind (step item)) (keep value) := by
  rw [List.foldl_cons, keep_bind, foldl_bind]

/-- Steps that change nothing by themselves change nothing in a row. -/
theorem foldl_eq_keep {step : β → α → Edit α} {items : List β} {value : α}
    (still : ∀ item ∈ items, step item value = keep value) :
    items.foldl (fun edit item => edit.bind (step item)) (keep value) = keep value := by
  induction items with
  | nil => rfl
  | cons item rest ih =>
    rw [List.forall_mem_cons] at still
    rw [foldl_bind_cons, still.1, keep_bind]
    exact ih still.2

/-- What all steps keep, a row of edits keeps. -/
theorem foldl_keeps (holds : α → Prop) {step : β → α → Edit α} {items : List β}
    (steps : ∀ item ∈ items, ∀ value, holds value → holds (step item value).value) {start : α}
    (begins : holds start) :
    holds (items.foldl (fun edit item => edit.bind (step item)) (keep start)).value := by
  induction items generalizing start with
  | nil => exact begins
  | cons item rest ih =>
    obtain ⟨first, later⟩ := List.forall_mem_cons.mp steps
    rw [foldl_bind_cons]
    exact ih later (first start begins)

/-- If no step goes unreported, a row of steps goes unreported exactly if each of them changes nothing by
itself. -/
theorem changed_foldl_eq_false_iff {step : β → α → Edit α}
    (exact : ∀ item value, (step item value).changed = false → step item value = keep value)
    {items : List β} {value : α} :
    (items.foldl (fun edit item => edit.bind (step item)) (keep value)).changed = false ↔
      ∀ item ∈ items, step item value = keep value := by
  constructor
  · intro unchanged
    induction items with
    | nil => exact fun _ within => absurd within List.not_mem_nil
    | cons item rest ih =>
      rw [foldl_bind_cons] at unchanged
      have parts := Bool.or_eq_false_iff.mp unchanged
      have first := exact item value parts.1
      rw [first] at parts
      exact List.forall_mem_cons.mpr ⟨first, ih parts.2⟩
  · intro still
    rw [foldl_eq_keep still, changed_keep]

/-- Editing a list in pairs with itself changes nothing if no item differs from itself. -/
theorem pairs_self {edit : α → α → Edit α} {items : List α}
    (still : ∀ item ∈ items, edit item item = keep item) : pairs edit items items = keep items := by
  induction items with
  | nil => rfl
  | cons item rest ih =>
    rw [List.forall_mem_cons] at still
    simp only [pairs, still.1, ih still.2]
    rfl

theorem pairsOrAdded_self {edit : α → α → Edit α} {items : List α}
    (still : ∀ item ∈ items, edit item item = keep item) : pairsOrAdded edit items items = keep items := by
  induction items with
  | nil => rfl
  | cons item rest ih =>
    rw [List.forall_mem_cons] at still
    simp only [pairsOrAdded, still.1, ih still.2]
    rfl

section Named

variable [DecidableEq α] (nameOf : α → String)

/-- The items of one name follow themselves without a change. -/
theorem named_self (name : String) (current : Option (List α)) :
    named nameOf name current (current.getD []) = keep current := by
  cases sought : (current.getD []).findIdx? (nameOf · == name) with
  | none =>
    have absent : (current.getD []).find? (nameOf · == name) = none := by
      rw [List.find?_eq_bind_findIdx?_getElem?, sought]
      rfl
    simp only [named, sought, absent]
  | some index =>
    obtain ⟨bound, -, -⟩ := List.findIdx?_eq_some_iff_getElem.mp sought
    have found : (current.getD []).find? (nameOf · == name) = some (current.getD [])[index] := by
      rw [List.find?_eq_bind_findIdx?_getElem?, sought]
      exact List.getElem?_eq_getElem bound
    simp only [named, sought, found, List.set_getElem_self, List.getElem?_eq_getElem bound]
    cases current with
    | none => cases bound
    | some items => simp [keep]

theorem namedEach_self (names : List String) (current : Option (List α)) :
    namedEach nameOf names current (current.getD []) = keep current :=
  foldl_eq_keep fun name _ => named_self nameOf name current

end Named

/-- The edit reports no change, and the value is as before once `fill` has created what is absent. -/
structure Idle (fill : α → α) (existing : α) (edit : Edit α) : Prop where
  unchanged : edit.changed = false
  filled : fill edit.value = fill existing

namespace Idle

variable {fill : α → α} {existing : α} {edit : Edit α}

theorem keep (fill : α → α) (existing : α) : Idle fill existing (.keep existing) := ⟨rfl, rfl⟩

theorem of_eq_keep {after : α} (same : edit = .keep after) (fills : fill after = fill existing) :
    Idle fill existing edit := by
  subst same
  exact ⟨rfl, fills⟩

theorem bind {next : α → Edit α} (first : Idle fill existing edit)
    (second : Idle fill edit.value (next edit.value)) : Idle fill existing (edit.bind next) where
  unchanged := by rw [changed_bind, first.unchanged, second.unchanged, Bool.or_self]
  filled := second.filled.trans first.filled

end Idle

end Edit

namespace Mutation

variable {α : Type}

theorem ext {a b : Mutation α} (objects : a.object = b.object) (outcomes : a.outcome = b.outcome) :
    a = b := by
  cases a
  cases b
  simp_all

@[simp] theorem object_done (edit : Edit α) : (done edit).object = edit.value := rfl

@[simp] theorem outcome_done (edit : Edit α) : (done edit).outcome = .ok edit.changed := rfl

@[simp] theorem object_refused (object : α) (failure : Failure) :
    (refused object failure).object = object := rfl

@[simp] theorem outcome_refused (object : α) (failure : Failure) :
    (refused object failure).outcome = .error failure := rfl

/-- A refusal is the last step. -/
theorem andThen_of_error {mutation : Mutation α} {failure : Failure}
    (refusal : mutation.outcome = .error failure) (next : α → Mutation α) :
    mutation.andThen next = mutation := by simp [andThen, refusal]

theorem andThen_of_ok {mutation : Mutation α} {changed : Bool} (success : mutation.outcome = .ok changed)
    (next : α → Mutation α) :
    mutation.andThen next =
      ⟨(next mutation.object).object, (next mutation.object).outcome.map (changed || ·)⟩ := by
  simp [andThen, success]

/-- What a composed mutation leaves has been left by its first part or by its second. -/
theorem object_andThen (mutation : Mutation α) (next : α → Mutation α) :
    (mutation.andThen next).object = mutation.object ∨
      (mutation.andThen next).object = (next mutation.object).object := by
  cases outcome : mutation.outcome with
  | error failure => exact .inl (congrArg object (andThen_of_error outcome next))
  | ok changed =>
    right
    rw [andThen_of_ok outcome]

/-- A composed mutation reports no change exactly if both parts do. -/
theorem outcome_andThen_eq_ok_false_iff {mutation : Mutation α} {next : α → Mutation α} :
    (mutation.andThen next).outcome = .ok false ↔
      mutation.outcome = .ok false ∧ (next mutation.object).outcome = .ok false := by
  cases outcome : mutation.outcome with
  | error failure => simp [andThen_of_error outcome, outcome]
  | ok changed =>
    rw [andThen_of_ok outcome]
    cases after : (next mutation.object).outcome with
    | error failure => simp [Except.map]
    | ok further => simp [Except.map]

/-- The mutation reports no change exactly under the condition. Then metadata are as before, and so is the
content once `fill` has created what is absent. -/
structure IdleIff (fill : α → α) (condition : Prop) (existing : Object α) (mutation : Mutation (Object α)) :
    Prop where
  outcome : mutation.outcome = .ok false ↔ condition
  keeps : condition → mutation.object.metadata = existing.metadata ∧
    fill mutation.object.content = fill existing.content

namespace IdleIff

variable {fill : α → α} {condition : Prop} {existing : Object α} {edit : Edit α}

theorem of_changed_iff (changes : edit.changed = false ↔ condition)
    (idle : condition → Edit.Idle fill existing.content edit) :
    IdleIff fill condition existing (done (edit.map existing.withContent)) where
  outcome := by simp [changes]
  keeps meets := ⟨rfl, (idle meets).filled⟩

theorem of_idle (idle : Edit.Idle fill existing.content edit) :
    IdleIff fill True existing (done (edit.map existing.withContent)) :=
  of_changed_iff (by simp [idle.unchanged]) fun _ => idle

theorem of_keep (fill : α → α) (existing : Object α) : IdleIff fill True existing (done (.keep existing)) :=
  of_idle (.keep fill existing.content)

theorem of_iff {mutation : Mutation (Object α)} {other : Prop}
    (idle : IdleIff fill condition existing mutation) (same : condition ↔ other) :
    IdleIff fill other existing mutation where
  outcome := idle.outcome.trans same
  keeps meets := idle.keeps (same.mpr meets)

/-- Of two mutations in a row, both have to report no change. -/
theorem andThen {mutation : Mutation (Object α)} {next : Object α → Mutation (Object α)} {further : Prop}
    (first : IdleIff fill condition existing mutation)
    (second : condition → IdleIff fill further mutation.object (next mutation.object)) :
    IdleIff fill (condition ∧ further) existing (mutation.andThen next) where
  outcome := by
    rw [outcome_andThen_eq_ok_false_iff, first.outcome]
    constructor
    · rintro ⟨meets, unchanged⟩
      exact ⟨meets, (second meets).outcome.mp unchanged⟩
    · rintro ⟨meets, goesOn⟩
      exact ⟨meets, (second meets).outcome.mpr goesOn⟩
  keeps := by
    rintro ⟨meets, goesOn⟩
    obtain ⟨metadata, content⟩ := first.keeps meets
    obtain ⟨later, kept⟩ := (second meets).keeps goesOn
    rw [andThen_of_ok (first.outcome.mpr meets)]
    exact ⟨later.trans metadata, kept.trans content⟩

theorem of_refused {failure : Failure} (fails : ¬ condition) :
    IdleIff fill condition existing (refused existing failure) where
  outcome := by simp [fails]
  keeps meets := absurd meets fails

end IdleIff

end Mutation

namespace Mutate

variable {α : Type}

@[simp] theorem chain_nil (existing desired : α) : chain [] existing desired = .done (.keep existing) := rfl

theorem chain_cons (first : Mutate α) (rest : List (Mutate α)) (existing desired : α) :
    chain (first :: rest) existing desired =
      (first existing desired).andThen fun existing => chain rest existing desired := rfl

/-- What every mutator of a chain keeps, the chain keeps. -/
theorem chain_keeps (holds : α → Prop) {members : List (Mutate α)} {existing desired : α}
    (steps : ∀ member ∈ members, ∀ existing, holds existing → holds (member existing desired).object)
    (start : holds existing) : holds (chain members existing desired).object := by
  induction members generalizing existing with
  | nil => exact start
  | cons first rest ih =>
    have after := steps first List.mem_cons_self existing start
    have tail := ih (fun member within => steps member (List.mem_cons_of_mem _ within)) after
    rw [chain_cons]
    rcases Mutation.object_andThen (first existing desired) fun existing => chain rest existing desired
      with same | same
    · exact same ▸ after
    · exact same ▸ tail

end Mutate

end Reconciliation
