import Reconciliation.Proofs.Edits

/-! # Chains that settle

A mutator settles if, once it has succeeded, it has nothing left to do. A chain of mutators that settle does
not have to: a later member can give an earlier one new work. It does settle if no later member does that,
and if members that have nothing to do themselves leave everybody else in peace.
-/

namespace Reconciliation

namespace Mutation

variable {α : Type}

/-- The mutation is not refused. -/
def Succeeds (mutation : Mutation α) : Prop := ∃ changed, mutation.outcome = .ok changed

theorem andThen_assoc (mutation : Mutation α) (next last : α → Mutation α) :
    (mutation.andThen next).andThen last = mutation.andThen fun object => (next object).andThen last := by
  cases outcome : mutation.outcome with
  | error failure => simp only [andThen_of_error outcome]
  | ok changed =>
    rw [andThen_of_ok outcome, andThen_of_ok outcome]
    cases after : (next mutation.object).outcome with
    | error failure =>
      have refused : (Except.error failure).map (changed || ·) = (.error failure : Except Failure Bool) := rfl
      rw [andThen_of_error after, andThen_of_error refused, after]
    | ok further =>
      have both : (Except.ok further).map (changed || ·) = (.ok (changed || further) : Except Failure Bool) := rfl
      rw [andThen_of_ok after, andThen_of_ok both]
      cases (last (next mutation.object).object).outcome with
      | error failure => rfl
      | ok more => exact congrArg (fun flag => Mutation.mk _ (.ok flag)) (Bool.or_assoc ..)

/-- Two mutations in a row succeed exactly if both do, and then leave what the second one does. -/
theorem succeeds_andThen_iff {mutation : Mutation α} {next : α → Mutation α} :
    (mutation.andThen next).Succeeds ↔ mutation.Succeeds ∧ (next mutation.object).Succeeds := by
  cases outcome : mutation.outcome with
  | error failure => simp [andThen_of_error outcome, Succeeds, outcome]
  | ok changed =>
    rw [andThen_of_ok outcome]
    cases after : (next mutation.object).outcome <;> simp [Succeeds, outcome, after, Except.map]

theorem object_andThen_of_succeeds {mutation : Mutation α} (success : mutation.Succeeds)
    (next : α → Mutation α) : (mutation.andThen next).object = (next mutation.object).object := by
  obtain ⟨changed, outcome⟩ := success
  rw [andThen_of_ok outcome]

end Mutation

namespace Mutate

variable {α : Type}

/-- The mutator reports no change. -/
def Quiet (mutate : Mutate α) (desired existing : α) : Prop :=
  (mutate existing desired).outcome = .ok false

theorem Quiet.succeeds {mutate : Mutate α} {desired existing : α} (quiet : mutate.Quiet desired existing) :
    (mutate existing desired).Succeeds := ⟨false, quiet⟩

/-- After a success for this desired object, the mutator reports no change. -/
def SettlesAt (mutate : Mutate α) (desired : α) : Prop :=
  ∀ existing, (mutate existing desired).Succeeds → mutate.Quiet desired (mutate existing desired).object

/-- The contract of mutators: after a success, the same mutation once more reports no change. -/
def Lawful (mutate : Mutate α) : Prop := ∀ desired, mutate.SettlesAt desired

/-- The success of a mutator gives no work to another one that has none. -/
def Spares (mutate other : Mutate α) (desired : α) : Prop :=
  ∀ existing, (mutate existing desired).Succeeds → other.Quiet desired existing →
    other.Quiet desired (mutate existing desired).object

/-- A mutator that has no work itself gives none to another one that has none. -/
def SparesIdly (mutate other : Mutate α) (desired : α) : Prop :=
  ∀ existing, mutate.Quiet desired existing → other.Quiet desired existing →
    other.Quiet desired (mutate existing desired).object

theorem Spares.idly {mutate other : Mutate α} {desired : α} (spares : mutate.Spares other desired) :
    mutate.SparesIdly other desired := fun existing quiet => spares existing quiet.succeeds

theorem SettlesAt.spares_self {mutate : Mutate α} {desired : α} (settles : mutate.SettlesAt desired) :
    mutate.Spares mutate desired := fun existing success _ => settles existing success

theorem settlesAt_ofContentEdit {edit : α → α → Edit α} {desired : Object α}
    (again : ∀ existing, (edit (edit existing desired.content).value desired.content).changed = false) :
    (ofContentEdit edit).SettlesAt desired := fun existing _ => congrArg Except.ok (again existing.content)

theorem changed_of_quiet {edit : α → α → Edit α} {existing desired : Object α}
    (quiet : (ofContentEdit edit).Quiet desired existing) : (edit existing.content desired.content).changed = false :=
  Except.ok.inj quiet

theorem createOnly_spares (other : Mutate α) (desired : α) : Mutate.Spares createOnly other desired :=
  fun _ _ quiet => quiet

theorem spares_createOnly (mutate : Mutate α) (desired : α) : mutate.Spares createOnly desired :=
  fun _ _ _ => rfl

variable {members before after : List (Mutate α)} {desired existing : α}

theorem chain_append (existing desired : α) :
    chain (before ++ after) existing desired =
      (chain before existing desired).andThen fun existing => chain after existing desired := by
  induction before generalizing existing with
  | nil =>
    rw [List.nil_append, chain_nil, Mutation.andThen_of_ok (Mutation.outcome_done _)]
    refine Mutation.ext rfl ?_
    change _ = (chain after existing desired).outcome.map (false || ·)
    cases (chain after existing desired).outcome <;> rfl
  | cons first rest ih =>
    rw [List.cons_append, chain_cons, chain_cons, Mutation.andThen_assoc]
    congr 1
    funext object
    exact ih object

theorem succeeds_chain_cons_iff {first : Mutate α} :
    (chain (first :: members) existing desired).Succeeds ↔
      (first existing desired).Succeeds ∧
        (chain members (first existing desired).object desired).Succeeds := by
  rw [chain_cons, Mutation.succeeds_andThen_iff]

theorem object_chain_cons {first : Mutate α} (success : (first existing desired).Succeeds) :
    (chain (first :: members) existing desired).object =
      (chain members (first existing desired).object desired).object := by
  rw [chain_cons, Mutation.object_andThen_of_succeeds success]

/-- A chain reports no change exactly if its two parts do so in a row. -/
theorem quiet_chain_append_iff :
    (chain (before ++ after)).Quiet desired existing ↔
      (chain before).Quiet desired existing ∧
        (chain after).Quiet desired (chain before existing desired).object := by
  rw [Quiet, chain_append, Mutation.outcome_andThen_eq_ok_false_iff]
  rfl

theorem quiet_chain_cons_iff {first : Mutate α} :
    (chain (first :: members)).Quiet desired existing ↔
      first.Quiet desired existing ∧ (chain members).Quiet desired (first existing desired).object := by
  rw [Quiet, chain_cons, Mutation.outcome_andThen_eq_ok_false_iff]
  rfl

/-- What every member keeps when it succeeds, a chain keeps when it does. -/
theorem chain_keeps_of_succeeds (holds : α → Prop)
    (steps : ∀ member ∈ members, ∀ existing, holds existing → (member existing desired).Succeeds →
      holds (member existing desired).object)
    (success : (chain members existing desired).Succeeds) (start : holds existing) :
    holds (chain members existing desired).object := by
  induction members generalizing existing with
  | nil => exact start
  | cons first rest ih =>
    obtain ⟨here, later⟩ := succeeds_chain_cons_iff.mp success
    obtain ⟨step, steps⟩ := List.forall_mem_cons.mp steps
    rw [object_chain_cons here]
    exact ih steps later (step existing start here)

/-- If every member succeeds where a condition holds and keeps it, the chain does. -/
theorem succeeds_chain_of_keeps (holds : α → Prop)
    (steps : ∀ member ∈ members, ∀ existing, holds existing → (member existing desired).Succeeds ∧
      holds (member existing desired).object)
    (start : holds existing) :
    (chain members existing desired).Succeeds ∧ holds (chain members existing desired).object := by
  induction members generalizing existing with
  | nil => exact ⟨⟨false, rfl⟩, start⟩
  | cons first rest ih =>
    obtain ⟨step, steps⟩ := List.forall_mem_cons.mp steps
    obtain ⟨here, kept⟩ := step existing start
    obtain ⟨later, last⟩ := ih steps kept
    rw [object_chain_cons here]
    exact ⟨succeeds_chain_cons_iff.mpr ⟨here, later⟩, last⟩

/-- What the first part of a chain establishes the second part can use. -/
theorem succeeds_chain_append {between last : α → Prop}
    (first : (chain before existing desired).Succeeds ∧ between (chain before existing desired).object)
    (second : ∀ object, between object → (chain after object desired).Succeeds ∧
      last (chain after object desired).object) :
    (chain (before ++ after) existing desired).Succeeds ∧
      last (chain (before ++ after) existing desired).object := by
  obtain ⟨later, ends⟩ := second _ first.2
  rw [chain_append, Mutation.object_andThen_of_succeeds first.1]
  exact ⟨Mutation.succeeds_andThen_iff.mpr ⟨first.1, later⟩, ends⟩

/-- What a member establishes and all later members keep holds at the end of a chain. -/
theorem holds_after_chain {member : Mutate α} (holds : α → Prop)
    (establishes : ∀ existing, (member existing desired).Succeeds → holds (member existing desired).object)
    (kept : ∀ later ∈ after, ∀ existing, holds existing → (later existing desired).Succeeds →
      holds (later existing desired).object)
    (success : (chain (before ++ member :: after) existing desired).Succeeds) :
    holds (chain (before ++ member :: after) existing desired).object := by
  rw [chain_append] at success ⊢
  obtain ⟨earlier, rest⟩ := Mutation.succeeds_andThen_iff.mp success
  obtain ⟨here, later⟩ := succeeds_chain_cons_iff.mp rest
  rw [Mutation.object_andThen_of_succeeds earlier, object_chain_cons here]
  exact chain_keeps_of_succeeds holds kept later (establishes _ here)

/-- A member has no work at the end of a chain if it settles and all later members spare it. -/
theorem quiet_after_chain {member : Mutate α} (settles : member.SettlesAt desired)
    (spared : ∀ later ∈ after, later.Spares member desired)
    (success : (chain (before ++ member :: after) existing desired).Succeeds) :
    member.Quiet desired (chain (before ++ member :: after) existing desired).object :=
  holds_after_chain (member.Quiet desired) settles
    (fun other within existing quiet success => spared other within existing success quiet) success

/-- A chain has no work if none of its members has any and all of them spare each other idly. -/
theorem quiet_chain (quiet : ∀ member ∈ members, member.Quiet desired existing)
    (spare : ∀ first ∈ members, ∀ other ∈ members, first.SparesIdly other desired) :
    (chain members).Quiet desired existing := by
  induction members generalizing existing with
  | nil => rfl
  | cons first rest ih =>
    obtain ⟨here, others⟩ := List.forall_mem_cons.mp quiet
    refine quiet_chain_cons_iff.mpr ⟨here, ih ?_ ?_⟩
    · intro member within
      exact spare first List.mem_cons_self member (List.mem_cons_of_mem _ within) existing here
        (others member within)
    · intro member within other among
      exact spare member (List.mem_cons_of_mem _ within) other (List.mem_cons_of_mem _ among)

/-- If members without work keep the object as it is, a chain has no work only if none of them has any. -/
theorem quiet_members_of_quiet_chain
    (keep : ∀ member ∈ members, ∀ existing, member.Quiet desired existing → (member existing desired).object = existing)
    (quiet : (chain members).Quiet desired existing) : ∀ member ∈ members, member.Quiet desired existing := by
  induction members with
  | nil => exact fun _ within => absurd within List.not_mem_nil
  | cons first rest ih =>
    obtain ⟨here, later⟩ := quiet_chain_cons_iff.mp quiet
    obtain ⟨kept, keep⟩ := List.forall_mem_cons.mp keep
    rw [kept existing here] at later
    exact List.forall_mem_cons.mpr ⟨here, ih keep later⟩

/-- A chain settles if none of its members has work at the end, and all of them spare each other idly. -/
theorem settlesAt_chain
    (ends : ∀ existing, (chain members existing desired).Succeeds →
      ∀ member ∈ members, member.Quiet desired (chain members existing desired).object)
    (spare : ∀ first ∈ members, ∀ other ∈ members, first.SparesIdly other desired) :
    (chain members).SettlesAt desired :=
  fun existing success => quiet_chain (ends existing success) spare

/-- A chain settles if its members do, no member gives new work to earlier ones, and all of them spare each
other idly. -/
theorem settlesAt_chain_of_pairwise (settle : ∀ member ∈ members, member.SettlesAt desired)
    (ordered : members.Pairwise fun earlier later => later.Spares earlier desired)
    (spare : ∀ first ∈ members, ∀ other ∈ members, first.SparesIdly other desired) :
    (chain members).SettlesAt desired := by
  refine settlesAt_chain (fun existing success member within => ?_) spare
  obtain ⟨before, after, rfl⟩ := List.append_of_mem within
  have later := (List.pairwise_cons.mp (List.pairwise_append.mp ordered).2.1).1
  exact quiet_after_chain (settle member within) later success

/-- A chain of mutators that settle and spare each other settles. -/
theorem settlesAt_chain_of_spares (settle : ∀ member ∈ members, member.SettlesAt desired)
    (spare : ∀ first ∈ members, ∀ other ∈ members, first.Spares other desired) :
    (chain members).SettlesAt desired := by
  refine settlesAt_chain_of_pairwise settle ?_ fun first within other among => (spare first within other among).idly
  exact List.pairwise_of_forall_mem_list fun earlier within later among => spare later among earlier within

end Mutate

end Reconciliation
