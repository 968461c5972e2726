import Reconciliation.Proofs.MutatorMetadata
import Reconciliation.Proofs.Chains

/-! # Chains of chains

A member of a chain can be a chain itself. How the members are grouped makes no difference: a nested chain does what the
chain of the mutators in it does, and if one of these refuses, all chains around it stop with what it leaves.
-/

namespace Reconciliation

namespace Mutate

variable {α : Type} {before after : List (Mutate α)} {member : Mutate α} {existing desired : α} {failure : Failure}

theorem chain_singleton (mutate : Mutate α) : chain [mutate] = mutate := by
  funext existing desired
  rw [chain_cons]
  cases outcome : (mutate existing desired).outcome with
  | error failure => exact Mutation.andThen_of_error outcome _
  | ok changed =>
    rw [Mutation.andThen_of_ok outcome]
    exact Mutation.ext rfl ((congrArg Except.ok (Bool.or_false changed)).trans outcome.symm)

/-- A chain of chains is the chain of all their members. -/
theorem chain_map_chain (groups : List (List (Mutate α))) : chain (groups.map chain) = chain groups.flatten := by
  induction groups with
  | nil => rfl
  | cons first rest ih =>
    funext existing desired
    rw [List.map_cons, chain_cons, List.flatten_cons, chain_append, ih]

/-- The members before succeed in a row, and this one refuses what they leave. -/
structure StopsAt (before : List (Mutate α)) (member : Mutate α) (failure : Failure) (existing desired : α) : Prop where
  reached : (chain before existing desired).Succeeds
  refused : (member (chain before existing desired).object desired).outcome = .error failure

/-- A chain that stops leaves what the member that stops it leaves, whatever would come after this one. -/
theorem StopsAt.chain_eq (stops : StopsAt before member failure existing desired) (after : List (Mutate α)) :
    chain (before ++ member :: after) existing desired =
      ⟨(member (chain before existing desired).object desired).object, .error failure⟩ := by
  obtain ⟨changed, reached⟩ := stops.reached
  have last : chain (member :: after) (chain before existing desired).object desired =
      ⟨(member (chain before existing desired).object desired).object, .error failure⟩ := by
    rw [chain_cons, Mutation.andThen_of_error stops.refused]
    exact Mutation.ext rfl stops.refused
  rw [chain_append, Mutation.andThen_of_ok reached, last]
  rfl

/-- A chain refuses exactly if it stops at one of its members, and for the reason that this one has. -/
theorem outcome_chain_eq_error_iff {members : List (Mutate α)} :
    (chain members existing desired).outcome = .error failure ↔
      ∃ before member after, members = before ++ member :: after ∧ StopsAt before member failure existing desired := by
  constructor
  · intro refusal
    induction members generalizing existing with
    | nil => cases refusal
    | cons first rest ih =>
      rw [chain_cons] at refusal
      cases outcome : (first existing desired).outcome with
      | error reason =>
        rw [Mutation.andThen_of_error outcome] at refusal
        exact ⟨[], first, rest, rfl, ⟨false, rfl⟩, refusal⟩
      | ok changed =>
        rw [Mutation.andThen_of_ok outcome] at refusal
        have later : (chain rest (first existing desired).object desired).outcome = .error failure := by
          cases further : (chain rest (first existing desired).object desired).outcome with
          | error reason => rwa [further] at refusal
          | ok changed =>
            rw [further] at refusal
            cases refusal
        obtain ⟨before, member, after, rfl, reached, refused⟩ := ih later
        refine ⟨first :: before, member, after, rfl, succeeds_chain_cons_iff.mpr ⟨⟨changed, outcome⟩, reached⟩, ?_⟩
        rwa [object_chain_cons ⟨changed, outcome⟩]
  · rintro ⟨before, member, after, rfl, stops⟩
    rw [stops.chain_eq after]

/-- The mutator that does the same and counts its runs beside the object. -/
def counted (mutate : Mutate α) : Mutate (α × Nat) := fun existing desired =>
  let mutation := mutate existing.1 desired.1
  ⟨(mutation.object, existing.2 + 1), mutation.outcome⟩

/-- Each member of a chain that succeeds runs once. -/
theorem chain_map_counted (success : (chain before existing desired).Succeeds) (runs wanted : Nat) :
    chain (before.map counted) (existing, runs) (desired, wanted) =
      ⟨((chain before existing desired).object, runs + before.length), (chain before existing desired).outcome⟩ := by
  induction before generalizing existing runs with
  | nil => rfl
  | cons first rest ih =>
    obtain ⟨⟨changed, here⟩, later⟩ := succeeds_chain_cons_iff.mp success
    have counts : (counted first (existing, runs) (desired, wanted)).outcome = .ok changed := here
    rw [List.map_cons, chain_cons, chain_cons, Mutation.andThen_of_ok counts, Mutation.andThen_of_ok here]
    change Mutation.mk (chain (rest.map counted) ((first existing desired).object, runs + 1) (desired, wanted)).object
      ((chain (rest.map counted) ((first existing desired).object, runs + 1) (desired, wanted)).outcome.map _) = _
    rw [ih later, List.length_cons, Nat.add_assoc, Nat.add_comm 1]

theorem StopsAt.chain_map_counted_eq (stops : StopsAt before member failure existing desired)
    (after : List (Mutate α)) (wanted : Nat) :
    chain ((before ++ member :: after).map counted) (existing, 0) (desired, wanted) =
      ⟨((member (chain before existing desired).object desired).object, before.length + 1), .error failure⟩ := by
  have first := chain_map_counted stops.reached 0 wanted
  rw [Nat.zero_add] at first
  have counts : StopsAt (before.map counted) member.counted failure (existing, 0) (desired, wanted) := by
    refine ⟨?_, ?_⟩
    · rw [first]
      exact stops.reached
    · rw [first]
      exact stops.refused
  rw [List.map_append, List.map_cons, counts.chain_eq, first]
  rfl

end Mutate

/-- Mutators in chains, which can be members of other chains. -/
inductive Nest (α : Type)
  | single (mutate : Mutate α)
  | chain (members : List (Nest α))

namespace Nest

variable {α : Type}

mutual

/-- What the chains do as they are nested. -/
def mutate : Nest α → Mutate α
  | single mutate => mutate
  | chain members => .chain (mutateEach members)

def mutateEach : List (Nest α) → List (Mutate α)
  | [] => []
  | first :: rest => first.mutate :: mutateEach rest

end

mutual

/-- The mutators in the chains, from left to right. -/
def leaves : Nest α → List (Mutate α)
  | single mutate => [mutate]
  | chain members => leavesEach members

def leavesEach : List (Nest α) → List (Mutate α)
  | [] => []
  | first :: rest => first.leaves ++ leavesEach rest

end

/-- Induction over nested chains. -/
@[elab_as_elim]
theorem induct {motive : Nest α → Prop} (single : ∀ mutate, motive (.single mutate))
    (chain : ∀ members, (∀ member ∈ members, motive member) → motive (.chain members)) (nest : Nest α) : motive nest :=
  @Nest.rec α motive (fun members => ∀ member ∈ members, motive member) single chain
    (fun _ within => absurd within List.not_mem_nil)
    (fun _ _ first rest => List.forall_mem_cons.mpr ⟨first, rest⟩) nest

theorem mutateEach_eq_map_mutate (members : List (Nest α)) : mutateEach members = members.map mutate := by
  induction members with
  | nil => rfl
  | cons first rest ih => rw [mutateEach, ih, List.map_cons]

theorem leavesEach_eq_flatten (members : List (Nest α)) : leavesEach members = (members.map leaves).flatten := by
  induction members with
  | nil => rfl
  | cons first rest ih => rw [leavesEach, ih, List.map_cons, List.flatten_cons]

theorem mutate_eq_chain_leaves (nest : Nest α) : nest.mutate = Mutate.chain nest.leaves := by
  induction nest using induct with
  | single mutate => exact (Mutate.chain_singleton mutate).symm
  | chain members ih =>
    have flat : members.map mutate = (members.map leaves).map Mutate.chain := by
      rw [List.map_map]
      exact List.map_congr_left ih
    calc (Nest.chain members).mutate
      _ = Mutate.chain (members.map mutate) := by rw [mutate, mutateEach_eq_map_mutate]
      _ = Mutate.chain ((members.map leaves).map Mutate.chain) := by rw [flat]
      _ = Mutate.chain (members.map leaves).flatten := Mutate.chain_map_chain _
      _ = Mutate.chain (Nest.chain members).leaves := by rw [leaves, leavesEach_eq_flatten]

end Nest

namespace Mutator

variable {kind : Kind}

mutual

/-- The chains of a mutator as they are nested in it. -/
def nest : Mutator kind → Nest kind.Object
  | chain members => .chain (nestEach members)
  | createOnly => .single createOnly.mutate
  | refuse reason => .single (refuse reason).mutate
  | rule governed => .single (rule governed).mutate

def nestEach : List (Mutator kind) → List (Nest kind.Object)
  | [] => []
  | first :: rest => first.nest :: nestEach rest

end

theorem nestEach_eq_map_nest (members : List (Mutator kind)) : nestEach members = members.map nest := by
  induction members with
  | nil => rfl
  | cons first rest ih => rw [nestEach, ih, List.map_cons]

theorem mutate_nest (mutator : Mutator kind) : mutator.nest.mutate = mutator.mutate := by
  induction mutator using induct with
  | createOnly | refuse reason | rule governed => rfl
  | chain members ih =>
    rw [mutate_chain, nest, Nest.mutate, Nest.mutateEach_eq_map_mutate, nestEach_eq_map_nest, List.map_map]
    exact congrArg Mutate.chain (List.map_congr_left ih)

/-- Every mutator is a chain of rules, of mutators that never touch anything and of mutators that always refuse. -/
theorem mutate_eq_chain_leaves (mutator : Mutator kind) : mutator.mutate = Mutate.chain mutator.nest.leaves :=
  mutator.mutate_nest.symm.trans mutator.nest.mutate_eq_chain_leaves

end Mutator

/-- Nested chains do what the chain of the mutators in them does, also if it refuses. This it does exactly if it stops at
one of its members. Then it leaves what this one leaves of what those before it have left, and with those this one is the
last to run. -/
theorem nested_chains_flatten {α : Type} (nest : Nest α) (existing desired : α) :
    nest.mutate existing desired = Mutate.chain nest.leaves existing desired ∧
      (∀ failure, (Mutate.chain nest.leaves existing desired).outcome = .error failure ↔ ∃ before member after,
        nest.leaves = before ++ member :: after ∧ Mutate.StopsAt before member failure existing desired) ∧
      ∀ before member after failure, nest.leaves = before ++ member :: after →
        Mutate.StopsAt before member failure existing desired →
        let reached := (Mutate.chain before existing desired).object
        Mutate.chain nest.leaves existing desired = ⟨(member reached desired).object, .error failure⟩ ∧
          ∀ wanted, Mutate.chain (nest.leaves.map Mutate.counted) (existing, 0) (desired, wanted) =
            ⟨((member reached desired).object, before.length + 1), .error failure⟩ := by
  refine ⟨?_, fun failure => Mutate.outcome_chain_eq_error_iff, fun before member after failure split stops => ?_⟩
  · rw [nest.mutate_eq_chain_leaves]
  · rw [split]
    exact ⟨stops.chain_eq after, stops.chain_map_counted_eq after⟩

/-- The third of five mutators multiplies and then refuses: with that, two chains inside of each other end. -/
theorem nested_chains_flatten_of_product :
    let add (number : Nat) : Mutate Nat := fun existing _ => ⟨existing + number, .ok true⟩
    let failure := Failure.invariantViolation "product" "too large"
    let product : Mutate Nat := fun existing desired => ⟨existing * desired, .error failure⟩
    let nest : Nest Nat := .chain
      [.single (add 1), .chain [.single (add 2), .chain [.single product, .single (add 3)]], .single (add 4)]
    nest.leaves = [add 1, add 2] ++ product :: [add 3, add 4] ∧
      Mutate.StopsAt [add 1, add 2] product failure 0 10 ∧
      nest.mutate 0 10 = ⟨30, .error failure⟩ ∧
      Mutate.chain (nest.leaves.map Mutate.counted) (0, 0) (10, 0) = ⟨(30, 3), .error failure⟩ := by
  intro add failure product nest
  have stops : Mutate.StopsAt [add 1, add 2] product failure 0 10 := ⟨⟨true, rfl⟩, rfl⟩
  have flattens := nested_chains_flatten nest 0 10
  have stopped := flattens.2.2 [add 1, add 2] product [add 3, add 4] failure rfl stops
  exact ⟨rfl, stops, flattens.1.trans stopped.1, stopped.2 0⟩

end Reconciliation
