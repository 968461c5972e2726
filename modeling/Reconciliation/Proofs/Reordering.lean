import Reconciliation.Proofs.Chains

/-! # Chains in another order

Two mutators commute for a desired object if it makes no difference which of them runs first: whatever object
they meet with, both orders are refused alike, or report the same and leave the same object. What a refusal
leaves on its way is not compared. A chain of mutators that commute pairwise can be put into any order.
-/

namespace Reconciliation

namespace Mutation

variable {α : Type}

/-- Two mutations are refused alike, or report the same and leave the same object. -/
structure Agrees (mutation other : Mutation α) : Prop where
  outcome : mutation.outcome = other.outcome
  object : mutation.Succeeds → mutation.object = other.object

namespace Agrees

variable {mutation other further : Mutation α}

theorem refl (mutation : Mutation α) : mutation.Agrees mutation := ⟨rfl, fun _ => rfl⟩

theorem succeeds_iff (agrees : mutation.Agrees other) : mutation.Succeeds ↔ other.Succeeds := by
  rw [Succeeds, agrees.outcome]
  rfl

theorem trans (first : mutation.Agrees other) (second : other.Agrees further) : mutation.Agrees further where
  outcome := first.outcome.trans second.outcome
  object success := (first.object success).trans (second.object (first.succeeds_iff.mp success))

/-- Mutations that succeed agree only if they are the same. -/
theorem eq_of_succeeds (agrees : mutation.Agrees other) (success : mutation.Succeeds) : mutation = other :=
  ext (agrees.object success) agrees.outcome

/-- Mutations that agree still do so after the same continuation. -/
theorem andThen (agrees : mutation.Agrees other) (next : α → Mutation α) :
    (mutation.andThen next).Agrees (other.andThen next) := by
  cases ended : mutation.outcome with
  | ok changed =>
    rw [agrees.eq_of_succeeds ⟨changed, ended⟩]
    exact refl _
  | error failure =>
    rw [andThen_of_error ended, andThen_of_error (agrees.outcome.symm.trans ended)]
    exact agrees

/-- A mutation can be continued with either of two that agree on what it leaves. -/
theorem of_andThen {next last : α → Mutation α} (agree : (next mutation.object).Agrees (last mutation.object)) :
    (mutation.andThen next).Agrees (mutation.andThen last) where
  outcome := by
    cases ended : mutation.outcome with
    | error failure => rw [andThen_of_error ended, andThen_of_error ended]
    | ok changed => simp only [andThen_of_ok ended, agree.outcome]
  object success := by
    obtain ⟨here, later⟩ := succeeds_andThen_iff.mp success
    rw [object_andThen_of_succeeds here, object_andThen_of_succeeds here]
    exact agree.object later

end Agrees

end Mutation

namespace Mutate

variable {α : Type} {first second : Mutate α} {desired : α}

/-- It makes no difference which of two mutators runs first. -/
def Commutes (first second : Mutate α) (desired : α) : Prop :=
  ∀ existing, Mutation.Agrees ((first existing desired).andThen (second · desired))
    ((second existing desired).andThen (first · desired))

/-- Mutators commute if neither has a say in what the other one reports, their refusals are alike, and the objects
that they leave do not depend on the order. -/
theorem commutes_of_apart
    (reports : ∀ existing, (second (first existing desired).object desired).outcome = (second existing desired).outcome)
    (reported : ∀ existing, (first (second existing desired).object desired).outcome = (first existing desired).outcome)
    (refusals : ∀ existing failure other, (first existing desired).outcome = .error failure →
      (second existing desired).outcome = .error other → failure = other)
    (objects : ∀ existing, (second (first existing desired).object desired).object =
      (first (second existing desired).object desired).object) :
    first.Commutes second desired := by
  intro existing
  have ends := reports existing
  have ended := reported existing
  cases here : (first existing desired).outcome with
  | error failure =>
    rw [Mutation.andThen_of_error here]
    refine ⟨?_, fun ⟨changed, success⟩ => nomatch here.symm.trans success⟩
    cases there : (second existing desired).outcome with
    | error other =>
      rw [Mutation.andThen_of_error there, here, there, refusals existing failure other here there]
    | ok changed =>
      rw [Mutation.andThen_of_ok there, ended, here]
      rfl
  | ok changed =>
    rw [Mutation.andThen_of_ok here, ends]
    cases there : (second existing desired).outcome with
    | error failure =>
      rw [Mutation.andThen_of_error there]
      exact ⟨there.symm, fun ⟨_, success⟩ => nomatch success⟩
    | ok further =>
      rw [Mutation.andThen_of_ok there, ended, here]
      exact ⟨congrArg Except.ok (Bool.or_comm changed further), fun _ => objects existing⟩

/-- The members of a chain can be put into any order if they commute pairwise. -/
theorem chain_agrees_of_perm {members reordered : List (Mutate α)} (permuted : members.Perm reordered)
    (commute : ∀ first ∈ members, ∀ second ∈ members, first.Commutes second desired) (existing : α) :
    (chain members existing desired).Agrees (chain reordered existing desired) := by
  induction permuted generalizing existing with
  | nil => exact .refl _
  | cons first _ ih =>
    rw [chain_cons, chain_cons]
    refine .of_andThen (ih (fun member within other among => ?_) _)
    exact commute member (List.mem_cons_of_mem _ within) other (List.mem_cons_of_mem _ among)
  | swap first second rest =>
    -- the first two members as one mutation, which the others continue
    simp only [chain_cons, ← Mutation.andThen_assoc]
    exact (commute second List.mem_cons_self first (List.mem_cons_of_mem _ List.mem_cons_self) existing).andThen _
  | trans earlier _ ihEarlier ihLater =>
    refine (ihEarlier commute existing).trans (ihLater (fun member within other among => ?_) existing)
    exact commute member (earlier.mem_iff.mpr within) other (earlier.mem_iff.mpr among)

end Mutate

end Reconciliation
