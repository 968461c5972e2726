import Reconciliation.Edit
import Reconciliation.Failure
import Reconciliation.Object.Kind

/-! # Mutations

A mutator brings an existing object closer to a desired one, or refuses to. What it leaves of the
existing object is part of its result even if it refuses, so that the effect of a chain that stops
in the middle can be told.
-/

namespace Reconciliation

/-- The object that a mutator leaves, and whether it changed anything or why it refused. -/
structure Mutation (α : Type) where
  object : α
  outcome : Except Failure Bool

/-- A policy for bringing an existing object (the first argument) in line with a desired one. -/
abbrev Mutate (α : Type) : Type := α → α → Mutation α

namespace Mutation

variable {α β : Type}

def done (edit : Edit α) : Mutation α := ⟨edit.value, .ok edit.changed⟩

def refused (object : α) (failure : Failure) : Mutation α := ⟨object, .error failure⟩

/-- Go on with the object that a mutation leaves, unless it refused; the changes add up. -/
def andThen (mutation : Mutation α) (next : α → Mutation α) : Mutation α :=
  match mutation.outcome with
  | .error _ => mutation
  | .ok changed =>
      let after := next mutation.object
      ⟨after.object, after.outcome.map (changed || ·)⟩

end Mutation

namespace Mutate

variable {α β : Type}

/-- The mutator that never touches an existing object. -/
def createOnly : Mutate α := fun existing _ => .done (.keep existing)

/-- The mutator that only ever edits. -/
def ofEdit (edit : α → α → Edit α) : Mutate α := fun existing desired => .done (edit existing desired)

/-- The mutator that only ever edits the content. -/
def ofContentEdit (edit : α → α → Edit α) : Mutate (Object α) :=
  ofEdit fun existing desired => (edit existing.content desired.content).map existing.withContent

/-- Mutators one after the other: each sees what the ones before it left, all run even if an earlier
one changed something, and the first refusal is the last step. -/
def chain : List (Mutate α) → Mutate α
  | [] => createOnly
  | first :: rest => fun existing desired =>
      (first existing desired).andThen fun existing => chain rest existing desired

end Mutate

end Reconciliation
