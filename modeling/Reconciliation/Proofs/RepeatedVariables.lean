import Mathlib.Data.List.FinRange
import Reconciliation.Proofs.DeploymentLaws

/-! # The first variable of each name

The rule against repeated variables reads the variables of a container from the front and remembers the names that it
has seen. What it keeps can be told without that memory: the variables at those places before which no other variable
has the same name.
-/

namespace Reconciliation.Deployment

/-- No variable before this place has the name of the one at it. -/
def IsFirst (env : List EnvVar) (place : Fin env.length) : Prop :=
  ∀ earlier < place, env[earlier].name ≠ env[place].name

instance (env : List EnvVar) (place : Fin env.length) : Decidable (IsFirst env place) :=
  inferInstanceAs (Decidable (∀ earlier < place, env[earlier].name ≠ env[place].name))

/-- The variables, in order, whose names no variable before them has. -/
def firstVariables (env : List EnvVar) : List EnvVar := ((List.finRange env.length).filter (IsFirst env)).map env.get

section Lists

/-- The items at the places that pass a test, taken from the front. -/
theorem map_get_filter_cons {α : Type} {item : α} {items : List α} (test : Fin (item :: items).length → Bool) :
    ((List.finRange (item :: items).length).filter test).map (item :: items).get =
      let later := ((List.finRange items.length).filter fun place => test place.succ).map items.get
      if test 0 then item :: later else later := by
  have places : List.finRange (item :: items).length = 0 :: (List.finRange items.length).map Fin.succ :=
    List.finRange_succ
  rw [places, List.filter_cons, List.filter_map]
  split
  · rw [List.map_cons, List.map_map]
    rfl
  · rw [List.map_map]
    rfl

variable {first : EnvVar} {rest : List EnvVar}

theorem isFirst_zero : IsFirst (first :: rest) 0 := fun earlier before => absurd before (Fin.not_lt_zero earlier)

theorem isFirst_succ_iff {place : Fin rest.length} :
    IsFirst (first :: rest) place.succ ↔ rest[place].name ≠ first.name ∧ IsFirst rest place := by
  refine Fin.forall_fin_succ.trans (and_congr ⟨fun new same => ?_, fun new _ same => ?_⟩ ?_)
  · exact new (Fin.succ_pos place) same.symm
  · exact new same.symm
  · exact forall_congr' fun earlier => imp_congr_left Fin.succ_lt_succ_iff

/-- What is kept once some names have been seen: of the first variables those whose names are new. -/
theorem firstOfEachName_eq (seen : List String) (env : List EnvVar) :
    firstOfEachName seen env =
      ((List.finRange env.length).filter fun place => env[place].name ∉ seen ∧ IsFirst env place).map env.get := by
  induction env generalizing seen with
  | nil => rfl
  | cons first rest ih =>
    rw [map_get_filter_cons]
    simp only [firstOfEachName, List.contains_iff_mem, ih]
    by_cases known : first.name ∈ seen
    · rw [if_pos known, if_neg fun new => absurd known (of_decide_eq_true new).1]
      refine congrArg (List.map rest.get) (List.filter_congr fun place _ => decide_eq_decide.mpr ?_)
      -- The first variable is no obstacle to a later one, because a name like its own has been seen anyway.
      have other (new : rest[place].name ∉ seen) : rest[place].name ≠ first.name := fun same => new (same ▸ known)
      change _ ↔ rest[place].name ∉ seen ∧ _
      rw [isFirst_succ_iff]
      tauto
    · rw [if_neg known, if_pos (decide_eq_true ⟨known, isFirst_zero⟩)]
      refine congrArg (first :: List.map rest.get ·) (List.filter_congr fun place _ => decide_eq_decide.mpr ?_)
      change _ ↔ rest[place].name ∉ seen ∧ _
      rw [isFirst_succ_iff, List.mem_cons]
      tauto

theorem firstOfEachName_nil (env : List EnvVar) : firstOfEachName [] env = firstVariables env := by
  rw [firstOfEachName_eq, firstVariables]
  congr 1
  exact List.filter_congr fun place _ => by simp

theorem mem_names_firstOfEachName_iff {seen : List String} {env : List EnvVar} {name : String} :
    name ∈ (firstOfEachName seen env).map (·.name) ↔ name ∈ env.map (·.name) ∧ name ∉ seen := by
  induction env generalizing seen with
  | nil => simp [firstOfEachName]
  | cons first rest ih =>
    simp only [firstOfEachName, List.contains_iff_mem]
    split
    · next known =>
      rw [ih, List.map_cons, List.mem_cons]
      have other (absent : name ∉ seen) : name ≠ first.name := fun same => absent (same ▸ known)
      tauto
    · next new =>
      have absent (same : name = first.name) : name ∉ seen := same ▸ new
      rw [List.map_cons, List.mem_cons, ih, List.map_cons, List.mem_cons, List.mem_cons]
      tauto

end Lists

section FirstVariables

theorem firstVariables_sublist (env : List EnvVar) : (firstVariables env).Sublist env := by
  rw [← firstOfEachName_nil]
  exact firstOfEachName_sublist [] env

theorem nodup_names_firstVariables (env : List EnvVar) : ((firstVariables env).map (·.name)).Nodup := by
  rw [← firstOfEachName_nil]
  exact (distinct_firstOfEachName [] env).2

theorem mem_names_firstVariables_iff {env : List EnvVar} {name : String} :
    name ∈ (firstVariables env).map (·.name) ↔ name ∈ env.map (·.name) := by
  rw [← firstOfEachName_nil, mem_names_firstOfEachName_iff]
  exact and_iff_left List.not_mem_nil

end FirstVariables

/-- The container with the first variable of each name. Absent variables stay absent. -/
def keepFirsts (container : Container) : Container := { container with env := container.env.map firstVariables }

theorem value_dropRepeatedEnvVars (container : Container) :
    (dropRepeatedEnvVars container).value = keepFirsts container := by
  rw [dropRepeatedEnvVars, keepFirsts]
  split
  · next absent =>
    rw [absent, Option.map_none, ← absent]
    rfl
  · next env present => rw [present, Option.map_some, ← firstOfEachName_nil]

variable {existing : Deployment}

theorem editEachContainer_dropRepeatedEnvVars (existing : Deployment) :
    (editEachContainer dropRepeatedEnvVars existing).value = existing.mapContainers keepFirsts := by
  rw [editEachContainer_eq]
  exact congrArg existing.mapContainers (funext value_dropRepeatedEnvVars)

theorem changed_editEachContainer_dropRepeatedEnvVars_iff :
    (editEachContainer dropRepeatedEnvVars existing).changed = true ↔
      ∃ container ∈ existing.containers, ¬ DistinctEnvVars container := by
  rw [← Bool.not_eq_false, changed_editEachContainer_eq_false_iff]
  simp only [changed_dropRepeatedEnvVars_eq_false_iff, not_forall, exists_prop]

theorem editEachContainer_dropRepeatedEnvVars_again (existing : Deployment) :
    editEachContainer dropRepeatedEnvVars (existing.mapContainers keepFirsts) =
      .keep (existing.mapContainers keepFirsts) := by
  refine editEachContainer_of_still fun container within => dropRepeatedEnvVars_of_distinct ?_
  rw [containers_mapContainers] at within
  obtain ⟨earlier, -, rfl⟩ := List.mem_map.mp within
  rw [← value_dropRepeatedEnvVars]
  exact changed_dropRepeatedEnvVars_eq_false_iff.mp (changed_dropRepeatedEnvVars_again earlier)

/-- In each container the first variable of each name stays, in the order that was there, and nothing else of the
deployment changes. A change is reported exactly if a container had a name twice, and none is left for a second time.
What is desired has no say. -/
theorem first_variables_stay (existing desired : Object Deployment) :
    let mutation := Rule.removeDuplicateEnvVars.mutate existing desired
    let after := mutation.object
    after = existing.withContent (existing.content.mapContainers keepFirsts) ∧
      (∀ env : List EnvVar, (firstVariables env).Sublist env ∧ ((firstVariables env).map (·.name)).Nodup ∧
        ∀ name, name ∈ (firstVariables env).map (·.name) ↔ name ∈ env.map (·.name)) ∧
      mutation.Succeeds ∧
      (mutation.outcome = .ok true ↔ ∃ container ∈ existing.content.containers, ¬ DistinctEnvVars container) ∧
      Rule.removeDuplicateEnvVars.mutate after desired = .done (.keep after) ∧
      ∀ other, Rule.removeDuplicateEnvVars.mutate existing other = mutation := by
  intro mutation after
  have left : after = existing.withContent (existing.content.mapContainers keepFirsts) :=
    congrArg existing.withContent (editEachContainer_dropRepeatedEnvVars existing.content)
  refine ⟨left, fun env => ?_, ⟨_, rfl⟩, ?_, ?_, fun other => rfl⟩
  · exact ⟨firstVariables_sublist env, nodup_names_firstVariables env, fun name => mem_names_firstVariables_iff⟩
  · rw [← changed_editEachContainer_dropRepeatedEnvVars_iff]
    exact ⟨Except.ok.inj, congrArg Except.ok⟩
  · rw [left]
    exact congrArg (fun edit => Mutation.done (edit.map existing.withContent))
      (editEachContainer_dropRepeatedEnvVars_again existing.content)

/-- The value of a repeated variable does not matter. -/
example :
    let level (value : String) : EnvVar := { name := "LOG_LEVEL", value := some value }
    let port : EnvVar := { name := "PORT", value := some "8080" }
    firstVariables [level "info", port, level "debug"] = [level "info", port] := by decide

end Reconciliation.Deployment
