import Reconciliation.Proofs.GenericDeployment

/-! # Images of init containers

The rule for images of init containers goes by their places and not by their names. Every init container that is there
keeps all but its image, for which it takes that of the desired one at its place, and where there is none it is
left alone. Desired ones beyond those that are there are added. So the right containers get the images if names agree
place by place. If one more is there in front, each gets the image of another one.
-/

namespace Reconciliation

namespace Edit

variable {α : Type}

/-- What is at a place after an edit of pairs that adds what is missing. -/
theorem getElem?_value_pairsOrAdded (edit : α → α → Edit α) (items wanted : List α) (index : Nat) :
    (pairsOrAdded edit items wanted).value[index]? =
      match items[index]?, wanted[index]? with
      | some item, some goal => some (edit item goal).value
      | some item, none => some item
      | none, goal => goal := by
  induction items generalizing wanted index with
  | nil => rfl
  | cons item rest ih =>
    cases wanted with
    | nil => cases here : (item :: rest)[index]? <;> simp [pairsOrAdded, here]
    | cons goal goals =>
      cases index with
      | zero => rfl
      | succ index => exact ih goals index

end Edit

namespace Deployment

/-- What the rule for images of init containers leaves at a place, given the one that is there and the desired one. -/
def imageFollows : Option Container → Option Container → Option Container
  | some container, some goal => some { container with image := goal.image }
  | some container, none => some container
  | none, goal => goal

theorem getElem?_followInitContainerImages (existing desired : Deployment) (index : Nat) :
    (followInitContainerImages existing desired).value.initContainers[index]? =
      imageFollows existing.initContainers[index]? desired.initContainers[index]? := by
  rw [initContainers_followInitContainerImages, Edit.getElem?_value_pairsOrAdded]
  cases existing.initContainers[index]? with
  | none => rfl
  | some container => cases desired.initContainers[index]? <;> rfl

/-- Images of init containers follow place by place, and init containers that are missing at the end are added. If
names agree place by place, every desired init container is there with its image, and those whose names are not desired
are as they were. -/
theorem init_images_follow_by_place (existing desired : Object Deployment) :
    let before := existing.content.initContainers
    let wanted := desired.content.initContainers
    let mutation := Rule.initContainerImages.mutate existing desired
    let after := mutation.object.content.initContainers
    mutation.Succeeds ∧ (∀ index : Nat, after[index]? = imageFollows before[index]? wanted[index]?) ∧
      ((∀ (index : Nat) (container goal : Container), before[index]? = some container →
          wanted[index]? = some goal → container.name = goal.name) →
        (∀ goal ∈ wanted, ∃ container ∈ after, container.name = goal.name ∧ container.image = goal.image) ∧
        (∀ container ∈ before, (∀ goal ∈ wanted, goal.name ≠ container.name) → container ∈ after)) := by
  intro before wanted mutation after
  have placed (index : Nat) : after[index]? = imageFollows before[index]? wanted[index]? :=
    getElem?_followInitContainerImages existing.content desired.content index
  refine ⟨⟨_, rfl⟩, placed, fun agree => ⟨?_, ?_⟩⟩
  · intro goal desired
    obtain ⟨index, there⟩ := List.getElem?_of_mem desired
    have place := placed index
    cases here : before[index]? with
    | none =>
      rw [here, there] at place
      exact ⟨goal, List.mem_of_getElem? place, rfl, rfl⟩
    | some container =>
      rw [here, there] at place
      exact ⟨_, List.mem_of_getElem? place, agree index container goal here there, rfl⟩
  · intro container present unnamed
    obtain ⟨index, here⟩ := List.getElem?_of_mem present
    have place := placed index
    cases there : wanted[index]? with
    | none =>
      rw [here, there] at place
      exact List.mem_of_getElem? place
    | some goal =>
      have same := agree index container goal here there
      exact absurd same.symm (unnamed goal (List.mem_of_getElem? there))

/-- An init container of this name and image. -/
def initOf (name image : String) : Container := { name, image := some image }

def withInits (inits : List Container) : Object Deployment := ofPods { containers := [], initContainers := some inits }

/-- A new image and one more init container at the end. -/
theorem init_images_follow_by_place_of_migration :
    let existing := withInits [initOf "migrate" "migrate:1"]
    let desired := withInits [initOf "migrate" "migrate:2", initOf "seed" "seed:1"]
    let after := (Rule.initContainerImages.mutate existing desired).object.content.initContainers
    after = [initOf "migrate" "migrate:2", initOf "seed" "seed:1"] ∧
      ∀ goal ∈ desired.content.initContainers,
        ∃ container ∈ after, container.name = goal.name ∧ container.image = goal.image := by
  intro existing desired after
  have follows := (init_images_follow_by_place existing desired).2.2
  refine ⟨rfl, (follows fun index container goal here there => ?_).1⟩
  cases index with
  | zero =>
    cases here
    cases there
    rfl
  | succ index => cases here

/-- Where a proxy has been injected in front, it gets the image of the first desired one, which gets that of the second
one, which is missing and is not added, although all names are different. -/
theorem init_images_in_wrong_containers :
    let existing := withInits [initOf "istio-init" "proxy:1", initOf "migrate" "migrate:1"]
    let desired := withInits [initOf "migrate" "migrate:2", initOf "seed" "seed:1"]
    let mutation := Rule.initContainerImages.mutate existing desired
    let after := mutation.object.content.initContainers
    (existing.content.initContainers.map (·.name)).Nodup ∧ (desired.content.initContainers.map (·.name)).Nodup ∧
      mutation.outcome = .ok true ∧ after = [initOf "istio-init" "migrate:2", initOf "migrate" "seed:1"] ∧
      (∀ goal ∈ desired.content.initContainers,
        ¬ ∃ container ∈ after, container.name = goal.name ∧ container.image = goal.image) ∧
      ∃ container ∈ existing.content.initContainers,
        (∀ goal ∈ desired.content.initContainers, goal.name ≠ container.name) ∧ container ∉ after := by
  refine ⟨?_, ?_, rfl, rfl, ?_, ?_⟩ <;> decide +kernel

end Deployment

end Reconciliation
