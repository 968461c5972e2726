import Mathlib.Data.List.Nodup
import Reconciliation.Proofs.MutatorReports

/-! # What merging does to tags

Tags are merged one after the other, and each is sought in a list to which earlier ones may have been added. What comes
of it can be told at once. The wanted tags of new names are added at the end, the first of each name. Then the first tag
of every name follows the last wanted one of this name, and all other tags stay as they are.
-/

namespace Reconciliation.ImageStream

/-- The names of tags. -/
def names (tags : List TagReference) : List String := tags.map (·.name)

/-- The last of the tags of a name. -/
def lastNamed? (name : String) (tags : List TagReference) : Option TagReference :=
  tags.reverse.find? (·.name = name)

/-- A tag that takes what it stands for and how it is imported from the last wanted tag of its name, if there is one. -/
def follow (wanted : List TagReference) (tag : TagReference) : TagReference :=
  match lastNamed? tag.name wanted with
  | none => tag
  | some last => { tag with source := last.source, importPolicy := last.importPolicy }

/-- The wanted tags of names that are not among the given ones, in order and the first of each name only. -/
def newTags (known : List String) (wanted : List TagReference) : List TagReference :=
  (wanted.filter (·.name ∉ known)).eraseDupsBy fun a b => a.name == b.name

/-- The tags, of which those whose names have not been seen before become others. -/
def mapFirsts (f : TagReference → TagReference) (seen : List String) : List TagReference → List TagReference
  | [] => []
  | tag :: rest => (if tag.name ∈ seen then tag else f tag) :: mapFirsts f (tag.name :: seen) rest

section Following

variable {wanted : List TagReference} {tag : TagReference} {name : String}

/-- Among tags there is a first one of each of their names. -/
theorem exists_first {tags : List TagReference} (listed : tag ∈ tags) :
    ∃ first, tags.find? (·.name = tag.name) = some first := by
  rw [← Option.isSome_iff_exists, List.find?_isSome]
  exact ⟨tag, listed, by simp⟩

theorem lastNamed?_append (name : String) (tags others : List TagReference) :
    lastNamed? name (tags ++ others) = (lastNamed? name others).or (lastNamed? name tags) := by
  simp only [lastNamed?, List.reverse_append, List.find?_append]

theorem name_of_lastNamed? (found : lastNamed? name wanted = some tag) : tag.name = name := by
  simpa using List.find?_some found

@[simp] theorem name_follow (wanted : List TagReference) (tag : TagReference) : (follow wanted tag).name = tag.name := by
  rw [follow]
  split <;> rfl

theorem follow_of_some {last : TagReference} (found : lastNamed? tag.name wanted = some last) :
    follow wanted tag = { tag with source := last.source, importPolicy := last.importPolicy } := by
  rw [follow, found]

theorem follow_of_none (unfound : lastNamed? tag.name wanted = none) : follow wanted tag = tag := by
  rw [follow, unfound]

theorem follow_of_not_mem (absent : tag.name ∉ names wanted) : follow wanted tag = tag := by
  apply follow_of_none
  rw [lastNamed?, List.find?_eq_none]
  intro other listed
  have within := List.mem_map_of_mem (f := TagReference.name) (List.mem_reverse.mp listed)
  simpa using fun same : other.name = tag.name => absent (same ▸ within)

/-- To follow tags is to follow the first and then the others. -/
theorem follow_cons (first : TagReference) (rest : List TagReference) (tag : TagReference) :
    follow (first :: rest) tag = follow rest (follow [first] tag) := by
  have both : lastNamed? tag.name (first :: rest) = (lastNamed? tag.name rest).or (lastNamed? tag.name [first]) :=
    lastNamed?_append tag.name [first] rest
  have kept : lastNamed? (follow [first] tag).name rest = lastNamed? tag.name rest := by rw [name_follow]
  cases later : lastNamed? tag.name rest with
  | none =>
    rw [later] at both kept
    rw [follow_of_none kept]
    cases here : lastNamed? tag.name [first] with
    | none => rw [follow_of_none (both.trans here), follow_of_none here]
    | some own => rw [follow_of_some (both.trans here), follow_of_some here]
  | some last =>
    rw [later] at both kept
    rw [follow_of_some both, follow_of_some kept]
    cases here : lastNamed? tag.name [first] with
    | none => rw [follow_of_none here]
    | some own => rw [follow_of_some here]

theorem follow_follow (wanted : List TagReference) (tag : TagReference) :
    follow wanted (follow wanted tag) = follow wanted tag := by
  cases found : lastNamed? tag.name wanted with
  | none => rw [follow_of_none found, follow_of_none found]
  | some last =>
    have again : lastNamed? (follow wanted tag).name wanted = some last := by rw [name_follow, found]
    rw [follow_of_some again, follow_of_some found]

theorem value_editTag (tag : TagReference) {goal : TagReference} (named : tag.name = goal.name) :
    (editTag tag goal).value = follow [goal] tag := by
  have found : lastNamed? tag.name [goal] = some goal := by simp [lastNamed?, named]
  rw [follow_of_some found]
  rfl

end Following

section Firsts

variable {f : TagReference → TagReference} {seen : List String} {tags others : List TagReference}

theorem mapFirsts_cons (f : TagReference → TagReference) (seen : List String) (tag : TagReference)
    (rest : List TagReference) :
    mapFirsts f seen (tag :: rest) =
      (if tag.name ∈ seen then tag else f tag) :: mapFirsts f (tag.name :: seen) rest := rfl

theorem names_mapFirsts (kept : ∀ tag, (f tag).name = tag.name) (seen : List String) (tags : List TagReference) :
    names (mapFirsts f seen tags) = names tags := by
  induction tags generalizing seen with
  | nil => rfl
  | cons tag rest ih =>
    have head : (if tag.name ∈ seen then tag else f tag).name = tag.name := by
      split
      · rfl
      · exact kept tag
    rw [names, mapFirsts_cons, List.map_cons, head]
    exact congrArg (tag.name :: ·) (ih (tag.name :: seen))

theorem mapFirsts_congr {g : TagReference → TagReference} (same : ∀ tag ∈ tags, f tag = g tag) :
    mapFirsts f seen tags = mapFirsts g seen tags := by
  induction tags generalizing seen with
  | nil => rfl
  | cons tag rest ih =>
    rw [List.forall_mem_cons] at same
    rw [mapFirsts_cons, mapFirsts_cons, same.1, ih same.2]

theorem mapFirsts_mapFirsts (kept : ∀ tag, (f tag).name = tag.name) (g : TagReference → TagReference)
    (seen : List String) (tags : List TagReference) :
    mapFirsts g seen (mapFirsts f seen tags) = mapFirsts (fun tag => g (f tag)) seen tags := by
  induction tags generalizing seen with
  | nil => rfl
  | cons tag rest ih =>
    simp only [mapFirsts_cons]
    split
    · rw [ih]
    · next new => rw [kept, if_neg new, ih]

theorem mapFirsts_of_fixed (fixed : ∀ tag ∈ tags, tag.name ∉ seen → f tag = tag) : mapFirsts f seen tags = tags := by
  induction tags generalizing seen with
  | nil => rfl
  | cons tag rest ih =>
    rw [List.forall_mem_cons] at fixed
    have head : (if tag.name ∈ seen then tag else f tag) = tag := by
      split
      · rfl
      · next new => exact fixed.1 new
    rw [mapFirsts_cons, head, ih fun other later new => fixed.2 other later fun known => new (List.mem_cons_of_mem _ known)]

/-- Tags at the end that would stay the same stay in any case. -/
theorem mapFirsts_append_of_fixed (fixed : ∀ tag ∈ others, f tag = tag) :
    mapFirsts f seen (tags ++ others) = mapFirsts f seen tags ++ others := by
  induction tags generalizing seen with
  | nil => exact mapFirsts_of_fixed fun tag listed _ => fixed tag listed
  | cons tag rest ih => rw [List.cons_append, mapFirsts_cons, mapFirsts_cons, ih, List.cons_append]

theorem getElem?_mapFirsts (f : TagReference → TagReference) (seen : List String) (tags : List TagReference)
    (index : Nat) :
    (mapFirsts f seen tags)[index]? =
      tags[index]?.map fun tag => if tag.name ∈ seen ∨ tag.name ∈ names (tags.take index) then tag else f tag := by
  induction tags generalizing seen index with
  | nil => rfl
  | cons tag rest ih =>
    cases index with
    | zero => simp [mapFirsts_cons, names]
    | succ index =>
      rw [mapFirsts_cons, List.getElem?_cons_succ, List.getElem?_cons_succ, ih]
      congr 1
      funext other
      simp only [names, List.take_succ_cons, List.map_cons, List.mem_cons, or_left_comm, or_assoc]

/-- Look-ups by name meet first tags only. -/
theorem find?_mapFirsts (kept : ∀ tag, (f tag).name = tag.name) {name : String} (unseen : name ∉ seen)
    (tags : List TagReference) :
    (mapFirsts f seen tags).find? (·.name = name) = (tags.find? (·.name = name)).map f := by
  induction tags generalizing seen with
  | nil => rfl
  | cons tag rest ih =>
    by_cases named : tag.name = name
    · subst named
      simp [mapFirsts_cons, unseen, kept]
    · have head : (if tag.name ∈ seen then tag else f tag).name ≠ name := by split <;> simp [kept, named]
      have new : name ∉ tag.name :: seen := by simp [unseen, Ne.symm named]
      rw [mapFirsts_cons, List.find?_cons_of_neg (by simpa using head), List.find?_cons_of_neg (by simpa using named), ih new]

end Firsts

section Adding

variable {known : List String} {wanted : List TagReference}

theorem newTags_cons (known : List String) (first : TagReference) (rest : List TagReference) :
    newTags known (first :: rest) =
      if first.name ∈ known then newTags known rest else first :: newTags (known ++ [first.name]) rest := by
  split
  · next old => simp [newTags, old]
  · next new =>
    have kept : (rest.filter (·.name ∉ known)).filter (fun tag => (tag.name == first.name) = false) =
        rest.filter (·.name ∉ known ++ [first.name]) := by
      rw [List.filter_filter]
      apply List.filter_congr
      intro tag _
      simp [and_comm]
    rw [newTags, List.filter_cons_of_pos (by simpa using new), List.eraseDupsBy_cons, kept]
    rfl

theorem newTags_singleton (known : List String) (tag : TagReference) :
    newTags known [tag] = if tag.name ∈ known then [] else [tag] := newTags_cons known tag []

/-- The first new tags, and then those that are new beside them. -/
theorem newTags_cons_eq_append (known : List String) (first : TagReference) (rest : List TagReference) :
    newTags known (first :: rest) =
      newTags known [first] ++ newTags (known ++ names (newTags known [first])) rest := by
  rw [newTags_cons, newTags_singleton]
  split <;> simp [names]

theorem not_mem_of_mem_newTags {tag : TagReference} (new : tag ∈ newTags known wanted) : tag.name ∉ known := by
  induction wanted generalizing known with
  | nil => cases new
  | cons first rest ih =>
    rw [newTags_cons] at new
    split at new
    · exact ih new
    · next absent =>
      rcases List.mem_cons.mp new with rfl | later
      · exact absent
      · exact fun listed => ih later (List.mem_append_left _ listed)

/-- What is wanted is known or new. -/
theorem mem_known_or_newTags {tag : TagReference} (listed : tag ∈ wanted) :
    tag.name ∈ known ++ names (newTags known wanted) := by
  induction wanted generalizing known with
  | nil => cases listed
  | cons first rest ih =>
    have first_listed : first.name ∈ known ++ names (newTags known [first]) := by
      rw [newTags_singleton]
      split <;> simp_all [names]
    rw [newTags_cons_eq_append, names, List.map_append, ← List.append_assoc]
    rcases List.mem_cons.mp listed with rfl | later
    · exact List.mem_append_left _ first_listed
    · exact ih later

/-- The first wanted tag of a new name is the one that is added. -/
theorem find?_newTags {name : String} (unknown : name ∉ known) (wanted : List TagReference) :
    (newTags known wanted).find? (·.name = name) = wanted.find? (·.name = name) := by
  induction wanted generalizing known with
  | nil => rfl
  | cons first rest ih =>
    rw [newTags_cons]
    by_cases named : first.name = name
    · subst named
      simp [unknown]
    · rw [List.find?_cons_of_neg (by simpa using named)]
      split
      · exact ih unknown
      · rw [List.find?_cons_of_neg (by simpa using named)]
        exact ih (by simp [unknown, Ne.symm named])

end Adding

section Merging

variable {tags wanted : List TagReference}

/-- The tags and the new ones, of which the first of each name follows the wanted ones. -/
def merged (tags wanted : List TagReference) : List TagReference :=
  mapFirsts (follow wanted) [] (tags ++ newTags (names tags) wanted)

theorem names_merged (tags wanted : List TagReference) :
    names (merged tags wanted) = names tags ++ names (newTags (names tags) wanted) := by
  rw [merged, names_mapFirsts (name_follow wanted), names, List.map_append]
  rfl

/-- To merge one tag. The names that have been seen are those of the tags in front. -/
theorem value_mergeTag (wanted : TagReference) {seen : List String} (unseen : wanted.name ∉ seen)
    (tags : List TagReference) :
    (mergeTag wanted tags).value = mapFirsts (follow [wanted]) seen (tags ++ newTags (names tags) [wanted]) := by
  have others {tag : TagReference} (different : tag.name ≠ wanted.name) : follow [wanted] tag = tag :=
    follow_of_not_mem (by simpa [names] using different)
  induction tags generalizing seen with
  | nil =>
    have itself : follow [wanted] wanted = wanted := (value_editTag wanted rfl).symm
    rw [newTags_singleton, if_neg (by simp [names]), List.nil_append, mapFirsts_cons, if_neg unseen, itself]
    rfl
  | cons tag rest ih =>
    rw [List.cons_append, mapFirsts_cons, mergeTag]
    by_cases named : tag.name = wanted.name
    · have nothing : newTags (names (tag :: rest)) [wanted] = [] := by
        rw [newTags_singleton, if_pos (by simp [names, named])]
      have kept : mapFirsts (follow [wanted]) (tag.name :: seen) rest = rest :=
        mapFirsts_of_fixed fun other _ new => others fun same => new (by simp [named, same])
      rw [if_pos named, nothing, List.append_nil, kept, if_neg (by simpa [named] using unseen), ← value_editTag tag named]
      rfl
    · have unchanged : newTags (names (tag :: rest)) [wanted] = newTags (names rest) [wanted] := by
        simp only [newTags_singleton, names, List.map_cons, List.mem_cons, Ne.symm named, false_or]
      have new : wanted.name ∉ tag.name :: seen := by simp [unseen, Ne.symm named]
      rw [if_neg named, unchanged, others named, ite_self, ← ih new]
      rfl

/-- Merging wanted tags is merging the first and then the others. -/
theorem merged_cons (tags : List TagReference) (first : TagReference) (rest : List TagReference) :
    merged tags (first :: rest) = merged (merged tags [first]) rest := by
  let grown := tags ++ newTags (names tags) [first]
  let added := newTags (names tags ++ names (newTags (names tags) [first])) rest
  -- tags that are added later have other names than the first wanted one
  have fixed : ∀ tag ∈ added, follow [first] tag = tag := by
    intro tag new
    have listed : first.name ∈ names tags ++ names (newTags (names tags) [first]) :=
      mem_known_or_newTags (List.mem_singleton_self first)
    have different : tag.name ≠ first.name := fun same => not_mem_of_mem_newTags new (same ▸ listed)
    exact follow_of_not_mem (by simpa [names] using different)
  calc merged tags (first :: rest)
      = mapFirsts (follow (first :: rest)) [] (grown ++ added) := by
        rw [merged, newTags_cons_eq_append, ← List.append_assoc]
    _ = mapFirsts (fun tag => follow rest (follow [first] tag)) [] (grown ++ added) :=
        mapFirsts_congr fun tag _ => follow_cons first rest tag
    _ = mapFirsts (follow rest) [] (mapFirsts (follow [first]) [] (grown ++ added)) :=
        (mapFirsts_mapFirsts (name_follow [first]) (follow rest) [] (grown ++ added)).symm
    _ = mapFirsts (follow rest) [] (merged tags [first] ++ added) := by
        rw [mapFirsts_append_of_fixed fixed]
        rfl
    _ = merged (merged tags [first]) rest := by
        rw [merged.eq_def (merged tags [first]), names_merged]

/-- What a run over all wanted tags leaves. -/
theorem value_foldl_mergeTag (tags wanted : List TagReference) :
    (wanted.foldl (fun edit goal => Edit.bind edit (mergeTag goal)) (Edit.keep tags)).value = merged tags wanted := by
  induction wanted generalizing tags with
  | nil =>
    have kept : mapFirsts (follow []) [] tags = tags := mapFirsts_of_fixed fun _ _ _ => rfl
    rw [merged, newTags, List.filter_nil, List.eraseDupsBy_nil, List.append_nil, kept]
    rfl
  | cons first rest ih =>
    have one : (mergeTag first tags).value = merged tags [first] := value_mergeTag first List.not_mem_nil tags
    rw [Edit.foldl_bind_cons, Edit.value_bind, ih, one]
    exact (merged_cons tags first rest).symm

/-- Nothing is new to merged tags, and they follow already. -/
theorem merged_merged (tags wanted : List TagReference) : merged (merged tags wanted) wanted = merged tags wanted := by
  have nothing : newTags (names (merged tags wanted)) wanted = [] := by
    rw [names_merged, newTags, List.filter_eq_nil_iff.mpr, List.eraseDupsBy_nil]
    intro tag listed
    rw [decide_eq_true_iff, not_not]
    exact mem_known_or_newTags listed
  calc merged (merged tags wanted) wanted
      = mapFirsts (follow wanted) [] (merged tags wanted) := by
        rw [merged, nothing, List.append_nil]
    _ = mapFirsts (fun tag => follow wanted (follow wanted tag)) [] (tags ++ newTags (names tags) wanted) :=
        mapFirsts_mapFirsts (name_follow wanted) (follow wanted) [] _
    _ = merged tags wanted := mapFirsts_congr fun tag _ => follow_follow wanted tag

/-- The first merged tag of a name comes from the first tag of the name, or else from the first wanted one. -/
theorem find?_merged (tags wanted : List TagReference) (name : String) :
    (merged tags wanted).find? (·.name = name) = ((tags ++ wanted).find? (·.name = name)).map (follow wanted) := by
  rw [merged, find?_mapFirsts (name_follow wanted) List.not_mem_nil, List.find?_append, List.find?_append]
  by_cases known : name ∈ names tags
  · obtain ⟨tag, listed, named⟩ := List.mem_map.mp known
    obtain ⟨first, here⟩ := exists_first listed
    rw [← named, here, Option.some_or, Option.some_or]
  · rw [find?_newTags known]

/-- The first merged tag of a wanted name takes over from the last wanted tag of the name. -/
theorem find?_merged_of_mem {goal : TagReference} (listed : goal ∈ wanted) :
    ∃ first last, (tags ++ wanted).find? (·.name = goal.name) = some first ∧
      lastNamed? goal.name wanted = some last ∧
      (merged tags wanted).find? (·.name = goal.name) =
        some { first with source := last.source, importPolicy := last.importPolicy } := by
  obtain ⟨first, here⟩ := exists_first (List.mem_append_right tags listed)
  obtain ⟨last, found⟩ := exists_first (List.mem_reverse.mpr listed)
  have named : first.name = goal.name := by simpa using List.find?_some here
  refine ⟨first, last, here, found, ?_⟩
  rw [find?_merged, here, Option.map_some, follow_of_some (named ▸ found)]

end Merging

theorem object_mutate_tags (existing desired : Object ImageStream) :
    (Rule.tags.mutate existing desired).object =
      existing.withContent { spec := { tags := merged existing.content.spec.tags desired.content.spec.tags } } :=
  congrArg (fun tags => existing.withContent { spec := { tags } }) (value_foldl_mergeTag _ _)

/-- There is nothing to do for tags that have been merged exactly if wanted tags of one name agree. -/
theorem quiet_again_iff (existing desired : Object ImageStream) :
    Rule.tags.mutate.Quiet desired (Rule.tags.mutate existing desired).object ↔ Rule.tags.Accepts desired.content := by
  let wanted := desired.content.spec.tags
  let left := merged existing.content.spec.tags wanted
  have settled : Rule.tags.mutate.Quiet desired (Rule.tags.mutate existing desired).object ↔
      ∀ goal ∈ wanted, mergeTag goal left = .keep left := by
    rw [object_mutate_tags, ← Edit.changed_foldl_eq_false_iff fun _ _ => mergeTag_of_unchanged]
    exact ⟨Except.ok.inj, congrArg Except.ok⟩
  rw [settled]
  simp only [mergeTag_eq_keep_iff]
  constructor
  · intro all a listed b alsoListed named
    obtain ⟨tag, found, agrees⟩ := all a listed
    obtain ⟨other, alsoFound, alsoAgrees⟩ := all b alsoListed
    rw [← named, found, Option.some.injEq] at alsoFound
    subst alsoFound
    exact ⟨agrees.1.symm.trans alsoAgrees.1, agrees.2.symm.trans alsoAgrees.2⟩
  · intro agree goal listed
    obtain ⟨first, last, -, final, merged⟩ := @find?_merged_of_mem existing.content.spec.tags wanted goal listed
    have among : last ∈ wanted := List.mem_reverse.mp (List.mem_of_find?_eq_some final)
    exact ⟨_, merged, agree last among goal listed (name_of_lastNamed? final)⟩

/-- Tags are merged by name. The first tag of every wanted name, which is the first wanted one if there was none, takes
what it stands for and how it is imported from the last wanted tag of the name. The wanted tags of new names are added
behind the old ones, the first of each name in their order, and all else stays as it is and where it is. A second run
leaves the same tags, and has nothing to report exactly if wanted tags of one name agree, as they do if all names are
different. -/
theorem tags_merge_by_name (existing desired : Object ImageStream) :
    let before := existing.content.spec.tags
    let wanted := desired.content.spec.tags
    let all := before ++ newTags (names before) wanted
    let once := Rule.tags.mutate existing desired
    let twice := Rule.tags.mutate once.object desired
    let after := once.object.content.spec.tags
    once.Succeeds ∧ once.object = existing.withContent { spec := { tags := after } } ∧
      (∀ goal ∈ wanted, ∃ first last, (before ++ wanted).find? (·.name = goal.name) = some first ∧
        lastNamed? goal.name wanted = some last ∧
        after.find? (·.name = goal.name) =
          some { first with source := last.source, importPolicy := last.importPolicy }) ∧
      (∀ index : Nat, after[index]? =
        all[index]?.map fun tag => if tag.name ∈ names (all.take index) then tag else follow wanted tag) ∧
      twice.object = once.object ∧ (twice.outcome = .ok false ↔ Rule.tags.Accepts desired.content) ∧
      ((names wanted).Nodup → twice.outcome = .ok false) := by
  intro before wanted all once twice after
  have left : once.object = existing.withContent { spec := { tags := merged before wanted } } :=
    object_mutate_tags existing desired
  have tags : after = merged before wanted := congrArg (·.content.spec.tags) left
  have again : twice.object = once.object := by
    have repeated : twice.object = once.object.withContent { spec := { tags := merged after wanted } } :=
      object_mutate_tags once.object desired
    rw [repeated, tags, merged_merged, left]
    rfl
  have quiet : twice.outcome = .ok false ↔ Rule.tags.Accepts desired.content := quiet_again_iff existing desired
  refine ⟨⟨_, rfl⟩, tags ▸ left, fun goal listed => ?_, fun index => ?_, again, quiet, fun distinct => quiet.mpr ?_⟩
  · rw [tags]
    exact find?_merged_of_mem listed
  · rw [tags, merged, getElem?_mapFirsts]
    simp only [List.not_mem_nil, false_or]
    rfl
  · intro a listed b alsoListed named
    obtain rfl : a = b := List.inj_on_of_nodup_map distinct listed alsoListed named
    exact ⟨rfl, rfl⟩

/-- Names are repeated on both sides. The first of two tags follows the last wanted one and keeps its annotations, and
what follows the first tag that is added does so in its place. As wanted tags of one name do not agree, the second run
changes them back and forth. -/
theorem tags_merge_by_name_of_repeated :
    let image (name text : String) : TagReference := { name, source := some { kind := "DockerImage", name := text } }
    let annotated : TagReference := { image "latest" "shop:1" with annotations := some (.ofList [("pinned", "no")]) }
    let stream (tags : List TagReference) : Object ImageStream := ⟨{}, { spec := { tags } }⟩
    let existing := stream [annotated, image "old" "shop:0", image "latest" "shop:0"]
    let desired := stream [image "latest" "shop:2", image "next" "shop:3", image "latest" "shop:4", image "next" "shop:5"]
    let once := Rule.tags.mutate existing desired
    let twice := Rule.tags.mutate once.object desired
    once.object = stream [{ annotated with source := some { kind := "DockerImage", name := "shop:4" } },
        image "old" "shop:0", image "latest" "shop:0", image "next" "shop:5"] ∧
      twice.object = once.object ∧ twice.outcome ≠ .ok false := by
  intro image annotated stream existing desired once twice
  obtain ⟨-, -, -, -, again, quiet, -⟩ := tags_merge_by_name existing desired
  refine ⟨by decide +kernel, again, fun unreported => ?_⟩
  have agree := quiet.mp unreported (image "next" "shop:3") (by decide) (image "next" "shop:5") (by decide) rfl
  exact absurd agree.1 (by decide)

end Reconciliation.ImageStream
