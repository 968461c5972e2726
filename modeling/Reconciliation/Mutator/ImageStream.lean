import Reconciliation.Mutation

/-! # Mutators of image streams

Tags are merged by name. Tags that only the existing stream has are kept.
-/

namespace Reconciliation.ImageStream

/-- What a tag stands for and how it is imported follow; the rest of the tag is kept. -/
def editTag (current wanted : TagReference) : Edit TagReference :=
  ((Edit.replace current.source wanted.source).map fun source => { current with source }).bind
    fun current =>
      (Edit.replace current.importPolicy wanted.importPolicy).map fun importPolicy =>
        { current with importPolicy }

/-- Edit the first tag of the wanted name, or add the wanted tag if there is none. -/
def mergeTag (wanted : TagReference) : List TagReference → Edit (List TagReference)
  | [] => ⟨[wanted], true⟩
  | tag :: rest =>
      if tag.name = wanted.name then (editTag tag wanted).map (· :: rest)
      else (mergeTag wanted rest).map (tag :: ·)

/-- Merge the wanted tags in order. -/
def followTags (existing desired : ImageStream) : Edit ImageStream :=
  (desired.spec.tags.foldl (fun edit wanted => Edit.bind edit (mergeTag wanted))
    (Edit.keep existing.spec.tags)).map fun tags => { spec := { tags } }

inductive Rule
  | tags
deriving DecidableEq, Repr

def Rule.mutate : Rule → Mutate (Object ImageStream)
  | tags => .ofContentEdit followTags

end Reconciliation.ImageStream
