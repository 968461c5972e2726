import Reconciliation.Api.Request

/-! # Where objects are

A name and a namespace that are proper steps of a path make an address that can be sent, and whose target is the
path of the object. No two such objects have the same path, whatever their kinds are: the steps of a path tell the
kind, the namespace and the name.
-/

namespace Reconciliation

/-- A text that can be a step of a path, no longer than names of objects can be. -/
structure IsStep (text : String) : Prop where
  nonempty : text.isEmpty = false
  short : text.utf8ByteSize ≤ 253
  fits : text.toList.all Api.Target.isPathChar = true
  whole : '/' ∉ text.toList

/-- A place whose namespace and name are steps. -/
structure Place.IsProper (place : Place) : Prop where
  namespaceName : IsStep place.namespaceName
  name : IsStep place.name

/-- The steps of a path, between its slashes. -/
def stepsOf (path : List Char) : List (List Char) := path.splitOn '/'

theorem stepsOf_append (before after : List Char) :
    stepsOf (before ++ '/' :: after) = stepsOf before ++ stepsOf after :=
  List.splitOnP_append_cons before after (beq_self_eq_true '/')

theorem stepsOf_of_whole {text : List Char} (whole : '/' ∉ text) : stepsOf text = [text] :=
  List.splitOn_eq_singleton whole

theorem one_le_length_stepsOf (text : List Char) : 1 ≤ (stepsOf text).length :=
  List.length_pos_iff.mpr (List.splitOnP_ne_nil _ _)

/-- A text whose only step is known is that step. -/
theorem eq_of_stepsOf_eq {text : List Char} {step : List Char} (one : stepsOf text = [step]) : text = step := by
  have joined := @List.intercalate_splitOn Char text _ _ '/'
  rw [show text.splitOn '/' = [step] from one] at joined
  simpa using joined.symm

namespace Kind

/-- The steps of the path below which all collections of a kind's group and version are. -/
def rootSteps (kind : Kind) : List (List Char) :=
  if kind.group.isEmpty then [[], "api".toList, kind.version.toList]
  else [[], "apis".toList, kind.group.toList, kind.version.toList]

theorem stepsOf_rootPath (kind : Kind) : stepsOf kind.rootPath.toList = kind.rootSteps := by
  have version : '/' ∉ kind.version.toList := by cases kind <;> decide
  have group : '/' ∉ kind.group.toList := by cases kind <;> decide
  rw [rootPath, apiVersion, rootSteps]
  split
  · have path : ("/api/" ++ kind.version).toList = [] ++ '/' :: ("api".toList ++ '/' :: kind.version.toList) := by simp
    rw [path, stepsOf_append, stepsOf_append, stepsOf_of_whole version]
    rfl
  · have path : ("/apis/" ++ (kind.group ++ "/" ++ kind.version)).toList =
        [] ++ '/' :: ("apis".toList ++ '/' :: (kind.group.toList ++ '/' :: kind.version.toList)) := by simp
    rw [path, stepsOf_append, stepsOf_append, stepsOf_append, stepsOf_of_whole group, stepsOf_of_whole version]
    rfl

theorem toList_itemPath (kind : Kind) (place : Place) :
    (kind.itemPath place).toList =
      kind.rootPath.toList ++ '/' :: ("namespaces".toList ++ '/' :: (place.namespaceName.toList ++
        '/' :: (kind.plural.toList ++ '/' :: place.name.toList))) := by
  simp [itemPath, collectionPath, List.append_assoc]

theorem stepsOf_itemPath (kind : Kind) (place : Place) :
    stepsOf (kind.itemPath place).toList =
      kind.rootSteps ++ (["namespaces".toList] ++ (stepsOf place.namespaceName.toList ++
        ([kind.plural.toList] ++ stepsOf place.name.toList))) := by
  have plural : '/' ∉ kind.plural.toList := by cases kind <;> decide
  rw [toList_itemPath, stepsOf_append, stepsOf_append, stepsOf_append, stepsOf_append, stepsOf_rootPath,
    stepsOf_of_whole plural, stepsOf_of_whole (by decide : '/' ∉ "namespaces".toList)]

theorem plural_injective {kind other : Kind} (same : kind.plural = other.plural) : kind = other := by
  have distinct : ∀ kind ∈ all, ∀ other ∈ all, kind.plural = other.plural → kind = other := by decide
  exact distinct kind kind.mem_all other other.mem_all same

/-- The first steps of a path tell how many of them belong to the root. -/
theorem length_rootSteps_eq {kind other : Kind} {rest others : List (List Char)}
    (same : kind.rootSteps ++ rest = other.rootSteps ++ others) : kind.rootSteps.length = other.rootSteps.length := by
  simp only [rootSteps] at same ⊢
  split at same <;> split at same <;> simp_all

/-- What is under the path of a proper place is of that kind and at that place. -/
theorem eq_of_itemPath_eq {kind other : Kind} {place elsewhere : Place} (proper : place.IsProper)
    (same : other.itemPath elsewhere = kind.itemPath place) : other = kind ∧ elsewhere = place := by
  have steps := congrArg (fun path : String => stepsOf path.toList) same
  simp only [stepsOf_itemPath, stepsOf_of_whole proper.namespaceName.whole, stepsOf_of_whole proper.name.whole] at steps
  have roots := length_rootSteps_eq steps
  have rest := List.append_inj_right steps roots
  have total := congrArg List.length rest
  have first := one_le_length_stepsOf elsewhere.namespaceName.toList
  have last := one_le_length_stepsOf elsewhere.name.toList
  simp only [List.length_append, List.length_singleton] at total
  have namespaces := List.append_inj_right rest rfl
  obtain ⟨namespaceName, tail⟩ := List.append_inj namespaces (by simp only [List.length_singleton]; omega)
  obtain ⟨plural, name⟩ := List.append_inj tail rfl
  have kinds : other = kind := plural_injective (String.ext (List.singleton_inj.mp plural))
  obtain ⟨otherNamespace, otherName⟩ := elsewhere
  obtain rfl : otherNamespace = place.namespaceName := String.ext (eq_of_stepsOf_eq namespaceName)
  obtain rfl : otherName = place.name := String.ext (eq_of_stepsOf_eq name)
  exact ⟨kinds, rfl⟩

end Kind

namespace Api

/-- A text of characters that can stand in a path, and of no more bytes than the bound. -/
structure FitsPath (bound : Nat) (text : String) : Prop where
  fits : text.toList.all Target.isPathChar = true
  short : text.utf8ByteSize ≤ bound

namespace FitsPath

variable {bound more : Nat} {text other : String}

theorem append (first : FitsPath bound text) (second : FitsPath more other) :
    FitsPath (bound + more) (text ++ other) where
  fits := by rw [String.toList_append, List.all_append, first.fits, second.fits, Bool.and_self]
  short := by
    rw [String.utf8ByteSize_append]
    exact Nat.add_le_add first.short second.short

theorem mono (first : FitsPath bound text) (below : bound ≤ more) : FitsPath more text :=
  ⟨first.fits, Nat.le_trans first.short below⟩

instance (bound : Nat) (text : String) : Decidable (FitsPath bound text) :=
  decidable_of_iff (text.toList.all Target.isPathChar = true ∧ text.utf8ByteSize ≤ bound)
    ⟨fun ⟨fits, short⟩ => ⟨fits, short⟩, fun ⟨fits, short⟩ => ⟨fits, short⟩⟩

theorem of_step (step : IsStep text) : FitsPath 253 text := ⟨step.fits, step.short⟩

theorem root (kind : Kind) : FitsPath 112 (kind.rootPath ++ "/namespaces/") := by
  have roots : ∀ kind ∈ Kind.all, FitsPath 100 kind.rootPath := by decide +kernel
  have namespaces : FitsPath 12 "/namespaces/" := by decide +kernel
  exact (roots kind kind.mem_all).append namespaces

theorem collectionPath (kind : Kind) (step : IsStep text) : FitsPath 500 (kind.collectionPath text) := by
  have plurals : ∀ kind ∈ Kind.all, FitsPath 100 kind.plural := by decide +kernel
  have slash : FitsPath 1 "/" := by decide +kernel
  exact ((((root kind).append (of_step step)).append slash).append (plurals kind kind.mem_all)).mono (by decide)

theorem itemPath (kind : Kind) {place : Place} (proper : place.IsProper) : FitsPath 800 (kind.itemPath place) := by
  have slash : FitsPath 1 "/" := by decide +kernel
  exact (((collectionPath kind proper.namespaceName).append slash).append (of_step proper.name)).mono (by decide)

end FitsPath

namespace Request

/-- What follows the subject of a request is nothing or a query. -/
theorem parameters_cases (request : Request) :
    request.parameters = "" ∨ ∃ query : String, request.parameters = "?" ++ query ∧
      query.toList.all Target.isQueryChar = true ∧ query.utf8ByteSize ≤ 100 := by
  cases request with
  | create _ _ | replace _ _ => exact .inr ⟨"&fieldManager=" ++ fieldManager, rfl, by decide +kernel, by decide +kernel⟩
  | remove _ _ _ => exact .inr ⟨"", rfl, rfl, by decide⟩
  | _ => exact .inl rfl

/-- A request about something whose path fits can be sent, and its target is that path. -/
theorem sent_of_fitsPath {request : Request} (fits : FitsPath 800 request.subject) :
    Target.problem? request.address = none ∧ request.path = request.subject := by
  have sent {query : String} (plain : query.toList.all Target.isQueryChar = true)
      (target : Target.ofString request.address = ⟨request.subject, query⟩)
      (short : request.address.utf8ByteSize ≤ Target.maxLength) :
      Target.problem? request.address = none ∧ request.path = request.subject := by
    have valid : (Target.ofString request.address).isValid = true := by
      rw [target, Target.isValid, fits.fits, plain, Bool.and_self]
    exact ⟨by rw [Target.problem?, if_neg (Nat.not_lt.mpr short), if_pos valid],
      by rw [path, Request.target, target]⟩
  rcases request.parameters_cases with nothing | ⟨query, some_query, plain, short⟩
  · have address : request.address = request.subject := by rw [Request.address, nothing, String.append_empty]
    refine @sent "" rfl (by rw [address, Target.ofString_path fits.fits]) ?_
    rw [address]
    exact Nat.le_trans fits.short (by decide)
  · have address : request.address = request.subject ++ "?" ++ query := by
      rw [Request.address, some_query, String.append_assoc]
    refine sent ?_ (by rw [address, Target.ofString_path_query fits.fits plain]) ?_
    · rw [String.toList_ofList]
      exact List.all_eq_true.mpr fun char within =>
        List.all_eq_true.mp plain char ((List.dropWhile_sublist _).subset within)
    · have mark : "?".utf8ByteSize = 1 := by decide
      have long := fits.short
      rw [address, String.utf8ByteSize_append, String.utf8ByteSize_append, mark]
      refine Nat.le_trans (Nat.add_le_add (Nat.add_le_add_right long 1) short) (by decide)

/-- A request about an object at a proper place, or about its collection, can be sent, and its target is that path. -/
theorem sent_of_proper {kind : Kind} {place : Place} (proper : place.IsProper) {request : Request}
    (subject : request.subject = kind.itemPath place ∨ request.subject = kind.collectionPath place.namespaceName) :
    Target.problem? request.address = none ∧ request.path = request.subject := by
  apply sent_of_fitsPath
  rcases subject with item | collection
  · exact item ▸ FitsPath.itemPath kind proper
  · exact collection ▸ (FitsPath.collectionPath kind proper.namespaceName).mono (by decide)

end Request

end Api

end Reconciliation
