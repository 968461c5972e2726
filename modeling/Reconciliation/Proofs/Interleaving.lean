import Reconciliation.Proofs.MetadataGrowth
import Reconciliation.Proofs.VersionedStore
import Mathlib.Logic.Function.Basic

/-! # Calls at the same time

Any number of calls work on one store with versions. Each of them is a program that waits for the answer to
its next request, and the store answers one request after the other, of whichever call. No call locks
anything; what keeps one from overwriting the work of another is the version. An update carries the version
of the object that its call has read, because neither merging nor adopting nor a mutator of the library
touches it, and the store replaces no other version. So where an update succeeds, nothing has been written
there since its call read it.
-/

namespace Reconciliation

/-- A request of one of the calls, and the answer that it got. -/
structure Event (ι : Type) where
  caller : ι
  exchange : Exchange Cluster

namespace Event

variable {ι : Type}

/-- The write that the event has carried out, if it is one. -/
def effect? (event : Event ι) : Option Write :=
  match event.exchange with
  | ⟨.write change, .ok _⟩ => some change
  | _ => none

/-- The write that has failed in the event, if it is one, and why. -/
def failure? (event : Event ι) : Option (Write × Failure) :=
  match event.exchange with
  | ⟨.write change, .error failure⟩ => some (change, failure)
  | _ => none

/-- The event has written at a place. -/
def Writes (event : Event ι) (kind : Kind) (place : Place) : Prop :=
  ∃ change, event.effect? = some change ∧ (change.resource.kind, change.resource.place) = (kind, place)

end Event

/-- The store, and what is left of each call. -/
structure Interleaving (ι : Type) where
  store : VersionedStore
  pending : ι → Program Cluster (Except Failure Outcome)

namespace Interleaving

variable {ι : Type} [DecidableEq ι]

/-- Let one of the calls send its next request, if there is one, and give it the answer. What the request
stores is stamped with a version. -/
def act (state : Interleaving ι) (version : String) (caller : ι) : Option (Event ι × Interleaving ι) :=
  match state.pending caller with
  | .done _ => none
  | .ask request next =>
      let (answer, store) := VersionedStore.handler version request state.store
      some (⟨caller, request, answer⟩,
        { store, pending := Function.update state.pending caller (next answer) })

/-- The states that can be reached, each with the events on the way. The calls go on in any order, and the
store stamps with versions that it has not issued before. -/
inductive Reaches (start : Interleaving ι) : List (Event ι) → Interleaving ι → Prop
  | start : Reaches start [] start
  | act {history : List (Event ι)} {state next : Interleaving ι} {event : Event ι} {version : String}
      {caller : ι} (reached : Reaches start history state) (fresh : version ∉ state.store.issued)
      (acted : state.act version caller = some (event, next)) : Reaches start (history ++ [event]) next

variable {state next : Interleaving ι} {event : Event ι} {version : String} {caller : ι}

/-- A call that goes on has asked a request, and goes on with the answer of the store. -/
theorem act_eq_some (acted : state.act version caller = some (event, next)) :
    ∃ request further, state.pending caller = .ask request further ∧
      let answered := VersionedStore.handler version request state.store
      event = ⟨caller, request, answered.1⟩ ∧
        next = ⟨answered.2, Function.update state.pending caller (further answered.1)⟩ := by
  simp only [act] at acted
  split at acted
  · cases acted
  · next request further asked =>
    cases acted
    exact ⟨request, further, asked, rfl, rfl⟩

/-- The store stays as it is, or it carries out a write that the call has asked for. -/
theorem act_cases (acted : state.act version caller = some (event, next)) :
    (event.effect? = none ∧ next.store = state.store) ∨
      ∃ change further, state.pending caller = .ask (.write change) further ∧
        event.effect? = some change ∧ (state.store.write version change).1 = .ok () ∧
        next.store = (state.store.write version change).2 := by
  obtain ⟨request, further, asked, rfl, rfl⟩ := act_eq_some acted
  cases request with
  | get kind namespaceName name => exact .inl ⟨rfl, rfl⟩
  | probe groupVersion kind => exact .inl ⟨rfl, rfl⟩
  | write change =>
    cases done : (state.store.write version change).1 with
    | error failure =>
      refine .inl ⟨?_, (VersionedStore.write_of_error done).2⟩
      simp only [Event.effect?, VersionedStore.handler, done]
    | ok _ =>
      refine .inr ⟨change, further, asked, ?_, done, rfl⟩
      simp only [Event.effect?, VersionedStore.handler, done]

/-- A write that has been carried out is one that the call asked for and the store accepted. -/
theorem act_of_effect? (acted : state.act version caller = some (event, next)) {change : Write}
    (effect : event.effect? = some change) :
    (state.store.write version change).1 = .ok () ∧ next.store = (state.store.write version change).2 ∧
      ∃ further, state.pending caller = .ask (.write change) further := by
  rcases act_cases acted with ⟨idle, -⟩ | ⟨carried, further, asked, same, done, left⟩
  · cases effect.symm.trans idle
  · obtain rfl := Option.some.inj (effect.symm.trans same)
    exact ⟨done, left, further, asked⟩

/-- A write that has failed is one that the call asked for and the store refused. The call goes on with the
failure. -/
theorem act_of_failure? (acted : state.act version caller = some (event, next)) {change : Write}
    {failure : Failure} (failed : event.failure? = some (change, failure)) :
    (state.store.write version change).1 = .error failure ∧
      next.store = (state.store.write version change).2 ∧
      ∃ further, state.pending caller = .ask (.write change) further ∧
        next.pending caller = further (.error failure) := by
  obtain ⟨request, further, asked, rfl, rfl⟩ := act_eq_some acted
  cases request with
  | get kind namespaceName name => cases failed
  | probe groupVersion kind => cases failed
  | write wanted =>
    cases done : (state.store.write version wanted).1 with
    | ok _ => simp [Event.failure?, VersionedStore.handler, done] at failed
    | error cause =>
      simp only [Event.failure?, VersionedStore.handler, done, Option.some.injEq, Prod.mk.injEq] at failed
      obtain ⟨rfl, rfl⟩ := failed
      refine ⟨done, rfl, further, asked, ?_⟩
      simp only [VersionedStore.handler, done, Function.update_self]

/-- No version is forgotten. -/
theorem issued_act (acted : state.act version caller = some (event, next)) {earlier : String}
    (listed : earlier ∈ state.store.issued) : earlier ∈ next.store.issued := by
  rcases act_cases acted with ⟨-, same⟩ | ⟨change, -, -, -, -, left⟩
  · rwa [same]
  · rw [left]
    exact VersionedStore.issued_write listed

/-- An event that does not write at a place leaves it as it is. -/
theorem get?_act_of_not_writes (acted : state.act version caller = some (event, next)) {kind : Kind}
    {place : Place} (spared : ¬ event.Writes kind place) :
    next.store.inventory.get? kind place = state.store.inventory.get? kind place := by
  rcases act_cases acted with ⟨-, same⟩ | ⟨change, -, -, effect, -, left⟩
  · rw [same]
  · rw [left]
    exact VersionedStore.get?_write_of_ne fun here => spared ⟨change, effect, here⟩

/-- Where an event has written, there is an object with its version or none. -/
theorem version_of_writes (acted : state.act version caller = some (event, next)) {kind : Kind}
    {place : Place} (writes : event.Writes kind place) {stored : kind.Object}
    (found : next.store.inventory.get? kind place = some stored) :
    stored.metadata.resourceVersion = some version := by
  obtain ⟨change, effect, here⟩ := writes
  cases here
  obtain ⟨done, left, -⟩ := act_of_effect? acted effect
  rw [left] at found
  exact VersionedStore.version_of_write done found

/-- An event that reads finds what is stored, and changes nothing. -/
theorem get?_of_act_get {actor : ι} {kind : Kind} {namespaceName name : String} {found : Option kind.Object}
    (acted : state.act version actor = some (⟨caller, .get kind namespaceName name, .ok found⟩, next)) :
    state.store.inventory.get? kind ⟨namespaceName, name⟩ = found ∧ next.store = state.store := by
  obtain ⟨request, further, -, asked, rfl⟩ := act_eq_some acted
  obtain ⟨-, exchanged⟩ := Event.mk.inj asked
  obtain ⟨rfl, answered⟩ := Exchange.mk.inj exchanged
  exact ⟨(Except.ok.inj (eq_of_heq answered)).symm, rfl⟩

variable {start : Interleaving ι} {history : List (Event ι)}

/-- What has been read has a version that was issued before. Since then either nobody has written there, and
it is still what is stored, or whatever is stored there now has another version. -/
theorem Reaches.read_lasts (reached : Reaches start history state) {kind : Kind}
    {namespaceName name : String} {read : kind.Object} {before between : List (Event ι)}
    (split : history = before ++ ⟨caller, .get kind namespaceName name, .ok (some read)⟩ :: between) :
    (∃ earlier ∈ state.store.issued, read.metadata.resourceVersion = some earlier) ∧
      ((∀ event ∈ between, ¬ event.Writes kind ⟨namespaceName, name⟩) ∧
          state.store.inventory.get? kind ⟨namespaceName, name⟩ = some read ∨
        ∀ stored, state.store.inventory.get? kind ⟨namespaceName, name⟩ = some stored →
          stored.metadata.resourceVersion ≠ read.metadata.resourceVersion) := by
  induction reached generalizing between with
  | start => simp at split
  | @act history state next event version actor reached fresh acted ih =>
    rcases List.eq_nil_or_concat between with rfl | ⟨earlier, last, rfl⟩
    · -- the read is the last event
      obtain ⟨rfl, same⟩ := List.append_inj' split rfl
      obtain rfl := List.singleton_inj.mp same
      obtain ⟨found, kept⟩ := get?_of_act_get acted
      rw [kept]
      exact ⟨state.store.versioned _ _ _ found, .inl ⟨fun _ within => absurd within List.not_mem_nil, found⟩⟩
    · rw [List.concat_eq_append, ← List.cons_append, ← List.append_assoc] at split
      obtain ⟨rfl, same⟩ := List.append_inj' split rfl
      obtain rfl := List.singleton_inj.mp same
      obtain ⟨⟨issue, listed, stamped⟩, lasting⟩ := ih rfl
      refine ⟨⟨issue, issued_act acted listed, stamped⟩, ?_⟩
      by_cases writes : event.Writes kind ⟨namespaceName, name⟩
      · -- the version of the read object is not fresh any more
        right
        intro stored found same
        rw [version_of_writes acted writes found, stamped] at same
        cases same
        exact fresh listed
      · rw [get?_act_of_not_writes acted writes]
        refine lasting.imp (fun ⟨spared, still⟩ => ⟨?_, still⟩) id
        intro other within
        rw [List.concat_eq_append] at within
        rcases List.mem_append.mp within with earlier | last
        · exact spared other earlier
        · exact List.mem_singleton.mp last ▸ writes

end Interleaving

namespace Errand

/-- A call without a name ends at once. -/
theorem program_of_unnamed {errand : Errand} (unnamed : errand.desired.metadata.name = none) :
    errand.program = .done (.error (.invalidObject errand.kind.name "desired object has no name")) := by
  simp only [program, reconcile, unnamed]

/-- A call with a name reads the object and carries out its verdict. -/
theorem program_of_named {errand : Errand} {name : String}
    (named : errand.desired.metadata.name = some name) :
    errand.program = .ask (.get errand.kind errand.owner.namespaceName name) fun
      | .error failure => .done (.error failure)
      | .ok existing => (errand.verdict existing).program := by
  simp only [program, reconcile, named, Reconcile.settle_eq_program]
  congr 1
  funext answer
  cases answer with
  | error failure => rfl
  | ok existing => rfl

/-- An update is made of the object that was read, for its place, and names its version. -/
theorem update_of_verdict {errand : Errand} {existing : Option errand.kind.Object} {name : String}
    (named : errand.desired.metadata.name = some name) {resource : Resource} {outcome : Outcome}
    (decided : errand.verdict existing = .write (.update resource) outcome) :
    ∃ (read object : errand.kind.Object), existing = some read ∧ resource = ⟨errand.kind, object⟩ ∧
      object.metadata.place = ⟨errand.owner.namespaceName, name⟩ ∧
      object.metadata.resourceVersion = read.metadata.resourceVersion := by
  have called : errand.wanted.metadata.name = some name := named
  cases tagged : errand.wanted.metadata.isTaggedForDeletion with
  | true =>
    cases existing with
    | none => cases decided.symm.trans (Reconcile.verdict_none_of_tagged tagged)
    | some read => cases decided.symm.trans (Reconcile.verdict_some_of_tagged tagged read)
  | false =>
    cases existing with
    | none =>
      rw [verdict, Reconcile.verdict_none_of_untagged tagged] at decided
      split at decided <;> cases decided
    | some read =>
      have place := Reconcile.place_of_untagged errand.mutator.keepsPlace rfl called tagged decided
      rw [verdict, Reconcile.verdict_some_of_untagged tagged] at decided
      obtain ⟨-, same⟩ := Reconcile.write_of_verdictOnExisting decided
      cases same
      have joins := Reconcile.joins_of_mutated errand.owner errand.mutator errand.wanted read
      have version := congrArg ObjectMeta.resourceVersion (joins.bookkeeping read.metadata rfl)
      exact ⟨read, _, rfl, rfl, (Prod.mk.inj place).2, version⟩

end Errand

namespace Interleaving

variable {ι : Type} {errand : Errand} {caller : ι} {history : List (Event ι)}
  {program : Program Cluster (Except Failure Outcome)}

/-- How far a call has come: it has not begun, or it has read the object and is left with its verdict, or it
has ended. -/
inductive Stage (errand : Errand) (caller : ι) (history : List (Event ι))
    (program : Program Cluster (Except Failure Outcome)) : Prop
  | waiting (same : program = errand.program)
  | decided {name : String} {existing : Option errand.kind.Object} {before between : List (Event ι)}
      (named : errand.desired.metadata.name = some name)
      (split : history =
        before ++ ⟨caller, .get errand.kind errand.owner.namespaceName name, .ok existing⟩ :: between)
      (same : program = (errand.verdict existing).program)
  | ended (result : Except Failure Outcome) (same : program = .done result)

/-- What others do is no matter of how far a call has come. -/
theorem Stage.snoc (stage : Stage errand caller history program) (event : Event ι) :
    Stage errand caller (history ++ [event]) program := by
  cases stage with
  | waiting same => exact .waiting same
  | @decided name existing before between named split same =>
    have longer : history ++ [event] = before ++
        ⟨caller, .get errand.kind errand.owner.namespaceName name, .ok existing⟩ :: (between ++ [event]) := by
      rw [split, List.append_assoc, List.cons_append]
    exact .decided named longer same
  | ended result same => exact .ended result same

/-- A call that asks for a write has read the object and carries out its verdict, whatever the answer. -/
theorem Stage.write {change : Write}
    {further : Except Failure Unit → Program Cluster (Except Failure Outcome)}
    (stage : Stage errand caller history (.ask (.write change) further)) :
    ∃ name existing before between outcome, errand.desired.metadata.name = some name ∧
      history =
        before ++ ⟨caller, .get errand.kind errand.owner.namespaceName name, .ok existing⟩ :: between ∧
      errand.verdict existing = .write change outcome ∧
      ∀ answer, further answer = .done (answer.map fun _ => outcome) := by
  cases stage with
  | waiting same =>
    cases named : errand.desired.metadata.name with
    | none =>
      rw [Errand.program_of_unnamed named] at same
      cases same
    | some name =>
      rw [Errand.program_of_named named] at same
      cases same
  | ended result same => cases same
  | @decided name existing before between named split same =>
    cases verdict : errand.verdict existing with
    | finish result =>
      rw [verdict, Verdict.program] at same
      cases same
    | write wanted outcome =>
      rw [verdict, Verdict.program, Reconcile.commit] at same
      cases same
      exact ⟨name, existing, before, between, outcome, named, split, verdict, fun _ => rfl⟩

/-- What a call is left with after its own next exchange. -/
theorem Stage.act {request : Cluster.Request}
    {further : request.Answer → Program Cluster (Except Failure Outcome)}
    (stage : Stage errand caller history (.ask request further)) (version : String) (store : VersionedStore) :
    Stage errand caller (history ++ [⟨caller, request, (VersionedStore.handler version request store).1⟩])
      (further (VersionedStore.handler version request store).1) := by
  cases stage with
  | ended result same => cases same
  | waiting same =>
    cases named : errand.desired.metadata.name with
    | none =>
      rw [Errand.program_of_unnamed named] at same
      cases same
    | some name =>
      rw [Errand.program_of_named named] at same
      cases same
      exact .decided named rfl rfl
  | @decided name existing before between named split same =>
    cases verdict : errand.verdict existing with
    | finish result =>
      rw [verdict, Verdict.program] at same
      cases same
    | write change outcome =>
      rw [verdict, Verdict.program, Reconcile.commit] at same
      cases same
      exact .ended _ rfl

variable [DecidableEq ι]

/-- The calls before any of them has begun. -/
def commence (errands : ι → Errand) (store : VersionedStore) : Interleaving ι :=
  ⟨store, fun caller => (errands caller).program⟩

theorem Reaches.stage {errands : ι → Errand} {store : VersionedStore} {state : Interleaving ι}
    (reached : Reaches (commence errands store) history state) (caller : ι) :
    Stage (errands caller) caller history (state.pending caller) := by
  induction reached with
  | start => exact .waiting rfl
  | @act history state next event version actor reached fresh acted ih =>
    obtain ⟨request, further, asked, rfl, rfl⟩ := act_eq_some acted
    by_cases same : caller = actor
    · subst same
      rw [asked] at ih
      simp only [Function.update_self]
      exact ih.act version state.store
    · simp only [Function.update_of_ne same]
      exact ih.snoc _

end Interleaving

/-- Let any calls with mutators of the library interleave on a store with versions, request by request. When
a call updates an object, then it is the very object that the same call has read: nobody has written at its
place in between, and the update names the version that was read and is stored. When a call creates an
object, there was none. When a write is refused, the store is as before, and the call ends with the refusal
of the server for its failure. -/
theorem no_lost_update {ι : Type} [DecidableEq ι] (errands : ι → Errand) (store : VersionedStore)
    {history : List (Event ι)} {state next : Interleaving ι} {event : Event ι} {version : String} {caller : ι}
    (reached : Interleaving.Reaches (.commence errands store) history state)
    (acted : state.act version caller = some (event, next)) :
    let errand := errands caller
    (∀ resource, event.effect? = some (.update resource) →
      ∃ (name : String) (read object : errand.kind.Object) (before between : List (Event ι)),
        let place : Place := ⟨errand.owner.namespaceName, name⟩
        errand.desired.metadata.name = some name ∧ resource = ⟨errand.kind, object⟩ ∧
          object.metadata.place = place ∧
          history =
            before ++ ⟨caller, .get errand.kind errand.owner.namespaceName name, .ok (some read)⟩ :: between ∧
          (∀ other ∈ between, ¬ other.Writes errand.kind place) ∧
          state.store.inventory.get? errand.kind place = some read ∧
          object.metadata.resourceVersion = read.metadata.resourceVersion ∧
          next.store.inventory.get? errand.kind place =
            some { object with metadata.resourceVersion := some version }) ∧
    (∀ resource, event.effect? = some (.create resource) →
      state.store.inventory.get? resource.kind resource.place = none) ∧
    ∀ change failure, event.failure? = some (change, failure) →
      next.store = state.store ∧
        ∃ refusal, failure = .refused refusal ∧ next.pending caller = .done (.error failure) := by
  intro errand
  have stage := reached.stage caller
  refine ⟨?_, ?_, ?_⟩
  · intro resource effect
    obtain ⟨done, left, further, asked⟩ := Interleaving.act_of_effect? acted effect
    rw [asked] at stage
    obtain ⟨name, existing, before, between, outcome, named, split, decided, -⟩ := stage.write
    obtain ⟨read, object, rfl, rfl, place, same⟩ := Errand.update_of_verdict named decided
    obtain ⟨stored, found, current⟩ := VersionedStore.get?_of_update_ok done
    have written := VersionedStore.get?_write_of_ok Verb.noConfusion done
    have here : (⟨(errands caller).kind, object⟩ : Resource).place =
        ⟨(errands caller).owner.namespaceName, name⟩ := place
    simp only [Write.resource, here, ← left] at found written
    refine ⟨name, read, object, before, between, named, rfl, place, split, ?_⟩
    rcases (reached.read_lasts split).2 with ⟨spared, still⟩ | replaced
    · exact ⟨spared, still, same, written⟩
    · exact absurd (current.trans same) (replaced stored found)
  · intro resource effect
    obtain ⟨done, -⟩ := Interleaving.act_of_effect? acted effect
    exact VersionedStore.get?_of_create_ok done
  · intro change failure failed
    obtain ⟨refused, left, further, asked, goesOn⟩ := Interleaving.act_of_failure? acted failed
    obtain ⟨⟨refusal, rfl⟩, same⟩ := VersionedStore.write_of_error refused
    rw [asked] at stage
    obtain ⟨name, existing, before, between, outcome, -, -, -, ends⟩ := stage.write
    exact ⟨left.trans same, refusal, rfl, goesOn.trans (ends _)⟩

/-- Two calls read the same settings before either of them writes. The first update replaces what both have
read, and the second one is refused, so that its call fails and the settings of the first one stay. -/
theorem no_lost_update_of_race :
    let shop : Owner :=
      ⟨"prod", { apiVersion := "v1", controller := some true, kind := "AppStack", name := "shop", uid := "1" }⟩
    let errands (second : Bool) : Errand :=
      ⟨shop, @Mutator.rule .configMap .data,
        (⟨{ name := some "settings" },
          { data := some (.ofList [("mode", if second then "safe" else "fast")]) }⟩ : Kind.configMap.Object)⟩
    let settings : Kind.configMap.Object :=
      ⟨{ name := some "settings", namespaceName := some "prod" }, {}⟩
    let store := VersionedStore.empty.put "1" ⟨.configMap, settings⟩
    let place : Place := ⟨"prod", "settings"⟩
    ∃ history state after last updated refused,
      Interleaving.Reaches (.commence errands store) history state ∧
        state.act "2" false = some (updated, after) ∧ after.act "3" true = some (refused, last) ∧
        (∃ read object : Kind.configMap.Object, state.store.inventory.get? .configMap place = some read ∧
          after.store.inventory.get? .configMap place =
            some { object with metadata.resourceVersion := some "2" } ∧
          object.metadata.resourceVersion = read.metadata.resourceVersion) ∧
        last.store = after.store ∧ ∃ refusal, last.pending true = .done (.error (.refused refusal)) := by
  intro shop errands settings store place
  let start := Interleaving.commence errands store
  let first := (start.act "2" false).get (by decide +kernel)
  let second := (first.2.act "2" true).get (by decide +kernel)
  let third := (second.2.act "2" false).get (by decide +kernel)
  let fourth := (third.2.act "3" true).get (by decide +kernel)
  have one : start.act "2" false = some first := (Option.some_get _).symm
  have two : first.2.act "2" true = some second := (Option.some_get _).symm
  have three : second.2.act "2" false = some third := (Option.some_get _).symm
  have four : third.2.act "3" true = some fourth := (Option.some_get _).symm
  have reached := (Interleaving.Reaches.start.act (by decide +kernel) one).act (by decide +kernel) two
  have moved := reached.act (by decide +kernel) three
  have updates : third.1.effect?.map (·.verb) = some .update := by decide +kernel
  have refuses : fourth.1.failure?.map (·.1.verb) = some .update := by decide +kernel
  obtain ⟨change, effect, verb⟩ := Option.map_eq_some_iff.mp updates
  obtain ⟨⟨denied, failure⟩, failed, -⟩ := Option.map_eq_some_iff.mp refuses
  obtain ⟨replaces, -, -⟩ := no_lost_update errands store reached three
  obtain ⟨-, -, spares⟩ := no_lost_update errands store moved four
  refine ⟨_, second.2, third.2, fourth.2, third.1, fourth.1, reached, three, four, ?_, ?_⟩
  · cases change with
    | create resource => cases verb
    | delete resource policy => cases verb
    | update resource =>
      obtain ⟨name, read, object, -, -, named, -, -, -, -, still, same, written⟩ := replaces resource effect
      obtain rfl : name = "settings" := (Option.some.inj named).symm
      exact ⟨read, object, still, written, same⟩
  · obtain ⟨kept, refusal, rfl, ended⟩ := spares denied failure failed
    exact ⟨kept, refusal, ended⟩

end Reconciliation
