import Reconciliation.Proofs.Chains
import Reconciliation.Proofs.Creation
import Reconciliation.Proofs.ServerCalls
import Reconciliation.Proofs.Siblings

/-! # Parts that are settled

There is nothing to do about a part once an attempt at it has succeeded: what the attempt has left at its place is
the object that it read, the wanted one as it is created, or what the mutator has made of the existing one, and a
mutator that settles finds all of these in order. Attempts at parts of other kinds leave it so. When all parts
are settled, an attempt at each of them only reads.
-/

namespace Reconciliation

namespace Reconcile

variable {kind : Kind} {owner : Owner} {mutator : Mutator kind} {wanted : kind.Object}

/-- A verdict that succeeds leaves nothing to do, if the mutator settles and accepts the wanted object. -/
theorem verdict_again (settles : mutator.mutate.SettlesAt wanted) (accepts : mutator.Accepts wanted.content)
    {existing : Option kind.Object} {outcome : Outcome}
    (success : (verdict owner mutator.mutate wanted existing).result = .ok outcome) :
    verdict owner mutator.mutate wanted ((verdict owner mutator.mutate wanted existing).leaves existing) =
      .finish (.ok .unchanged) := by
  cases tagged : wanted.metadata.isTaggedForDeletion with
  | true =>
    cases existing with
    | none =>
      rw [verdict_none_of_tagged tagged]
      exact verdict_none_of_tagged tagged
    | some object =>
      rw [verdict_some_of_tagged tagged]
      exact verdict_none_of_tagged tagged
  | false =>
    cases existing with
    | none =>
      rw [verdict_none_of_untagged tagged] at success ⊢
      cases adopted : (owner.adopt kind wanted).outcome with
      | error failure =>
        rw [adopted] at success
        cases success
      | ok changed =>
        obtain ⟨follows, own, alike⟩ := adopted_in_line adopted
        simp only [Verdict.leaves, Resource.as?_same]
        rw [verdict_some_of_untagged tagged]
        exact verdictOnExisting_of_settled follows own ((mutator.mutate_idleIff alike).outcome.mpr accepts)
    | some object =>
      rw [verdict_some_of_untagged tagged] at success ⊢
      cases decided : verdictOnExisting owner mutator.mutate wanted object with
      | finish result =>
        rw [decided] at success
        obtain rfl : result = .ok outcome := success
        change verdict owner mutator.mutate wanted (some object) = _
        rw [verdict_some_of_untagged tagged, decided, unchanged_of_finish decided]
      | write change done =>
        obtain ⟨owned, changed, adopted, mutated⟩ := succeeds_of_update decided
        obtain ⟨-, rfl⟩ := write_of_verdictOnExisting decided
        simp only [Verdict.leaves, Resource.as?_same]
        rw [verdict_some_of_untagged tagged]
        exact verdictOnExisting_of_mutated mutator.leavesMetadata adopted mutated (settles _ ⟨changed, mutated⟩)

end Reconcile

namespace Api.Server

/-- The answer to whether a kind is served. -/
def serves (server : Server) (groupVersion kind : String) : Except Failure Bool :=
  ((perform (.probe groupVersion kind)).run handler server).result

theorem probe_asks (groupVersion kind : String) :
    (perform (.probe groupVersion kind)).Asks fun request : Request => request.IsDiscovery :=
  (Discovery.probe_asks groupVersion kind).map

/-- Whether a kind is served does not depend on the objects. -/
theorem serves_of_items {server : Server} (permanent : ∀ fault ∈ server.faults, fault.times = none)
    (items : SortedMap String Resource) (groupVersion kind : String) :
    ({ server with items } : Server).serves groupVersion kind = server.serves groupVersion kind := by
  have alike : AnswerAlike (fun request : Request => request.IsDiscovery) handler handler
      fun left right => left = { server with items } ∧ right = server := by
    rintro request discovery left right ⟨rfl, rfl⟩
    exact ⟨answer_of_discovery discovery items,
      @handler_of_discovery { right with items } request permanent discovery,
      handler_of_discovery permanent discovery⟩
  exact ((probe_asks groupVersion kind).run_alike alike ⟨rfl, rfl⟩).1

theorem serves_setHeld {server : Server} (steady : server.IsSteady) {kind : Kind} {place : Place}
    (object : Option kind.Object) (groupVersion name : String) :
    (server.setHeld kind place object).serves groupVersion name = server.serves groupVersion name :=
  serves_of_items steady.permanent _ groupVersion name

/-- What is known about the kinds that are served is what the server answers. -/
def Knows (server : Server) (availability : Availability) : Prop :=
  ∀ groupVersion kind served, availability.get? groupVersion kind = some served →
    server.serves groupVersion kind = .ok served

theorem knows_unknown (server : Server) : server.Knows .unknown := fun _ _ _ found => nomatch found

theorem Knows.learn {server : Server} {availability : Availability} (known : server.Knows availability)
    {groupVersion kind : String} {served : Bool} (answered : server.serves groupVersion kind = .ok served) :
    server.Knows (availability.learn groupVersion kind served) := by
  intro other name recalled found
  rw [Availability.get?, Availability.learn, List.lookup_cons] at found
  split at found
  · next same =>
    cases found
    obtain ⟨rfl, rfl⟩ := Prod.mk.inj (beq_iff_eq.mp same)
    exact answered
  · exact known other name recalled found

/-- Whether a kind is served is found out, whatever is known before; the requests that it takes change nothing. -/
theorem run_find {server : Server} (permanent : ∀ fault ∈ server.faults, fault.times = none) {availability : Availability}
    (known : server.Knows availability) (groupVersion kind : String) :
    let run := (serve (availability.find groupVersion kind)).run handler server
    run.result.1 = server.serves groupVersion kind ∧ server.Knows run.result.2 ∧ run.state = server ∧
      ∀ request ∈ run.requests, request.IsDiscovery := by
  intro run
  have asks := serve_find_asks availability groupVersion kind
  have still : run.state = server := asks.state_of_still fun _ => handler_of_discovery permanent
  have discovery : ∀ request ∈ run.requests, request.IsDiscovery := List.forall_mem_map.mpr (asks.of_run handler server)
  suffices answer : run.result.1 = server.serves groupVersion kind ∧ server.Knows run.result.2 from
    ⟨answer.1, answer.2, still, discovery⟩
  cases found : availability.get? groupVersion kind with
  | some served =>
    have whole : run = ⟨(.ok served, availability), server, []⟩ := by
      simp only [run, Availability.find, found, serve, Program.expand, Program.run_done]
    rw [whole]
    exact ⟨(known groupVersion kind served found).symm, known⟩
  | none =>
    simp only [run, Availability.find, found, serve_ask]
    cases answered : server.serves groupVersion kind with
    | error failure =>
      rw [Program.run_bind_of answered rfl]
      exact ⟨rfl, known⟩
    | ok served =>
      rw [Program.run_bind_of answered rfl]
      exact ⟨rfl, known.learn answered⟩

/-- An object of a kind that need not be served is reconciled once its kind has been found to be. -/
theorem run_reconcileManaged_of_optional {server : Server} (permanent : ∀ fault ∈ server.faults, fault.times = none)
    {availability : Availability} (known : server.Knows availability) {kind : Kind} (needed : kind.isOptional = true)
    (owner : Owner) (mutate : Mutate kind.Object) (desired : kind.Object) (enabled : Bool) :
    ∃ learned asked, server.Knows learned ∧ (∀ exchange ∈ asked, exchange.request.method = "GET") ∧
      (serve (reconcileManaged owner mutate desired enabled availability)).run handler server =
        match server.serves kind.apiVersion kind.name with
        | .error failure => ⟨(.error failure, learned), server, asked⟩
        | .ok false => ⟨(.ok .skipped, learned), server, asked⟩
        | .ok true =>
            let call := (serve (reconcile owner mutate (Object.ifEnabled desired enabled))).run handler server
            ⟨(call.result, learned), call.state, asked ++ call.exchanges⟩ := by
  obtain ⟨answer, knows, still, discovery⟩ := run_find permanent known kind.apiVersion kind.name
  let find := (serve (availability.find kind.apiVersion kind.name)).run handler server
  refine ⟨find.result.2, find.exchanges, knows, fun exchange within => ?_, ?_⟩
  · exact Request.method_of_discovery (discovery _ (List.mem_map_of_mem within))
  · have found : find.result = (server.serves kind.apiVersion kind.name, find.result.2) := Prod.ext answer rfl
    simp only [reconcileManaged, needed, if_true, reconcileIfServed, serve_bind]
    rw [Program.run_bind_of found still]
    cases server.serves kind.apiVersion kind.name with
    | error failure => simp only [serve, Program.expand, Program.run_done, List.append_nil, find]
    | ok served =>
      cases served with
      | false => simp only [serve, Program.expand, Program.run_done, List.append_nil, find]
      | true => simp only [serve_map, Program.run_map, find]

section Carries

variable {server : Server} {kind : Kind} {place : Place} {verdict : Verdict}
  {run : Run Api Server (Except Failure Outcome)}

theorem Carries.serves (carries : Carries server kind place verdict run) (steady : server.IsSteady)
    (groupVersion name : String) : run.state.serves groupVersion name = server.serves groupVersion name := by
  rw [carries.state]
  exact serves_setHeld steady _ groupVersion name

theorem Carries.knows (carries : Carries server kind place verdict run) (steady : server.IsSteady)
    {availability : Availability} (known : server.Knows availability) : run.state.Knows availability :=
  fun groupVersion name served recalled =>
    (carries.serves steady groupVersion name).trans (known groupVersion name served recalled)

end Carries

end Api.Server

namespace AppStack

open Api Server

variable {owner : Owner} {place : Place} {server : Server} {part : Part}

namespace Part

/-- The object that an attempt at a part wants there to be. -/
def wanted (owner : Owner) (part : Part) : part.kind.Object :=
  (Object.ifEnabled part.desired part.enabled).inNamespace owner.namespaceName

/-- The verdict of an attempt at a part. A part of an optional kind is skipped if the kind is not served. -/
def verdict (owner : Owner) (place : Place) (server : Server) (part : Part) : Verdict :=
  let call := Reconcile.verdict owner part.mutator.mutate (part.wanted owner) (server.held part.kind place)
  if part.kind.isOptional then
    match server.serves part.kind.apiVersion part.kind.name with
    | .error failure => .finish (.error failure)
    | .ok false => .finish (.ok .skipped)
    | .ok true => call
  else call

/-- There is nothing to do about a part. -/
def IsSettled (owner : Owner) (place : Place) (server : Server) (part : Part) : Prop :=
  ∃ outcome, part.verdict owner place server = .finish (.ok outcome)

/-- The mutator of a part has nothing left to do once it has succeeded, nor once the part has been created. -/
structure Settles (part : Part) : Prop where
  settlesAt : ∀ desired : part.kind.Object, desired.content = part.desired.content →
    part.mutator.mutate.SettlesAt desired
  accepts : part.mutator.Accepts part.desired.content

theorem content_wanted (owner : Owner) (part : Part) : (part.wanted owner).content = part.desired.content := by
  simp only [wanted, Object.ifEnabled]
  split <;> rfl

theorem name_ifEnabled (part : Part) :
    (Object.ifEnabled part.desired part.enabled).metadata.name = part.desired.metadata.name := by
  rw [Object.ifEnabled]
  split <;> rfl

/-- The verdict on a part depends on the object at its place, and on whether its kind is served. -/
theorem verdict_congr {other : Server} (held : other.held part.kind place = server.held part.kind place)
    (serves : ∀ groupVersion kind, other.serves groupVersion kind = server.serves groupVersion kind) :
    part.verdict owner place other = part.verdict owner place server := by
  rw [verdict, verdict, held, serves]

/-- What a successful attempt leaves is settled. -/
theorem Settles.isSettled_of_leaves (settles : part.Settles) (steady : server.IsSteady) {outcome : Outcome}
    (success : (part.verdict owner place server).result = .ok outcome) :
    part.IsSettled owner place
      (server.setHeld part.kind place ((part.verdict owner place server).leaves (server.held part.kind place))) := by
  have content := part.content_wanted owner
  have again := @Reconcile.verdict_again part.kind owner part.mutator (part.wanted owner) (settles.settlesAt _ content)
    (content ▸ settles.accepts) (server.held part.kind place)
  simp only [IsSettled, verdict, held_setHeld_self, serves_setHeld steady] at success ⊢
  split
  · next needed =>
    rw [if_pos needed] at success
    split at success
    · cases success
    · exact ⟨.skipped, rfl⟩
    · exact ⟨.unchanged, again success⟩
  · next needed =>
    rw [if_neg needed] at success
    exact ⟨.unchanged, again success⟩

end Part

/-- An attempt at a part that is not skipped is a call, possibly after its kind has been found to be served. -/
theorem carries_attempt (steady : server.IsSteady) (filed : server.IsFiled) {name : String}
    (proper : (⟨owner.namespaceName, name⟩ : Place).IsProper) (named : part.desired.metadata.name = some name)
    {availability : Availability} (known : server.Knows availability) :
    let place : Place := ⟨owner.namespaceName, name⟩
    let run := (serve (reconcileManaged owner part.mutator.mutate part.desired part.enabled availability)).run
      Server.handler server
    Carries server part.kind place (part.verdict owner place server) ⟨run.result.1, run.state, run.exchanges⟩ ∧
      server.Knows run.result.2 := by
  intro place run
  have call := @Server.carries_reconcile part.kind owner server part.mutator steady filed name proper
    (Object.ifEnabled part.desired part.enabled) (part.name_ifEnabled.trans named)
  cases needed : part.kind.isOptional with
  | false =>
    have verdict : part.verdict owner place server =
        Reconcile.verdict owner part.mutator.mutate (part.wanted owner) (server.held part.kind place) :=
      if_neg (by simp [needed])
    have whole := run_reconcileManaged_of_required needed Server.handler owner part.mutator.mutate part.desired
      part.enabled availability server
    rw [verdict, show run = _ from whole]
    exact ⟨call, known⟩
  | true =>
    obtain ⟨learned, asked, knows, reads, whole⟩ := Server.run_reconcileManaged_of_optional steady.permanent known needed
      owner part.mutator.mutate part.desired part.enabled
    rw [show run = _ from whole]
    simp only [Part.verdict, needed, if_true]
    cases server.serves part.kind.apiVersion part.kind.name with
    | error failure => exact ⟨List.append_nil asked ▸ (carries_finish filed proper _).after reads, knows⟩
    | ok served =>
      cases served with
      | false => exact ⟨List.append_nil asked ▸ (carries_finish filed proper _).after reads, knows⟩
      | true => exact ⟨call.after reads, knows⟩

/-- What attempts at parts come to. Each ends as the verdict on what there was at the start says, and what this verdict
leaves is at the place of the part at the end. Whatever is not of the kinds of the parts is as it was. -/
structure Reached (owner : Owner) (place : Place) (parts : List Part) (before : Server)
    (tried : List (Attempt Server)) :
    Prop where
  results : tried.map (·.run.result) = parts.map fun part => (part.verdict owner place before).result
  steady : (stateAfter before tried).IsSteady
  filed : (stateAfter before tried).IsFiled
  serves : ∀ groupVersion kind, (stateAfter before tried).serves groupVersion kind = before.serves groupVersion kind
  others : ∀ kind, kind ∉ parts.map (·.kind) → (stateAfter before tried).held kind place = before.held kind place
  held : ∀ part ∈ parts, (stateAfter before tried).held part.kind place =
    (part.verdict owner place before).leaves (before.held part.kind place)

section Attempts

variable {name : String} {parts : List Part} {availability : Availability}

theorem reached_of_attempts (proper : (⟨owner.namespaceName, name⟩ : Place).IsProper)
    (named : ∀ part ∈ parts, part.desired.metadata.name = some name) (distinct : (parts.map (·.kind)).Nodup)
    (steady : server.IsSteady) (filed : server.IsFiled) (known : server.Knows availability) :
    Reached owner ⟨owner.namespaceName, name⟩ parts server
      (attempts Server.handler owner parts availability server) := by
  induction parts generalizing availability server with
  | nil => exact ⟨rfl, steady, filed, fun _ _ => rfl, fun _ _ => rfl, fun _ within => absurd within List.not_mem_nil⟩
  | cons part rest ih =>
    obtain ⟨called, named⟩ := List.forall_mem_cons.mp named
    obtain ⟨fresh, distinct⟩ := List.nodup_cons.mp distinct
    obtain ⟨carries, knows⟩ := @carries_attempt owner server part steady filed name proper called availability known
    have later := ih named distinct (carries.isSteady steady) carries.filed (carries.knows steady knows)
    -- the attempt at this part leaves everything of the other kinds as it was
    have kept (kind : Kind) (different : part.kind ≠ kind) := (congrArg (·.held kind ⟨owner.namespaceName, name⟩)
      carries.state).trans (held_setHeld_of_ne proper different _)
    have apart {other : Part} (within : other ∈ rest) : part.kind ≠ other.kind := fun same =>
      fresh (List.mem_map.mpr ⟨other, within, same.symm⟩)
    have verdicts {other : Part} (within : other ∈ rest) :
        other.verdict owner ⟨owner.namespaceName, name⟩ _ = other.verdict owner ⟨owner.namespaceName, name⟩ server :=
      Part.verdict_congr (kept _ (apart within)) (carries.serves steady)
    refine ⟨List.cons_eq_cons.mpr ⟨carries.result, ?_⟩, later.steady, later.filed, ?_, ?_,
      List.forall_mem_cons.mpr ⟨?_, ?_⟩⟩
    · exact later.results.trans (List.map_congr_left fun other within => congrArg Verdict.result (verdicts within))
    · exact fun groupVersion kind => (later.serves groupVersion kind).trans (carries.serves steady groupVersion kind)
    · intro kind outside
      obtain ⟨other, outside⟩ := not_or.mp (fun within => outside (List.mem_cons.mpr within))
      exact (later.others kind outside).trans (kept kind (Ne.symm other))
    · exact (later.others part.kind fresh).trans ((congrArg (·.held part.kind ⟨owner.namespaceName, name⟩)
        carries.state).trans (held_setHeld_self _))
    · intro other within
      exact (later.held other within).trans (congr (congrArg Verdict.leaves (kept _ (apart within))) (verdicts within))

/-- Successful attempts at parts whose mutators settle leave the parts settled. -/
theorem Reached.isSettled {tried : List (Attempt Server)} (reached : Reached owner place parts server tried)
    (steady : server.IsSteady) (settle : ∀ part ∈ parts, part.Settles)
    (success : ∀ part ∈ parts, ∃ outcome, (part.verdict owner place server).result = .ok outcome) :
    ∀ part ∈ parts, part.IsSettled owner place (stateAfter server tried) := by
  intro part within
  obtain ⟨outcome, succeeds⟩ := success part within
  obtain ⟨last, decided⟩ := (settle part within).isSettled_of_leaves steady succeeds
  refine ⟨last, (Part.verdict_congr ?_ ?_).trans decided⟩
  · exact (reached.held part within).trans (held_setHeld_self _).symm
  · exact fun groupVersion kind => (reached.serves groupVersion kind).trans (serves_setHeld steady _ _ _).symm

/-- Attempts at settled parts succeed, only read, and leave the server as it is. -/
theorem attempts_of_settled (proper : (⟨owner.namespaceName, name⟩ : Place).IsProper)
    (named : ∀ part ∈ parts, part.desired.metadata.name = some name) (steady : server.IsSteady)
    (filed : server.IsFiled) (known : server.Knows availability)
    (settled : ∀ part ∈ parts, part.IsSettled owner ⟨owner.namespaceName, name⟩ server) :
    ∀ attempt ∈ attempts Server.handler owner parts availability server,
      (∃ outcome, attempt.run.result = .ok outcome) ∧ attempt.run.state = server ∧
        ∀ exchange ∈ attempt.run.exchanges, exchange.request.method = "GET" := by
  induction parts generalizing availability with
  | nil => exact fun _ within => absurd within List.not_mem_nil
  | cons part rest ih =>
    obtain ⟨called, named⟩ := List.forall_mem_cons.mp named
    obtain ⟨⟨outcome, decided⟩, settled⟩ := List.forall_mem_cons.mp settled
    obtain ⟨carries, knows⟩ := @carries_attempt owner server part steady filed name proper called availability known
    rw [decided] at carries
    obtain ⟨result, state, reads⟩ := carries.idle filed proper
    refine List.forall_mem_cons.mpr ⟨⟨⟨outcome, result⟩, state, reads⟩, ?_⟩
    dsimp only at state ⊢
    rw [state]
    exact ih named knows settled

end Attempts

theorem stateAfter_eq_self {σ : Type} {start : σ} {tried : List (Attempt σ)}
    (still : ∀ attempt ∈ tried, attempt.run.state = start) : stateAfter start tried = start := by
  induction tried with
  | nil => rfl
  | cons first rest ih =>
    obtain ⟨here, later⟩ := List.forall_mem_cons.mp still
    rw [stateAfter, List.foldl_cons, here]
    exact ih later

end AppStack

end Reconciliation
