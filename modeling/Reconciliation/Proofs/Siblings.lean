import Reconciliation.Api.Server
import Reconciliation.AppStack.Pass
import Reconciliation.Proofs.Requests
import Mathlib.Data.List.Forall2

/-! # Parts of a pass do not depend on each other

A pass is one attempt after the other, one for each part of the stack. Every request of an attempt is about
the kind of its part, where questions about what is served count as being about monitors, the one optional
kind of a stack. So a server that treats one kind in another way can change nothing about the attempts at
the other kinds: they ask the same, are answered the same and end the same. The pass as a whole fails with
the first failure among its attempts.
-/

namespace Reconciliation.AppStack

/-- The kind of the part that a request of a pass is about. What is served is asked for the monitor only. -/
def subject (request : Api.Request) : Kind := request.kind?.getD .serviceMonitor

/-- What became of one part in a pass. -/
structure Attempt (σ : Type) where
  kind : Kind
  run : Run Api σ (Except Failure Outcome)

/-- Reconcile parts in order against a server, each from the state and with the knowledge that the ones
before it left. -/
def attempts {σ : Type} (handler : Handler Api σ) (owner : Owner) :
    List Part → Availability → σ → List (Attempt σ)
  | [], _, _ => []
  | part :: rest, availability, state =>
      let run := (Api.serve (reconcileManaged owner part.mutator.mutate part.desired part.enabled
        availability)).run handler state
      ⟨part.kind, run.result.1, run.state, run.exchanges⟩ ::
        attempts handler owner rest run.result.2 run.state

/-- The state after the last of some attempts. -/
def stateAfter {σ : Type} (start : σ) (attempts : List (Attempt σ)) : σ :=
  attempts.foldl (fun _ attempt => attempt.run.state) start

section Results

variable {results : List (Except Failure Outcome)}

theorem firstFailure_eq_ok_iff :
    firstFailure results = .ok () ↔ ∀ result ∈ results, ∃ outcome, result = .ok outcome := by
  induction results with
  | nil => simp [firstFailure]
  | cons first rest ih =>
    cases first with
    | error failure => simp [firstFailure]
    | ok outcome => simpa [firstFailure] using ih

theorem firstFailure_eq_error_iff {failure : Failure} :
    firstFailure results = .error failure ↔
      ∃ before after, results = before ++ .error failure :: after ∧
        ∀ result ∈ before, ∃ outcome, result = .ok outcome := by
  induction results with
  | nil => simp [firstFailure]
  | cons first rest ih =>
    cases first with
    | error cause =>
      simp only [firstFailure, Except.error.injEq]
      constructor
      · rintro rfl
        exact ⟨[], rest, rfl, fun _ within => absurd within List.not_mem_nil⟩
      · rintro ⟨before, after, same, succeed⟩
        cases before with
        | nil =>
          cases same
          rfl
        | cons earlier before =>
          obtain ⟨outcome, success⟩ := succeed earlier List.mem_cons_self
          rw [success] at same
          cases same
    | ok outcome =>
      rw [firstFailure, ih]
      constructor
      · rintro ⟨before, after, rfl, succeed⟩
        exact ⟨.ok outcome :: before, after, rfl, List.forall_mem_cons.mpr ⟨⟨outcome, rfl⟩, succeed⟩⟩
      · rintro ⟨before, after, same, succeed⟩
        cases before with
        | nil => cases same
        | cons earlier before =>
          cases same
          exact ⟨before, after, rfl, (List.forall_mem_cons.mp succeed).2⟩

end Results

section Managed

variable {kind : Kind} {σ : Type}

/-- What is known about the kinds that are served does not matter to a kind that is always reconciled. -/
theorem run_reconcileManaged_of_required (required : kind.isOptional = false) (handler : Handler Api σ)
    (owner : Owner) (mutate : Mutate kind.Object) (desired : kind.Object) (enabled : Bool)
    (availability : Availability) (state : σ) :
    (Api.serve (reconcileManaged owner mutate desired enabled availability)).run handler state =
      let run := (Api.serve (reconcile owner mutate (Object.ifEnabled desired enabled))).run handler state
      ⟨(run.result, availability), run.state, run.exchanges⟩ := by
  simp only [reconcileManaged, required, Bool.false_eq_true, if_false, Api.serve_map, Program.run_map]

/-- If only monitors are optional, all requests about a part are about its kind. -/
theorem serve_reconcileManaged_asks (optional : kind.isOptional = true → kind = .serviceMonitor)
    (owner : Owner) (mutate : Mutate kind.Object) (desired : kind.Object) (enabled : Bool)
    (availability : Availability) :
    (Api.serve (reconcileManaged owner mutate desired enabled availability)).Asks
      fun request : Api.Request => subject request = kind := by
  have call := (Api.serve_reconcile_asks owner mutate (Object.ifEnabled desired enabled)).mono
    fun request about => show subject request = kind by rw [subject, about, Option.getD_some]
  simp only [reconcileManaged]
  split
  · next needed =>
    obtain rfl := optional needed
    have found := (Api.serve_find_asks availability Kind.serviceMonitor.apiVersion
      Kind.serviceMonitor.name).mono fun request about =>
        show subject request = .serviceMonitor by
          rw [subject, Api.Request.isDiscovery_iff.mp about, Option.getD_none]
    rw [reconcileIfServed, Api.serve_bind]
    refine found.bind fun (answer, availability) => ?_
    dsimp only
    split
    · exact .done _
    · exact .done _
    · rw [Api.serve_map]
      exact call.map
  · rw [Api.serve_map]
    exact call.map

/-- A call that sends no request fails. -/
theorem fails_of_silent {handler : Handler Api σ} {owner : Owner} {mutate : Mutate kind.Object}
    {desired : kind.Object} {state : σ}
    (silent : ((Api.serve (reconcile owner mutate desired)).run handler state).exchanges = []) :
    ∃ failure, ((Api.serve (reconcile owner mutate desired)).run handler state).result = .error failure := by
  cases called : desired.metadata.name with
  | none =>
    simp only [reconcile, called]
    exact ⟨_, rfl⟩
  | some name =>
    simp only [reconcile, called, Api.serve, Program.expand, Api.perform, Api.askItem, Api.askAbout] at silent ⊢
    split
    · exact ⟨_, rfl⟩
    · next filled =>
      rw [if_neg filled] at silent
      split
      · next sendable =>
        rw [sendable] at silent
        cases silent
      · exact ⟨_, rfl⟩

/-- Whether a kind is served is not found out without a request, unless it is known. -/
theorem exchanges_find_unknown_ne_nil (handler : Handler Api σ) (groupVersion name : String) (state : σ) :
    ((Api.serve (Availability.unknown.find groupVersion name)).run handler state).exchanges ≠ [] := by
  have sendable : Api.Target.problem? Api.Request.listGroups.address = none := by decide
  simp only [Availability.find, Availability.unknown, Availability.get?, List.lookup_nil, Api.serve, Program.expand,
    Api.perform, Api.Discovery.probe, Api.Discovery.query, sendable, Program.andThen, Program.map, Program.bind_ask,
    Program.run]
  exact List.cons_ne_nil _ _

end Managed

section Attempts

variable {σ τ : Type} {owner : Owner}

/-- Reconciling parts is one attempt after the other. -/
theorem run_reconcileParts (handler : Handler Api σ) (parts : List Part) (availability : Availability)
    (state : σ) :
    let tried := attempts handler owner parts availability state
    (Api.serve (reconcileParts owner parts availability)).run handler state =
      ⟨tried.map (·.run.result), stateAfter state tried, tried.flatMap (·.run.exchanges)⟩ := by
  induction parts generalizing availability state with
  | nil => rfl
  | cons part rest ih =>
    simp only [reconcileParts, Api.serve_bind, Api.serve_map, Program.run_bind, Program.run_map, ih]
    rfl

theorem kinds_attempts (handler : Handler Api σ) (parts : List Part) (availability : Availability)
    (state : σ) : (attempts handler owner parts availability state).map (·.kind) = parts.map (·.kind) := by
  induction parts generalizing availability state with
  | nil => rfl
  | cons part rest ih => exact congrArg (part.kind :: ·) (ih _ _)

/-- Every request of an attempt is about its kind. -/
theorem subject_of_attempts {parts : List Part}
    (optional : ∀ part ∈ parts, part.kind.isOptional = true → part.kind = .serviceMonitor)
    (handler : Handler Api σ) (availability : Availability) (state : σ) :
    ∀ attempt ∈ attempts handler owner parts availability state, ∀ exchange ∈ attempt.run.exchanges,
      subject exchange.request = attempt.kind := by
  induction parts generalizing availability state with
  | nil => exact fun _ within => absurd within List.not_mem_nil
  | cons part rest ih =>
    obtain ⟨here, later⟩ := List.forall_mem_cons.mp optional
    refine List.forall_mem_cons.mpr ⟨?_, ih later _ _⟩
    exact (serve_reconcileManaged_asks here owner _ _ _ availability).of_run handler state

/-- If only the last part is optional, every attempt sends a request or fails. -/
theorem attempts_fail_of_silent {init : List Part} {last : Part}
    (required : ∀ part ∈ init, part.kind.isOptional = false) (handler : Handler Api σ) (state : σ) :
    ∀ attempt ∈ attempts handler owner (init ++ [last]) .unknown state, attempt.run.exchanges = [] →
      ∃ failure, attempt.run.result = .error failure := by
  induction init generalizing state with
  | nil =>
    refine List.forall_mem_cons.mpr ⟨fun silent => ?_, fun _ within => absurd within List.not_mem_nil⟩
    dsimp only at silent ⊢
    cases needed : last.kind.isOptional with
    | false =>
      rw [run_reconcileManaged_of_required needed] at silent ⊢
      exact fails_of_silent silent
    | true =>
      simp only [reconcileManaged, needed, if_true, reconcileIfServed, Api.serve_bind, Program.run_bind,
        List.append_eq_nil_iff] at silent
      exact absurd silent.1 (exchanges_find_unknown_ne_nil handler _ _ state)
  | cons part rest ih =>
    obtain ⟨here, later⟩ := List.forall_mem_cons.mp required
    simp only [List.cons_append, attempts, run_reconcileManaged_of_required here]
    exact List.forall_mem_cons.mpr ⟨fails_of_silent, ih later _⟩

/-- Two attempts at a part leave servers that agree. Unless it is of the odd kind, they also ask the same,
are answered the same and end the same. -/
structure Attempt.Alike (odd : Kind) (agree : σ → τ → Prop) (left : Attempt σ) (right : Attempt τ) : Prop where
  kind : left.kind = right.kind
  states : agree left.run.state right.run.state
  result : left.kind ≠ odd → left.run.result = right.run.result
  exchanges : left.kind ≠ odd → left.run.exchanges = right.run.exchanges

variable {odd : Kind} {first : Handler Api σ} {second : Handler Api τ} {agree : σ → τ → Prop}

/-- The attempt at one part, and what is known after it. -/
theorem attempt_alike {part : Part} (optional : part.kind.isOptional = true → part.kind = .serviceMonitor)
    (differ : DifferOnlyOn (fun request : Api.Request => subject request = odd) first second agree) {a b : Availability}
    (known : odd = .serviceMonitor ∨ a = b) {s : σ} {t : τ} (start : agree s t) :
    let program availability := Api.serve (reconcileManaged owner part.mutator.mutate part.desired
      part.enabled availability)
    let left := (program a).run first s
    let right := (program b).run second t
    Attempt.Alike odd agree ⟨part.kind, left.result.1, left.state, left.exchanges⟩
        ⟨part.kind, right.result.1, right.state, right.exchanges⟩ ∧
      (odd = .serviceMonitor ∨ left.result.2 = right.result.2) := by
  intro program left right
  have asks (availability : Availability) :
      (program availability).Asks fun request : Api.Request => subject request = part.kind :=
    serve_reconcileManaged_asks optional owner _ _ _ availability
  by_cases here : part.kind = odd
  · have states : agree left.state right.state := by
      have odds availability := (asks availability).mono fun _ about => about.trans here
      exact (odds a).run_odd (odds b) differ start
    refine ⟨⟨rfl, states, fun other => absurd here other, fun other => absurd here other⟩, ?_⟩
    cases needed : part.kind.isOptional with
    | true => exact .inl (here.symm.trans (optional needed))
    | false =>
      simp only [left, right, program, run_reconcileManaged_of_required needed]
      exact known
  · have even {request : Api.Request} (about : subject request = part.kind) : ¬ subject request = odd :=
      fun wrong => here (about.symm.trans wrong)
    cases needed : part.kind.isOptional with
    | true =>
      obtain rfl : a = b := known.resolve_left fun monitor => here ((optional needed).trans monitor.symm)
      obtain ⟨results, exchanges, states⟩ :=
        ((asks a).mono fun _ about => even about).run_alike differ.alike start
      exact ⟨⟨rfl, states, fun _ => congrArg Prod.fst results, fun _ => exchanges⟩,
        .inr (congrArg Prod.snd results)⟩
    | false =>
      have call := (Api.serve_reconcile_asks owner part.mutator.mutate
        (Object.ifEnabled part.desired part.enabled)).mono fun request about =>
          even (show subject request = part.kind by rw [subject, about, Option.getD_some])
      obtain ⟨results, exchanges, states⟩ := call.run_alike differ.alike start
      simp only [left, right, program, run_reconcileManaged_of_required needed]
      exact ⟨⟨rfl, states, fun _ => results, fun _ => exchanges⟩, known⟩

/-- Against servers that differ only in how they treat one kind, all attempts at other kinds are alike. -/
theorem attempts_alike {parts : List Part}
    (optional : ∀ part ∈ parts, part.kind.isOptional = true → part.kind = .serviceMonitor)
    (differ : DifferOnlyOn (fun request : Api.Request => subject request = odd) first second agree) {a b : Availability}
    (known : odd = .serviceMonitor ∨ a = b) {s : σ} {t : τ} (start : agree s t) :
    List.Forall₂ (Attempt.Alike odd agree) (attempts first owner parts a s)
      (attempts second owner parts b t) := by
  induction parts generalizing a b s t with
  | nil => exact .nil
  | cons part rest ih =>
    obtain ⟨here, later⟩ := List.forall_mem_cons.mp optional
    obtain ⟨alike, knows⟩ := attempt_alike here differ known start
    exact .cons alike (ih later knows alike.states)

theorem agree_stateAfter {lefts : List (Attempt σ)} {rights : List (Attempt τ)}
    (alike : List.Forall₂ (Attempt.Alike odd agree) lefts rights) {s : σ} {t : τ} (start : agree s t) :
    agree (stateAfter s lefts) (stateAfter t rights) := by
  induction alike generalizing s t with
  | nil => exact start
  | cons here _ ih => exact ih here.states

end Attempts

/-- The kinds of the parts of a stack, in the order in which they are reconciled. -/
def partKinds : List Kind := [.serviceAccount, .deployment, .service, .podDisruptionBudget, .serviceMonitor]

theorem kind_parts (stack : Stack) : (parts stack).map (·.kind) = partKinds := rfl

theorem kind_of_optional_part {stack : Stack} :
    ∀ part ∈ parts stack, part.kind.isOptional = true → part.kind = .serviceMonitor := by
  intro part within
  have listed : part.kind ∈ partKinds := kind_parts stack ▸ List.mem_map_of_mem within
  revert listed
  generalize part.kind = kind
  revert kind
  decide

/-- A run of a pass is one attempt after the other. There is one for each kind of part, in order; it asks about
its kind only, and either asks at all or fails. The run succeeds if all attempts do, and otherwise fails
with the failure of the first one that does. -/
structure RunOf {σ : Type} (run : Run Api σ (Except Failure Next)) (attempts : List (Attempt σ)) : Prop where
  kinds : attempts.map (·.kind) = partKinds
  exchanges : run.exchanges = attempts.flatMap (·.run.exchanges)
  about : ∀ attempt ∈ attempts, ∀ exchange ∈ attempt.run.exchanges, subject exchange.request = attempt.kind
  tried : ∀ attempt ∈ attempts, attempt.run.exchanges = [] →
    ∃ failure, attempt.run.result = .error failure
  succeeds : run.result = .ok .interval ↔ ∀ attempt ∈ attempts, ∃ outcome, attempt.run.result = .ok outcome
  fails : ∀ failure, run.result = .error failure ↔
    ∃ before attempt after, attempts = before ++ attempt :: after ∧ attempt.run.result = .error failure ∧
      ∀ earlier ∈ before, ∃ outcome, earlier.run.result = .ok outcome

section Pass

variable {σ : Type} {stack : Stack} {owner : Owner}

theorem run_pass (live : stack.metadata.deletionTimestamp = none)
    (owned : Owner.ofObject .appStack stack = .ok owner) (handler : Handler Api σ) (state : σ) :
    let tried := attempts handler owner (parts stack) .unknown state
    (Api.serve (pass stack)).run handler state =
      ⟨(firstFailure (tried.map (·.run.result))).map fun _ => .interval, stateAfter state tried,
        tried.flatMap (·.run.exchanges)⟩ := by
  intro tried
  simp only [pass, live, Option.isSome_none, Bool.false_eq_true, if_false, owned, Api.serve_map,
    Program.run_map, run_reconcileParts, tried]

theorem runOf_attempts (live : stack.metadata.deletionTimestamp = none)
    (owned : Owner.ofObject .appStack stack = .ok owner) (handler : Handler Api σ) (state : σ) :
    RunOf ((Api.serve (pass stack)).run handler state)
      (attempts handler owner (parts stack) .unknown state) := by
  rw [run_pass live owned]
  have succeed_iff (tried : List (Attempt σ)) :
      (∀ result ∈ tried.map (·.run.result), ∃ outcome, result = .ok outcome) ↔
        ∀ attempt ∈ tried, ∃ outcome, attempt.run.result = .ok outcome := List.forall_mem_map
  refine ⟨kinds_attempts handler _ _ state, rfl, subject_of_attempts kind_of_optional_part handler _ state,
    ?_, ?_, ?_⟩
  · refine @attempts_fail_of_silent σ owner ((parts stack).take 4) _ ?_ handler state
    simp [parts, Kind.isOptional]
  · rw [← succeed_iff, ← firstFailure_eq_ok_iff]
    cases firstFailure _ <;> simp [Except.map]
  · intro failure
    have first (results : List (Except Failure Outcome)) :
        (firstFailure results).map (fun _ => Next.interval) = .error failure ↔
          firstFailure results = .error failure := by
      cases firstFailure results <;> simp [Except.map]
    rw [first, firstFailure_eq_error_iff]
    constructor
    · rintro ⟨before, after, same, succeed⟩
      obtain ⟨earlier, rest, split, rfl, others⟩ := List.map_eq_append_iff.mp same
      obtain ⟨attempt, later, rfl, fails, rfl⟩ := List.map_eq_cons_iff.mp others
      exact ⟨earlier, attempt, later, split, fails, (succeed_iff _).mp succeed⟩
    · rintro ⟨before, attempt, after, split, fails, succeed⟩
      refine ⟨before.map (·.run.result), after.map (·.run.result), ?_, (succeed_iff _).mpr succeed⟩
      rw [split, List.map_append, List.map_cons, fails]

end Pass

/-- If two servers differ only in how they treat one kind, passes over the same stack make the same attempts at
all other kinds: the requests, their answers and the results are the same, and after every attempt the servers
still agree in all that matters to these kinds. Both passes attempt all five kinds in order, and fail with the
first failure, if there is one. -/
theorem siblings_independent {stack : Stack} (live : stack.metadata.deletionTimestamp = none) {owner : Owner}
    (owned : Owner.ofObject .appStack stack = .ok owner) {odd : Kind} {σ τ : Type} {first : Handler Api σ}
    {second : Handler Api τ} {agree : σ → τ → Prop}
    (differ : DifferOnlyOn (fun request : Api.Request => subject request = odd) first second agree)
    {s : σ} {t : τ} (start : agree s t) :
    let left := (Api.serve (pass stack)).run first s
    let right := (Api.serve (pass stack)).run second t
    let lefts := attempts first owner (parts stack) .unknown s
    let rights := attempts second owner (parts stack) .unknown t
    RunOf left lefts ∧ RunOf right rights ∧ List.Forall₂ (Attempt.Alike odd agree) lefts rights ∧
      agree left.state right.state := by
  intro left right lefts rights
  have alike : List.Forall₂ (Attempt.Alike odd agree) lefts rights :=
    attempts_alike kind_of_optional_part differ (.inr rfl) start
  refine ⟨runOf_attempts live owned first s, runOf_attempts live owned second t, alike, ?_⟩
  have last := agree_stateAfter alike start
  simp only [left, right, run_pass live owned]
  exact last

/-- One server refuses every request about deployments, the other one forgets every deployment. The passes leave
the same objects of all other kinds. -/
theorem siblings_independent_of_forgotten_deployments :
    let stack : Stack := ⟨{ name := some "shop", namespaceName := some "prod", uid := some "1" },
      ⟨{ image := "shop:1.0", port := 8080, podDisruptionBudget := true, monitoring := true }⟩⟩
    let treating (deployments : (request : Api.Request) → request.Answer) : Handler Api Api.Server :=
      fun request server =>
        if subject request = .deployment then (deployments request, server)
        else Api.Server.handler request server
    let refusing := treating fun _ => .error (.status (.ofReason 500 "InternalError"))
    let forgetting := treating fun
      | .create .. => .ok ()
      | _ => .error .notFound
    let left := (Api.serve (pass stack)).run refusing ⟨.empty, [], [], []⟩
    let right := (Api.serve (pass stack)).run forgetting ⟨.empty, [], [], []⟩
    left.state = right.state := by
  intro stack treating refusing forgetting left right
  have keeps (deployments : (request : Api.Request) → request.Answer) (request : Api.Request)
      (about : subject request = .deployment) (server : Api.Server) :
      (treating deployments request server).2 = server := by simp only [treating, about, if_true]
  have differ : DifferOnlyOn (fun request : Api.Request => subject request = .deployment) refusing forgetting
      Eq := by
    refine ⟨?_, ?_, ?_⟩
    · rintro request other server _ rfl
      simp only [refusing, forgetting, treating, other, if_false, and_self]
    · rintro request about server _ rfl
      simp only [refusing, keeps _ request about]
    · rintro request about server _ rfl
      simp only [forgetting, keeps _ request about]
  obtain ⟨-, -, -, same⟩ := @siblings_independent stack rfl _ rfl .deployment _ _ refusing forgetting Eq differ
    ⟨.empty, [], [], []⟩ _ rfl
  exact same

end Reconciliation.AppStack
