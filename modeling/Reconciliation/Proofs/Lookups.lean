import Reconciliation.Proofs.Requests

/-! # What a pass finds out about kinds

Within a pass a kind is asked about until it is told whether it is served, and not after that. So what is
known at any point is what the questions so far were answered (`PassPoint.IsInformed`), and what a call does
about a kind depends on the answers about this kind only. A call for a kind that need not be served does
nothing else unless the answer is yes; calls for the other kinds do not ask.
-/

namespace Reconciliation

namespace Availability

/-- What an exchange tells about a kind, if it is a question about it. -/
def told? (groupVersion kind : String) : Exchange Cluster → Option (Except Failure Bool)
  | ⟨.probe asked about, answer⟩ => if (asked, about) = (groupVersion, kind) then some answer else none
  | ⟨.get .., _⟩ | ⟨.write _, _⟩ => none

/-- The answers about a kind, in order. -/
def told (groupVersion kind : String) (exchanges : List (Exchange Cluster)) : List (Except Failure Bool) :=
  exchanges.filterMap (told? groupVersion kind)

/-- What is known after an answer; a failure is none. -/
def hear (known : Availability) (groupVersion kind : String) : Except Failure Bool → Availability
  | .ok served => known.learn groupVersion kind served
  | .error _ => known

variable {σ : Type} {known : Availability} {groupVersion kind : String}

@[simp] theorem told_append (groupVersion kind : String) (earlier later : List (Exchange Cluster)) :
    told groupVersion kind (earlier ++ later) = told groupVersion kind earlier ++ told groupVersion kind later :=
  List.filterMap_append ..

/-- Requests about objects tell nothing about kinds. -/
theorem told_of_about {objects : Kind} {exchanges : List (Exchange Cluster)}
    (about : ∀ exchange ∈ exchanges, exchange.request.IsAbout objects) (groupVersion kind : String) :
    told groupVersion kind exchanges = [] := by
  refine List.filterMap_eq_nil_iff.mpr fun exchange within => ?_
  match exchange, about exchange within with
  | ⟨.get .., _⟩, _ => rfl
  | ⟨.write _, _⟩, _ => rfl
  | ⟨.probe .., _⟩, impossible => exact impossible.elim

theorem told_probe_self (answer : Except Failure Bool) :
    told groupVersion kind [⟨.probe groupVersion kind, answer⟩] = [answer] := by simp [told, told?]

theorem told_probe_of_ne {asked about : String} (different : (asked, about) ≠ (groupVersion, kind))
    (answer : Except Failure Bool) : told groupVersion kind [⟨.probe asked about, answer⟩] = [] := by
  simp [told, told?, different]

theorem get?_hear_self (unknown : known.get? groupVersion kind = none) (answer : Except Failure Bool) :
    (known.hear groupVersion kind answer).get? groupVersion kind = answer.toOption := by
  cases answer with
  | error failure => exact unknown
  | ok served => simp [hear, learn, get?, Except.toOption]

theorem get?_hear_of_ne {asked about : String} (different : (asked, about) ≠ (groupVersion, kind))
    (answer : Except Failure Bool) : (known.hear asked about answer).get? groupVersion kind = known.get? groupVersion kind := by
  cases answer with
  | error failure => rfl
  | ok served =>
    have other : ((groupVersion, kind) == (asked, about)) = false := beq_eq_false_iff_ne.mpr different.symm
    simp [hear, learn, get?, List.lookup_cons, other]

/-- What is known is not asked. -/
theorem run_find_of_known (handler : Handler Cluster σ) (state : σ) {served : Bool}
    (found : known.get? groupVersion kind = some served) :
    (known.find groupVersion kind).run handler state = ⟨(.ok served, known), state, []⟩ := by
  simp only [find, found, Program.run_done]

/-- What is not known is asked once. -/
theorem run_find_of_unknown (handler : Handler Cluster σ) (state : σ)
    (unknown : known.get? groupVersion kind = none) :
    (known.find groupVersion kind).run handler state =
      let asked := handler (.probe groupVersion kind) state
      ⟨(asked.1, known.hear groupVersion kind asked.1), asked.2, [⟨.probe groupVersion kind, asked.1⟩]⟩ := by
  simp only [find, unknown, Program.run]
  cases (handler (.probe groupVersion kind) state).1 <;> rfl

end Availability

/-- What can be done within a pass on behalf of an owner: to look up whether a kind is served, or to reconcile
an object in the way of its kind. -/
inductive PassCall
  | lookUp (groupVersion kind : String)
  | reconcile {kind : Kind} (mutate : Mutate kind.Object) (desired : kind.Object) (enabled : Bool)

/-- What such a call ends with. -/
inductive Reply
  | served (answer : Except Failure Bool)
  | outcome (result : Except Failure Outcome)

namespace PassCall

/-- The program of a call, with what is known about kinds before it and after it. -/
def program (owner : Owner) (known : Availability) : PassCall → Program Cluster (Reply × Availability)
  | lookUp groupVersion kind =>
      (known.find groupVersion kind).map fun (answer, known) => (.served answer, known)
  | reconcile mutate desired enabled =>
      (reconcileManaged owner mutate desired enabled known).map fun (result, known) => (.outcome result, known)

/-- Group version and name of the kind that a call looks up, if it does. -/
def lookedUp? : PassCall → Option (String × String)
  | lookUp groupVersion kind => some (groupVersion, kind)
  | @reconcile kind _ _ _ => if kind.isOptional then some (kind.apiVersion, kind.name) else none

/-- How a call goes on once it is told whether the kind that it looked up is served. -/
def proceed (owner : Owner) (answer : Except Failure Bool) : PassCall → Program Cluster Reply
  | lookUp _ _ => .done (.served answer)
  | reconcile mutate desired enabled =>
      match answer with
      | .error failure => .done (.outcome (.error failure))
      | .ok false => .done (.outcome (.ok .skipped))
      | .ok true => (Reconciliation.reconcile owner mutate (Object.ifEnabled desired enabled)).map .outcome

/-- The end of a call whose kind is not known to be served: it skips, or fails as the question did. -/
def declined (answer : Except Failure Bool) : PassCall → Reply
  | lookUp _ _ => .served answer
  | reconcile _ _ _ => .outcome (answer.map fun _ => .skipped)

variable {σ : Type} {call : PassCall} {owner : Owner} {known : Availability}

/-- A call that looks up no kind proceeds at once, as if its kind were served. -/
theorem program_of_required (required : call.lookedUp? = none) :
    call.program owner known = (call.proceed owner (.ok true)).map (·, known) := by
  cases call with
  | lookUp groupVersion kind => cases required
  | @reconcile kind mutate desired enabled =>
    have always : kind.isOptional = false := by simpa [lookedUp?] using required
    simp only [program, proceed, reconcileManaged, always, Bool.false_eq_true, if_false, Program.map, Program.bind_assoc,
      Program.bind_done]

/-- Any other call looks up its kind first. -/
theorem program_of_lookedUp {groupVersion name : String} (lookedUp : call.lookedUp? = some (groupVersion, name)) :
    call.program owner known =
      (known.find groupVersion name).bind fun found => (call.proceed owner found.1).map (·, found.2) := by
  cases call with
  | lookUp asked about =>
    cases lookedUp
    rfl
  | @reconcile kind mutate desired enabled =>
    simp only [lookedUp?, Option.ite_none_right_eq_some, Option.some.injEq, Prod.mk.injEq] at lookedUp
    obtain ⟨optional, rfl, rfl⟩ := lookedUp
    simp only [program, reconcileManaged, optional, if_true, reconcileIfServed, Program.map, Program.bind_assoc]
    congr 1
    funext found
    obtain ⟨failure | served, known⟩ := found
    · rfl
    · cases served with
      | false => rfl
      | true => simp only [proceed, Program.map, Program.bind_assoc, Program.bind_done]

/-- Unless the kind is served, there is nothing left to ask. -/
theorem proceed_of_unserved {answer : Except Failure Bool} (unserved : answer ≠ .ok true) (call : PassCall)
    (owner : Owner) : call.proceed owner answer = .done (call.declined answer) := by
  cases call with
  | lookUp groupVersion kind => rfl
  | reconcile mutate desired enabled =>
    obtain failure | served := answer
    · rfl
    · cases served with
      | false => rfl
      | true => exact absurd rfl unserved

/-- A call that proceeds asks about no kind any more. -/
theorem told_proceed (call : PassCall) (owner : Owner) (answer : Except Failure Bool) (handler : Handler Cluster σ)
    (state : σ) (groupVersion name : String) :
    Availability.told groupVersion name ((call.proceed owner answer).run handler state).exchanges = [] := by
  by_cases served : answer = .ok true
  · subst served
    cases call with
    | lookUp asked about => rfl
    | reconcile mutate desired enabled =>
      have asks := (reconcile_asks owner mutate (Object.ifEnabled desired enabled)).map (f := Reply.outcome)
      exact Availability.told_of_about (asks.of_run handler state) groupVersion name
  · rw [call.proceed_of_unserved served owner]
    rfl

end PassCall

/-- A point of a pass: what is known about kinds, the state of whatever answers, and the exchanges so far. -/
structure PassPoint (σ : Type) where
  known : Availability
  state : σ
  exchanges : List (Exchange Cluster)

namespace PassPoint

variable {σ : Type} (handler : Handler Cluster σ) (owner : Owner)

/-- Where a pass starts: nothing is known. -/
def start (state : σ) : PassPoint σ := ⟨.unknown, state, []⟩

/-- The run of a call from a point. -/
def run (point : PassPoint σ) (call : PassCall) : Run Cluster σ (Reply × Availability) :=
  (call.program owner point.known).run handler point.state

/-- The point after a call. -/
def after (point : PassPoint σ) (call : PassCall) : PassPoint σ :=
  let run := point.run handler owner call
  ⟨run.result.2, run.state, point.exchanges ++ run.exchanges⟩

/-- The point after some calls, one after the other. -/
def reached (point : PassPoint σ) (calls : List PassCall) : PassPoint σ := calls.foldl (after handler owner) point

/-- What has been answered about a kind. -/
def told (point : PassPoint σ) (groupVersion name : String) : List (Except Failure Bool) :=
  Availability.told groupVersion name point.exchanges

section Steps

variable {handler owner} {point : PassPoint σ} {call : PassCall} {groupVersion name : String}

theorem run_of_required (required : call.lookedUp? = none) :
    point.run handler owner call =
      let rest := (call.proceed owner (.ok true)).run handler point.state
      ⟨(rest.result, point.known), rest.state, rest.exchanges⟩ := by
  rw [run, PassCall.program_of_required required, Program.run_map]

theorem run_of_known (lookedUp : call.lookedUp? = some (groupVersion, name)) {served : Bool}
    (found : point.known.get? groupVersion name = some served) :
    point.run handler owner call =
      let rest := (call.proceed owner (.ok served)).run handler point.state
      ⟨(rest.result, point.known), rest.state, rest.exchanges⟩ := by
  rw [run, PassCall.program_of_lookedUp lookedUp, Program.run_bind,
    Availability.run_find_of_known handler point.state found]
  simp only [Program.run_map, List.nil_append]

theorem run_of_unknown (lookedUp : call.lookedUp? = some (groupVersion, name))
    (unknown : point.known.get? groupVersion name = none) :
    point.run handler owner call =
      let asked := handler (.probe groupVersion name) point.state
      let rest := (call.proceed owner asked.1).run handler asked.2
      ⟨(rest.result, point.known.hear groupVersion name asked.1), rest.state,
        [⟨.probe groupVersion name, asked.1⟩] ++ rest.exchanges⟩ := by
  rw [run, PassCall.program_of_lookedUp lookedUp, Program.run_bind,
    Availability.run_find_of_unknown handler point.state unknown]
  simp only [Program.run_map]

/-- What a call does to what is known about a kind: nothing, and then the kind is known if the call looks it
up; or it has asked about it. -/
theorem after_cases (point : PassPoint σ) (handler : Handler Cluster σ) (owner : Owner) (call : PassCall)
    (groupVersion name : String) :
    let next := point.after handler owner call
    (next.known.get? groupVersion name = point.known.get? groupVersion name ∧
        next.told groupVersion name = point.told groupVersion name ∧
        (call.lookedUp? = some (groupVersion, name) → point.known.get? groupVersion name ≠ none)) ∨
      (call.lookedUp? = some (groupVersion, name) ∧ point.known.get? groupVersion name = none ∧
        ∃ answer, next.known = point.known.hear groupVersion name answer ∧
          next.told groupVersion name = point.told groupVersion name ++ [answer]) := by
  have quiet (answer : Except Failure Bool) (state : σ) := call.told_proceed owner answer handler state groupVersion name
  cases lookedUp : call.lookedUp? with
  | none =>
    left
    simp [after, run_of_required lookedUp, told, quiet]
  | some pair =>
    obtain ⟨asked, about⟩ := pair
    cases found : point.known.get? asked about with
    | some served =>
      left
      rw [after, run_of_known lookedUp found]
      refine ⟨rfl, by simp [told, quiet], fun same => ?_⟩
      cases same
      simp [found]
    | none =>
      simp only [after, run_of_unknown lookedUp found, told, Availability.told_append, quiet, List.append_nil]
      -- the kind that the call asks about need not be the one in question
      by_cases here : (asked, about) = (groupVersion, name)
      · cases here
        right
        exact ⟨rfl, found, _, rfl, by rw [Availability.told_probe_self]⟩
      · left
        rw [Availability.told_probe_of_ne here, List.append_nil, Availability.get?_hear_of_ne here]
        exact ⟨rfl, rfl, fun same => absurd (Option.some.inj same) here⟩

/-- A call that does not look a kind up does not ask about it. -/
theorem told_run_of_ne (point : PassPoint σ) (handler : Handler Cluster σ) (owner : Owner)
    (other : call.lookedUp? ≠ some (groupVersion, name)) :
    Availability.told groupVersion name (point.run handler owner call).exchanges = [] := by
  obtain ⟨-, silent, -⟩ | ⟨same, -⟩ := point.after_cases handler owner call groupVersion name
  · simpa [told, after] using silent
  · exact absurd same other

end Steps

/-- All answers about a kind but the last were failures, and what is known is the last one unless it was a
failure, too. As long as nothing is known, every call that looked the kind up has asked. -/
structure IsInformed (point : PassPoint σ) (calls : List PassCall) (groupVersion name : String) : Prop where
  told : ∃ failures : List Failure, point.told groupVersion name =
    failures.map .error ++ (point.known.get? groupVersion name).toList.map .ok
  asked_at_most : (point.told groupVersion name).length ≤
    calls.countP fun call => call.lookedUp? = some (groupVersion, name)
  asked_always : point.known.get? groupVersion name = none →
    (point.told groupVersion name).length = calls.countP fun call => call.lookedUp? = some (groupVersion, name)

namespace IsInformed

variable {handler owner} {point : PassPoint σ} {call : PassCall} {calls : List PassCall} {groupVersion name : String}

theorem start (state : σ) (groupVersion name : String) : (PassPoint.start state).IsInformed [] groupVersion name :=
  ⟨⟨[], rfl⟩, Nat.le_refl _, fun _ => rfl⟩

/-- Exchanges that do not tell about the kind, and look-ups of other kinds, leave a point informed. -/
theorem of_silent (informed : point.IsInformed calls groupVersion name) {next : PassPoint σ}
    (knows : next.known.get? groupVersion name = point.known.get? groupVersion name)
    (silent : next.told groupVersion name = point.told groupVersion name)
    (settled : call.lookedUp? = some (groupVersion, name) → point.known.get? groupVersion name ≠ none) :
    next.IsInformed (calls ++ [call]) groupVersion name := by
  have counted : calls.countP (fun call => call.lookedUp? = some (groupVersion, name)) ≤
      (calls ++ [call]).countP fun call => call.lookedUp? = some (groupVersion, name) := by
    rw [List.countP_append]
    exact Nat.le_add_right _ _
  refine ⟨?_, ?_, fun unknown => ?_⟩
  · rw [knows, silent]
    exact informed.told
  · rw [silent]
    exact Nat.le_trans informed.asked_at_most counted
  · rw [knows] at unknown
    have other : call.lookedUp? ≠ some (groupVersion, name) := fun same => settled same unknown
    rw [silent, informed.asked_always unknown, List.countP_append]
    simp [other]

/-- An answer about a kind of which nothing was known leaves a point informed. -/
theorem of_asked (informed : point.IsInformed calls groupVersion name)
    (lookedUp : call.lookedUp? = some (groupVersion, name)) (unknown : point.known.get? groupVersion name = none)
    {next : PassPoint σ} {answer : Except Failure Bool} (knows : next.known = point.known.hear groupVersion name answer)
    (told : next.told groupVersion name = point.told groupVersion name ++ [answer]) :
    next.IsInformed (calls ++ [call]) groupVersion name := by
  have counted : (next.told groupVersion name).length =
      (calls ++ [call]).countP fun call => call.lookedUp? = some (groupVersion, name) := by
    rw [told, List.length_append, informed.asked_always unknown, List.countP_append]
    simp [lookedUp]
  refine ⟨?_, Nat.le_of_eq counted, fun _ => counted⟩
  obtain ⟨failures, earlier⟩ := informed.told
  rw [unknown] at earlier
  rw [told, earlier, knows, Availability.get?_hear_self unknown]
  cases answer with
  | error failure => exact ⟨failures ++ [failure], by simp [Except.toOption]⟩
  | ok served => exact ⟨failures, by simp [Except.toOption]⟩

/-- A call leaves a point informed. -/
theorem after (informed : point.IsInformed calls groupVersion name) (call : PassCall) :
    (point.after handler owner call).IsInformed (calls ++ [call]) groupVersion name := by
  obtain ⟨knows, silent, settled⟩ | ⟨lookedUp, unknown, answer, knows, told⟩ :=
    point.after_cases handler owner call groupVersion name
  · exact informed.of_silent knows silent settled
  · exact informed.of_asked lookedUp unknown knows told

/-- So does any number of calls. -/
theorem reached {earlier : List PassCall} (informed : point.IsInformed earlier groupVersion name)
    (calls : List PassCall) : (point.reached handler owner calls).IsInformed (earlier ++ calls) groupVersion name := by
  induction calls generalizing point earlier with
  | nil =>
    rw [List.append_nil]
    exact informed
  | cons call calls ih =>
    rw [List.append_cons]
    exact ih (informed.after call)

/-- As long as there is no answer, nothing is known. -/
theorem get?_of_unanswered (informed : point.IsInformed calls groupVersion name)
    (unanswered : ∀ served, .ok served ∉ point.told groupVersion name) : point.known.get? groupVersion name = none := by
  obtain ⟨failures, told⟩ := informed.told
  cases found : point.known.get? groupVersion name with
  | none => rfl
  | some served => exact absurd (by simp [told, found]) (unanswered served)

/-- An answer is known. -/
theorem get?_of_answered (informed : point.IsInformed calls groupVersion name) {served : Bool}
    (answered : .ok served ∈ point.told groupVersion name) : point.known.get? groupVersion name = some served := by
  obtain ⟨failures, told⟩ := informed.told
  rw [told] at answered
  simpa using answered

end IsInformed

/-- What is known stays so and is not asked again. -/
theorem reached_of_known {point : PassPoint σ} {groupVersion name : String} {served : Bool}
    (found : point.known.get? groupVersion name = some served) (calls : List PassCall) :
    (point.reached handler owner calls).known.get? groupVersion name = some served ∧
      (point.reached handler owner calls).told groupVersion name = point.told groupVersion name := by
  induction calls generalizing point with
  | nil => exact ⟨found, rfl⟩
  | cons call calls ih =>
    obtain ⟨knows, silent, -⟩ | ⟨-, unknown, -⟩ := point.after_cases handler owner call groupVersion name
    · rw [← silent]
      exact ih (knows.trans found)
    · rw [found] at unknown
      cases unknown

end PassPoint

/-- Within a pass, a kind is asked about once for each call that looks it up, until there is an answer, and never
again. A failure is what the call gets to proceed with, and is forgotten. The answer is what this call and all
later ones that look the kind up get. No other call asks about the kind. -/
theorem kinds_are_asked_until_answered {σ : Type} (handler : Handler Cluster σ) (owner : Owner) (state : σ)
    (earlier : List PassCall) (call : PassCall) (groupVersion name : String) :
    let point := (PassPoint.start state).reached handler owner earlier
    let told := point.told groupVersion name
    let lookUps := earlier.countP fun call => call.lookedUp? = some (groupVersion, name)
    (∃ (failures : List Failure) (answer? : Option Bool),
        told = failures.map .error ++ answer?.toList.map .ok ∧
          told.length ≤ lookUps ∧ (answer? = none → told.length = lookUps)) ∧
      (call.lookedUp? ≠ some (groupVersion, name) →
        Availability.told groupVersion name (point.run handler owner call).exchanges = []) ∧
      (call.lookedUp? = some (groupVersion, name) → (∀ served, .ok served ∉ told) →
        let asked := handler (.probe groupVersion name) point.state
        let rest := (call.proceed owner asked.1).run handler asked.2
        let run := point.run handler owner call
        run.result.1 = rest.result ∧ run.state = rest.state ∧
          run.exchanges = ⟨.probe groupVersion name, asked.1⟩ :: rest.exchanges ∧
          Availability.told groupVersion name rest.exchanges = []) ∧
      (call.lookedUp? = some (groupVersion, name) → ∀ served, .ok served ∈ told → ∀ later : List PassCall,
        let next := point.reached handler owner later
        let rest := (call.proceed owner (.ok served)).run handler next.state
        let run := next.run handler owner call
        next.told groupVersion name = told ∧
          run.result.1 = rest.result ∧ run.state = rest.state ∧ run.exchanges = rest.exchanges) ∧
      ∀ answer ≠ .ok true, call.proceed owner answer = .done (call.declined answer) := by
  intro point told lookUps
  have informed : point.IsInformed earlier groupVersion name :=
    (PassPoint.IsInformed.start state groupVersion name).reached earlier
  refine ⟨?_, fun other => ?_, fun lookedUp unanswered => ?_, fun lookedUp served answered later => ?_,
    fun answer unserved => call.proceed_of_unserved unserved owner⟩
  · obtain ⟨failures, all⟩ := informed.told
    exact ⟨failures, _, all, informed.asked_at_most, informed.asked_always⟩
  · exact point.told_run_of_ne handler owner other
  · have unknown := informed.get?_of_unanswered unanswered
    rw [PassPoint.run_of_unknown lookedUp unknown]
    exact ⟨rfl, rfl, rfl, call.told_proceed owner _ handler _ groupVersion name⟩
  · have found := informed.get?_of_answered answered
    obtain ⟨still, same⟩ := PassPoint.reached_of_known handler owner found later
    intro next rest run
    have runs : run = ⟨(rest.result, next.known), rest.state, rest.exchanges⟩ := PassPoint.run_of_known lookedUp still
    rw [runs]
    exact ⟨same, rfl, rfl, rfl⟩

/-- A failure, an answer, and then silence. -/
example (owner : Owner) :
    let failure : ApiStatus := .ofReason 500 "InternalError"
    let lookUp : PassCall := .lookUp "route.openshift.io/v1" "Route"
    let start := PassPoint.start ⟨.empty, ⟨[.error failure, .ok false], true⟩⟩
    (start.reached MemoryCluster.handler owner [lookUp, lookUp, lookUp]).told "route.openshift.io/v1" "Route" =
      [.error (.capabilityProbe "route.openshift.io/v1" "Route" (.refused failure)), .ok false] := rfl

end Reconciliation
