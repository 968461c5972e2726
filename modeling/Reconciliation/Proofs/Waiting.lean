import Mathlib.Algebra.GroupWithZero.Nat
import Reconciliation.Polling

/-! # What is asked by someone who waits

Someone who waits for a kind asks and sleeps in turns until the first yes. Who answers is any handler. All that matters
of its answers is how many come before the first yes, because a failure is taken for a no. The waits double from ten
seconds up to sixty, so that no doubling comes near the end of the machine numbers, however many waits there are. The
bound on the attempts makes no difference once there are more of them than refusals.
-/

namespace Reconciliation.Polling

/-- How long the wait takes that follows some earlier ones. -/
def interval : Nat → UInt64
  | 0 => firstInterval
  | turn + 1 => nextInterval (interval turn)

/-- Where a wait is not longer than the limit, its double is no more than a machine number can hold. -/
theorem toNat_doubled {seconds : UInt64} (bounded : seconds.toNat ≤ 60) :
    (seconds * 2).toNat = seconds.toNat * 2 := by
  have two : (2 : UInt64).toNat = 2 := rfl
  rw [UInt64.toNat_mul, two]
  omega

theorem toNat_nextInterval {seconds : UInt64} (bounded : seconds.toNat ≤ 60) :
    (nextInterval seconds).toNat = min (seconds.toNat * 2) 60 := by
  have doubled := toNat_doubled bounded
  have within : seconds * 2 ≤ maxInterval ↔ seconds.toNat * 2 ≤ 60 := by
    rw [UInt64.le_iff_toNat_le, doubled]
    rfl
  change (if seconds * 2 ≤ maxInterval then seconds * 2 else maxInterval).toNat = _
  split
  · next short =>
    rw [doubled, Nat.min_eq_left (within.mp short)]
  · next long =>
    exact (Nat.min_eq_right (Nat.le_of_not_le fun short => long (within.mpr short))).symm

theorem toNat_interval (turn : Nat) : (interval turn).toNat = min (10 * 2 ^ turn) 60 := by
  induction turn with
  | zero => rfl
  | succ turn ih =>
    rw [interval, toNat_nextInterval (by omega), ih]
    omega

section Turns

variable {σ : Type} (handler : Handler Polling σ) (groupVersion kind : String) (start : σ)

/-- The state of whoever answers, after some questions with a wait after each. -/
def stateAfter : Nat → σ
  | 0 => start
  | turn + 1 => (handler (.sleep (interval turn)) (handler (.probe groupVersion kind) (stateAfter turn)).2).2

/-- The answer to the question that follows some earlier ones with a wait after each. -/
def answerAt (turn : Nat) : Except Failure Bool :=
  (handler (.probe groupVersion kind) (stateAfter handler groupVersion kind start turn)).1

/-- A question that is refused, and the wait after it. -/
def exchangesAt (turn : Nat) : List (Exchange Polling) :=
  [⟨.probe groupVersion kind, answerAt handler groupVersion kind start turn⟩, ⟨.sleep (interval turn), ()⟩]

variable {handler groupVersion kind}

theorem run_poll_of_served {state : σ} (served : (handler (.probe groupVersion kind) state).1 = .ok true)
    (attempts : Nat) (seconds : UInt64) :
    (poll groupVersion kind (attempts + 1) seconds).run handler state =
      ⟨true, (handler (.probe groupVersion kind) state).2, [⟨.probe groupVersion kind, .ok true⟩]⟩ := by
  simp only [poll, Program.run, served]

/-- A failure is a refusal like a no: in either case a wait and the remaining attempts follow. -/
theorem run_poll_of_refused {state : σ} (refused : (handler (.probe groupVersion kind) state).1 ≠ .ok true)
    (attempts : Nat) (seconds : UInt64) :
    (poll groupVersion kind (attempts + 1) seconds).run handler state =
      let asked := handler (.probe groupVersion kind) state
      let slept := handler (.sleep seconds) asked.2
      let rest := (poll groupVersion kind attempts (nextInterval seconds)).run handler slept.2
      ⟨rest.result, rest.state, ⟨.probe groupVersion kind, asked.1⟩ :: ⟨.sleep seconds, slept.1⟩ :: rest.exchanges⟩ := by
  simp only [poll, Program.run]

/-- From any turn on, a question and a wait follow for every refusal that is still to come, and then the last question.
Attempts to spare are not used. -/
theorem run_poll {refusals : Nat} (served : answerAt handler groupVersion kind start refusals = .ok true)
    (refused : ∀ turn < refusals, answerAt handler groupVersion kind start turn ≠ .ok true) (spare : Nat)
    {turn remaining : Nat} (reaches : turn + remaining = refusals) :
    (poll groupVersion kind (spare + remaining + 1) (interval turn)).run handler
        (stateAfter handler groupVersion kind start turn) =
      ⟨true, (handler (.probe groupVersion kind) (stateAfter handler groupVersion kind start refusals)).2,
        (List.range' turn remaining).flatMap (exchangesAt handler groupVersion kind start) ++
          [⟨.probe groupVersion kind, .ok true⟩]⟩ := by
  induction remaining generalizing turn with
  | zero =>
    obtain rfl : turn = refusals := reaches
    exact run_poll_of_served served spare (interval turn)
  | succ remaining ih =>
    have later := @ih (turn + 1) (by omega)
    simp only [stateAfter, interval] at later
    rw [← Nat.add_assoc, run_poll_of_refused (refused turn (by omega)), List.range'_succ, List.flatMap_cons]
    simp only [later]
    rfl

/-- Where every attempt is refused, the kind is not served in the end. -/
theorem result_poll_of_refused {turn attempts : Nat}
    (refused : ∀ earlier < turn + attempts, answerAt handler groupVersion kind start earlier ≠ .ok true) :
    ((poll groupVersion kind attempts (interval turn)).run handler
      (stateAfter handler groupVersion kind start turn)).result = false := by
  induction attempts generalizing turn with
  | zero => rfl
  | succ attempts ih =>
    rw [run_poll_of_refused (refused turn (by omega))]
    exact @ih (turn + 1) fun earlier before => refused earlier (by omega)

section Waiting

variable {start} {refusals attempts : Nat} (enough : refusals < attempts)
  (refused : ∀ turn < refusals, answerAt handler groupVersion kind start turn ≠ .ok true)
  (served : answerAt handler groupVersion kind start refusals = .ok true)

include enough refused served

theorem run_waitForKind :
    (waitForKind attempts groupVersion kind).run handler start =
      ⟨true, (handler (.probe groupVersion kind) (stateAfter handler groupVersion kind start refusals)).2,
        (List.range refusals).flatMap (exchangesAt handler groupVersion kind start) ++
          [⟨.probe groupVersion kind, .ok true⟩]⟩ := by
  obtain ⟨spare, rfl⟩ := Nat.exists_eq_add_of_lt enough
  rw [List.range_eq_range', Nat.add_comm refusals spare]
  exact run_poll start served refused spare (Nat.zero_add refusals)

/-- What is asked depends on nothing but the number of refusals. -/
theorem requests_waitForKind :
    ((waitForKind attempts groupVersion kind).run handler start).exchanges.map (·.request) =
      (List.range refusals).flatMap (fun turn => [.probe groupVersion kind, .sleep (interval turn)]) ++
        [.probe groupVersion kind] := by
  rw [run_waitForKind enough refused served, List.map_append, List.map_flatMap]
  rfl

end Waiting

/-- The questions are asked when all waits before them are over. -/
theorem timedProbes_exchangesAt (turn refusals : Nat) :
    timedProbes ((List.range turn).map fun earlier => (interval earlier).toNat).sum
        ((List.range' turn refusals).flatMap (exchangesAt handler groupVersion kind start) ++
          [⟨.probe groupVersion kind, .ok true⟩]) =
      (List.range' turn (refusals + 1)).map fun turn =>
        (groupVersion, kind, ((List.range turn).map fun earlier => (interval earlier).toNat).sum) := by
  induction refusals generalizing turn with
  | zero => rfl
  | succ refusals ih =>
    have later := ih (turn + 1)
    rw [List.range_succ, List.map_append, List.sum_append, List.map_singleton, List.sum_singleton] at later
    rw [List.range'_succ, List.flatMap_cons, List.range'_succ, List.map_cons, ← later]
    rfl

end Turns

/-- If the answers are a number of refusals and then a yes, the kind is asked for once more than it is refused, with a
wait after each refusal, which takes ten seconds at first and then twice as long as the one before, but no more than
sixty. What the refusals are, and what would be answered after the yes, makes no difference. With fewer attempts the
waiting is not over. -/
theorem waits_until_first_yes {σ : Type} (handler : Handler Polling σ) (groupVersion kind : String) (start : σ)
    {refusals : Nat} (refused : ∀ turn < refusals, answerAt handler groupVersion kind start turn ≠ .ok true)
    (served : answerAt handler groupVersion kind start refusals = .ok true) (attempts : Nat) :
    let run := (waitForKind attempts groupVersion kind).run handler start
    let requests := (List.range refusals).flatMap
      (fun turn => [Request.probe groupVersion kind, Request.sleep (interval turn)]) ++ [.probe groupVersion kind]
    (run.result = true ↔ refusals < attempts) ∧
      (∀ turn, (interval turn).toNat = min (10 * 2 ^ turn) 60 ∧ 10 ≤ (interval turn).toNat ∧
        (interval turn).toNat ≤ 60 ∧ (interval turn * 2).toNat = (interval turn).toNat * 2) ∧
      (refusals < attempts → run.exchanges.map (·.request) = requests ∧
        timedProbes 0 run.exchanges = (List.range (refusals + 1)).map (fun turn =>
          (groupVersion, kind, ((List.range turn).map fun earlier => min (10 * 2 ^ earlier) 60).sum)) ∧
        ∀ {τ : Type} (other : Handler Polling τ) (elsewhere : τ),
          (∀ turn ≤ refusals, answerAt other groupVersion kind elsewhere turn = .ok true ↔
            answerAt handler groupVersion kind start turn = .ok true) →
          ((waitForKind attempts groupVersion kind).run other elsewhere).exchanges.map (·.request) = requests) := by
  intro run requests
  refine ⟨⟨fun yes => ?_, fun enough => ?_⟩, fun turn => ?_, fun enough => ⟨?_, ?_, fun other elsewhere same => ?_⟩⟩
  · refine Nat.lt_of_not_le fun short => ?_
    have no : run.result = false :=
      @result_poll_of_refused _ _ _ _ start 0 attempts fun turn before => refused turn (by omega)
    exact Bool.noConfusion (yes.symm.trans no)
  · exact congrArg Run.result (run_waitForKind enough refused served)
  · have seconds := toNat_interval turn
    have first : 1 ≤ 2 ^ turn := Nat.one_le_two_pow
    have doubled := @toNat_doubled (interval turn) (by omega)
    omega
  · exact requests_waitForKind enough refused served
  · have ran : run = _ := run_waitForKind enough refused served
    rw [ran, List.range_eq_range', List.range_eq_range']
    simp only [← toNat_interval]
    exact timedProbes_exchangesAt start 0 refusals
  · refine requests_waitForKind enough (fun turn before yes => ?_) ((same refusals (Nat.le_refl _)).mpr served)
    exact refused turn before ((same turn (Nat.le_of_lt before)).mp yes)

/-- A no and then a failure, as of a server that is about to start, are waited for. -/
theorem waits_until_first_yes_of_start :
    let answers : List (Except ApiStatus Bool) := [.ok false, .error (.ofReason 503 "ServiceUnavailable"), .ok true]
    let start : Clocked := ⟨⟨answers, false⟩, 0⟩
    let run := (waitForKind 5 "steward.dev/v1alpha1" "AppStack").run handler start
    run.result = true ∧
      run.exchanges.map (·.request) = [.probe "steward.dev/v1alpha1" "AppStack", .sleep 10,
        .probe "steward.dev/v1alpha1" "AppStack", .sleep 20, .probe "steward.dev/v1alpha1" "AppStack"] := by
  intro answers start run
  have refused (turn : Nat) (before : turn < 2) :
      answerAt handler "steward.dev/v1alpha1" "AppStack" start turn ≠ .ok true := by
    match turn with
    | 0 | 1 => exact fun yes => nomatch yes
  have enough : 2 < 5 := by decide
  have waits := waits_until_first_yes handler "steward.dev/v1alpha1" "AppStack" start refused rfl 5
  exact ⟨waits.1.mpr enough, (waits.2.2 enough).1⟩

end Reconciliation.Polling
