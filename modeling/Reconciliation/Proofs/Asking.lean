import Reconciliation.Program

/-! # What programs ask

Whatever the answers are, a program can send only the requests that are written in it. So a condition on
all its requests is found by looking at the program alone, and holds of every exchange of every run.

Two environments that answer such requests alike cannot be told apart by the program, even if they differ
in everything else; and a program that sends only requests of the other sort leaves what they have in
common alone.
-/

namespace Reconciliation

namespace Program

variable {interface lower : Interface} {σ τ α β ε : Type}

/-- All requests that a program can send meet a condition, whatever it is answered. -/
inductive Asks (allowed : interface.Request → Prop) : Program interface α → Prop
  | done (result : α) : Asks allowed (done result)
  | ask {request : interface.Request} {next : interface.Answer request → Program interface α}
      (permitted : allowed request) (rest : ∀ answer, Asks allowed (next answer)) :
      Asks allowed (ask request next)

/-- Expanding a composed program is composing the expansions. -/
theorem expand_bind (answer : (request : interface.Request) → Program lower (interface.Answer request))
    (program : Program interface α) (next : α → Program interface β) :
    (program.bind next).expand answer =
      (program.expand answer).bind fun result => (next result).expand answer := by
  induction program with
  | done result => rfl
  | ask request rest ih => simp only [bind_ask, expand, ih, bind_assoc]

theorem expand_map (answer : (request : interface.Request) → Program lower (interface.Answer request))
    (f : α → β) (program : Program interface α) :
    (program.map f).expand answer = (program.expand answer).map f := expand_bind answer program _

theorem run_map (handler : Handler interface σ) (f : α → β) (program : Program interface α) (state : σ) :
    (program.map f).run handler state =
      let run := program.run handler state
      ⟨f run.result, run.state, run.exchanges⟩ := by
  rw [map, run_bind]
  simp only [run_done, List.append_nil]

/-- What a composed program does once it is known what its first part does. -/
theorem run_bind_of {handler : Handler interface σ} {program : Program interface α} {state after : σ} {result : α}
    (answer : (program.run handler state).result = result) (left : (program.run handler state).state = after)
    (next : α → Program interface β) :
    (program.bind next).run handler state =
      let rest := (next result).run handler after
      ⟨rest.result, rest.state, (program.run handler state).exchanges ++ rest.exchanges⟩ := by
  subst answer left
  exact run_bind handler program next state

namespace Asks

variable {allowed : interface.Request → Prop} {program : Program interface α}

theorem bind {next : α → Program interface β} (first : program.Asks allowed)
    (second : ∀ result, (next result).Asks allowed) : (program.bind next).Asks allowed := by
  induction first with
  | done result => exact second result
  | ask permitted rest ih => exact .ask permitted ih

theorem map {f : α → β} (asks : program.Asks allowed) : (program.map f).Asks allowed :=
  asks.bind fun result => .done (f result)

theorem andThen {program : Program interface (Except ε α)} {next : α → Program interface (Except ε β)}
    (first : program.Asks allowed) (second : ∀ result, (next result).Asks allowed) :
    (program.andThen next).Asks allowed := by
  refine first.bind fun result => ?_
  cases result with
  | error failure => exact .done _
  | ok result => exact second result

theorem each {step : α → Program interface (Except ε β)} (steps : ∀ item, (step item).Asks allowed)
    (items : List α) : (each step items).Asks allowed := by
  induction items with
  | nil => exact .done _
  | cons item rest ih => exact (steps item).andThen fun result => ih.map

/-- What a program asks after every request of it has been replaced by a program. -/
theorem expand {answer : (request : interface.Request) → Program lower (interface.Answer request)}
    {below : lower.Request → Prop} (asks : program.Asks allowed)
    (answers : ∀ request, allowed request → (answer request).Asks below) :
    (program.expand answer).Asks below := by
  induction asks with
  | done result => exact .done result
  | ask permitted rest ih => exact (answers _ permitted).bind ih

theorem mono {wider : interface.Request → Prop} (asks : program.Asks allowed)
    (implies : ∀ request, allowed request → wider request) : program.Asks wider := by
  induction asks with
  | done result => exact .done result
  | ask permitted rest ih => exact .ask (implies _ permitted) ih

/-- The condition holds of all requests that are sent in a run. -/
theorem of_run (asks : program.Asks allowed) (handler : Handler interface σ) (state : σ) :
    ∀ exchange ∈ (program.run handler state).exchanges, allowed exchange.request := by
  induction asks generalizing state with
  | done result => exact fun _ within => absurd within List.not_mem_nil
  | ask permitted rest ih => exact List.forall_mem_cons.mpr ⟨permitted, ih _ _⟩

/-- What none of the requests ends holds after a run if it did before. -/
theorem holds_of_run (asks : program.Asks allowed) {handler : Handler interface σ} {holds : σ → Prop}
    (steps : ∀ request, allowed request → ∀ state, holds state → holds (handler request state).2) {state : σ}
    (start : holds state) : holds (program.run handler state).state := by
  induction asks generalizing state with
  | done result => exact start
  | ask permitted rest ih => exact ih _ (steps _ permitted state start)

/-- If none of the requests changes the state, the run does not. -/
theorem state_of_still (asks : program.Asks allowed) {handler : Handler interface σ} {state : σ}
    (still : ∀ request, allowed request → (handler request state).2 = state) :
    (program.run handler state).state = state := by
  induction asks with
  | done result => rfl
  | ask permitted rest ih =>
    simp only [run, still _ permitted]
    exact ih _

end Asks

end Program

/-- Two environments answer the requests of a condition alike: from states that agree, with the same
answers and leaving states that agree. -/
def AnswerAlike {interface : Interface} {σ τ : Type} (allowed : interface.Request → Prop)
    (first : Handler interface σ) (second : Handler interface τ) (agree : σ → τ → Prop) : Prop :=
  ∀ request, allowed request → ∀ s t, agree s t →
    (first request s).1 = (second request t).1 ∧ agree (first request s).2 (second request t).2

/-- Two environments differ only in how they treat the requests of a condition. Their states agree in all
that matters to the others, and requests of the condition do not touch that. -/
structure DifferOnlyOn {interface : Interface} {σ τ : Type} (odd : interface.Request → Prop)
    (first : Handler interface σ) (second : Handler interface τ) (agree : σ → τ → Prop) : Prop where
  alike : AnswerAlike (fun request => ¬ odd request) first second agree
  first_keeps : ∀ request, odd request → ∀ s t, agree s t → agree (first request s).2 t
  second_keeps : ∀ request, odd request → ∀ s t, agree s t → agree s (second request t).2

namespace Program.Asks

variable {interface : Interface} {σ τ α : Type} {allowed odd : interface.Request → Prop}
  {program : Program interface α} {first : Handler interface σ} {second : Handler interface τ}
  {agree : σ → τ → Prop} {s : σ} {t : τ}

/-- A program cannot tell apart environments that answer all its requests alike. -/
theorem run_alike (asks : program.Asks allowed) (alike : AnswerAlike allowed first second agree)
    (start : agree s t) :
    (program.run first s).result = (program.run second t).result ∧
      (program.run first s).exchanges = (program.run second t).exchanges ∧
      agree (program.run first s).state (program.run second t).state := by
  induction asks generalizing s t with
  | done result => exact ⟨rfl, rfl, start⟩
  | ask permitted rest ih =>
    obtain ⟨answers, states⟩ := alike _ permitted s t start
    simp only [run, answers]
    obtain ⟨results, exchanges, agrees⟩ := ih _ states
    exact ⟨results, congrArg _ exchanges, agrees⟩

/-- Two programs that ask only what the environments may treat differently leave them in agreement. -/
theorem run_odd {other : Program interface α} (asks : program.Asks odd) (others : other.Asks odd)
    (differ : DifferOnlyOn odd first second agree) (start : agree s t) :
    agree (program.run first s).state (other.run second t).state := by
  have left : agree (program.run first s).state t := by
    induction asks generalizing s with
    | done result => exact start
    | ask permitted rest ih => exact ih _ (differ.first_keeps _ permitted s t start)
  clear start
  induction others generalizing t with
  | done result => exact left
  | ask permitted rest ih => exact ih _ (differ.second_keeps _ permitted _ t left)

end Program.Asks

end Reconciliation
