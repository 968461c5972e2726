/-! # Programs that ask their environment

A program either has its result or asks a request and goes on with the answer. What requests there are,
and what answers each has, is an `Interface`. A program says nothing about who answers: `Program.run`
runs it against a `Handler`, which answers from a state, and `Program.expand` turns it into a
program of another interface. Every run ends, because programs are well-founded.
-/

namespace Reconciliation

/-- Requests, and the type of the answers to each. -/
structure Interface where
  Request : Type
  Answer : Request → Type

/-- A computation that may ask requests of an interface. -/
inductive Program (interface : Interface) (α : Type)
  | done (result : α)
  | ask (request : interface.Request) (next : interface.Answer request → Program interface α)

/-- A request and the answer that was given to it. -/
structure Exchange (interface : Interface) where
  request : interface.Request
  answer : interface.Answer request

/-- Answers every request, changing a state. -/
abbrev Handler (interface : Interface) (σ : Type) : Type :=
  (request : interface.Request) → σ → interface.Answer request × σ

/-- What became of a program: its result, the state it left, and all exchanges in order. -/
structure Run (interface : Interface) (σ α : Type) where
  result : α
  state : σ
  exchanges : List (Exchange interface)

namespace Program

variable {interface lower : Interface} {σ α β γ ε : Type}

/-- Go on with the result of a program. -/
def bind : Program interface α → (α → Program interface β) → Program interface β
  | done result, further => further result
  | ask request next, further => ask request fun answer => (next answer).bind further

def map (f : α → β) (program : Program interface α) : Program interface β :=
  program.bind fun result => done (f result)

/-- Ask a request and take its answer for the result. -/
def send (request : interface.Request) : Program interface (interface.Answer request) :=
  ask request done

/-- Go on with the result of a program unless it is a failure. -/
def andThen (program : Program interface (Except ε α)) (next : α → Program interface (Except ε β)) :
    Program interface (Except ε β) :=
  program.bind fun
    | .error failure => done (.error failure)
    | .ok result => next result

/-- Ask what `step` asks for each item in turn, up to the first failure. -/
def each (step : α → Program interface (Except ε β)) : List α → Program interface (Except ε (List β))
  | [] => done (.ok [])
  | item :: items =>
      (step item).andThen fun result => (each step items).map fun results => results.map (result :: ·)

/-- Replace every request by a program that finds the answer to it. -/
def expand (answer : (request : interface.Request) → Program lower (interface.Answer request)) :
    Program interface α → Program lower α
  | done result => done result
  | ask request next => (answer request).bind fun found => (next found).expand answer

/-- Run a program against a handler. -/
def run (handler : Handler interface σ) : Program interface α → σ → Run interface σ α
  | done result, state => ⟨result, state, []⟩
  | ask request next, state =>
      let (answer, state) := handler request state
      let rest := (next answer).run handler state
      ⟨rest.result, rest.state, ⟨request, answer⟩ :: rest.exchanges⟩

/-- Run programs one after the other, each from the state that the one before it left. -/
def runEach (handler : Handler interface σ) : List (Program interface α) → σ → List (Run interface σ α)
  | [], _ => []
  | program :: programs, state =>
      let first := program.run handler state
      first :: runEach handler programs first.state

@[simp] theorem bind_done (result : α) (next : α → Program interface β) :
    (done result).bind next = next result := rfl

@[simp] theorem bind_ask (request : interface.Request)
    (next : interface.Answer request → Program interface α) (further : α → Program interface β) :
    (ask request next).bind further = ask request fun answer => (next answer).bind further := rfl

theorem bind_assoc (program : Program interface α) (next : α → Program interface β)
    (further : β → Program interface γ) :
    (program.bind next).bind further = program.bind fun result => (next result).bind further := by
  induction program with
  | done result => rfl
  | ask request rest ih => simp only [bind_ask, ih]

@[simp] theorem run_done (handler : Handler interface σ) (result : α) (state : σ) :
    (done result : Program interface α).run handler state = ⟨result, state, []⟩ := rfl

/-- Running a composed program is running its parts one after the other. -/
theorem run_bind (handler : Handler interface σ) (program : Program interface α)
    (next : α → Program interface β) (state : σ) :
    (program.bind next).run handler state =
      let first := program.run handler state
      let second := (next first.result).run handler first.state
      ⟨second.result, second.state, first.exchanges ++ second.exchanges⟩ := by
  induction program generalizing state with
  | done result => rfl
  | ask request rest ih => simp only [bind_ask, run, ih, List.cons_append]

end Program

end Reconciliation
