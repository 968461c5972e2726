import Reconciliation.MemoryStore

/-! # Waiting for a kind to be served

The cluster is asked again and again until it serves the kind. The time between two questions doubles
up to a limit. A failure is taken for a no.
-/

namespace Reconciliation.Polling

inductive Request
  /-- Whether a kind is served under a group and version. -/
  | probe (groupVersion kind : String)
  | sleep (seconds : UInt64)

abbrev Request.Answer : Request → Type
  | probe .. => Except Failure Bool
  | sleep _ => Unit

end Polling

/-- The requests of someone who waits for a kind. -/
abbrev Polling : Interface := ⟨Polling.Request, Polling.Request.Answer⟩

namespace Polling

/-- How many seconds the first wait takes. -/
def firstInterval : UInt64 := 10

/-- How many seconds a wait takes at most. -/
def maxInterval : UInt64 := 60

/-- How many seconds the wait takes that follows one of the given seconds. -/
def nextInterval (interval : UInt64) : UInt64 := min (interval * 2) maxInterval

/-- Ask at most `attempts` times, waiting `interval` seconds after the first failed attempt. The
result tells whether the kind was served in the end. -/
def poll (groupVersion kind : String) : Nat → UInt64 → Program Polling Bool
  | 0, _ => .done false
  | attempts + 1, interval =>
      .ask (.probe groupVersion kind) fun
        | .ok true => .done true
        | _ =>
            .ask (.sleep interval) fun _ =>
              poll groupVersion kind attempts (nextInterval interval)

/-- Wait until a kind is served, but not longer than the given number of attempts. -/
def waitForKind (attempts : Nat) (groupVersion kind : String) : Program Polling Bool :=
  poll groupVersion kind attempts firstInterval

/-- A script of answers, and the seconds since the start. -/
structure Clocked where
  probe : ScriptedProbe
  time : Nat

/-- Answer from a script; sleeping lets the time pass. -/
def handler : Handler Polling Clocked
  | .probe groupVersion kind, clocked =>
      let (served, probe) := clocked.probe.probe groupVersion kind
      (served, { clocked with probe })
  | .sleep seconds, clocked => ((), { clocked with time := clocked.time + seconds.toNat })

/-- The questions among exchanges, each with the second at which it was asked. -/
def timedProbes (time : Nat) : List (Exchange Polling) → List (String × String × Nat)
  | [] => []
  | ⟨.probe groupVersion kind, _⟩ :: rest => (groupVersion, kind, time) :: timedProbes time rest
  | ⟨.sleep seconds, _⟩ :: rest => timedProbes (time + seconds.toNat) rest

/-- The questions that are asked of a script, after which the kind is served, and when. -/
def scriptedProbes (groupVersion kind : String) (script : List (Except ApiStatus Bool)) :
    List (String × String × Nat) :=
  let run := (waitForKind (script.length + 1) groupVersion kind).run handler ⟨⟨script, true⟩, 0⟩
  timedProbes 0 run.exchanges

end Reconciliation.Polling
