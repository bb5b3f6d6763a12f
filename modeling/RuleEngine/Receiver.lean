import RuleEngine.Run
import RuleEngine.RunLog

/-!
# RuleEngine.Receiver

The receivers that an engine knows: observers, which take note of every event
they are told, and run logs.
-/

namespace RuleEngine

/-- A receiver. -/
inductive Receiver where
  /-- An observer of the given name. -/
  | observer (name : String)
  /-- A run log. -/
  | runLog (log : RunLog)
deriving DecidableEq

namespace Receiver

/-- How a receiver reacts to an event. -/
def react (w : Surroundings) : Receiver → Event → Receiver × List Effect
  | .observer name, event => (.observer name, [.seen name event])
  | .runLog log, event =>
    let (log, effects) := log.onEvent w event
    (.runLog log, effects)

end Receiver

namespace Signals

/-- Lets happenings take effect in order: events are sent to the receivers of
their hook points, notices are told. -/
def deliver (w : Surroundings) (signals : Signals Receiver) :
    List Happening → Signals Receiver × List Effect
  | [] => (signals, [])
  | .notice n :: rest =>
    let (signals, effects) := deliver w signals rest
    (signals, .notice n :: effects)
  | .event e :: rest =>
    let (signals, effects) := signals.send (Receiver.react w) e
    let (signals, others) := deliver w signals rest
    (signals, effects ++ others)

end Signals

end RuleEngine
