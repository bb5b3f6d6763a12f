import RuleEngine.Session

/-!
# RuleEngine.Signals

The signals of a run.  Receivers are connected to one of four hook points and
get every event of that point, in connection order.  A connection has an
identity by which it is ended; identities of one signal count from zero and are
never given twice.

The signals stand in the order of the hook points, and the one of a hook point is
found at its position.

What a receiver is stays open (`ρ`): `Signals.deliver` only needs to know how
one reacts to an event, and what it is after that.
-/

namespace RuleEngine

/-! ## Hook points and events -/

/-- The points of a run at which events are sent. -/
inductive HookPoint where
  | preRun
  | postRun
  | preJob
  | postJob
deriving DecidableEq

namespace HookPoint

/-- All hook points. -/
def all : List HookPoint := [.preRun, .postRun, .preJob, .postJob]

/-- The name of a hook point. -/
def name : HookPoint → String
  | .preRun => "pre_engine_run"
  | .postRun => "post_engine_run"
  | .preJob => "pre_job_call"
  | .postJob => "post_job_call"

/-- The hook point of a name. -/
def ofName? (name : String) : Option HookPoint := all.find? fun point => point.name = name

/-- The position of a hook point among all. -/
def index : HookPoint → Nat
  | .preRun => 0
  | .postRun => 1
  | .preJob => 2
  | .postJob => 3

@[simp] theorem getElem?_index (point : HookPoint) : all[point.index]? = some point := by
  cases point <;> rfl

theorem index_lt (point : HookPoint) : point.index < all.length := by cases point <;> decide

theorem index_inj {point other : HookPoint} : point.index = other.index ↔ point = other := by
  constructor
  · intro h
    have hsome := point.getElem?_index
    rw [h, getElem?_index] at hsome
    exact (Option.some.inj hsome).symm
  · exact congrArg index

@[simp] theorem set_index (point : HookPoint) : all.set point.index point = all := by
  cases point <;> rfl

end HookPoint

/-- What receivers are told: the point of the run, and the session as it is
then. -/
inductive Event where
  /-- The run is about to start. -/
  | preRun (rule : List Job) (session : Session)
  /-- The run ended without an error. -/
  | postRun (rule : List Job) (session : Session) (completed : Bool)
  /-- The job is about to be looked up. -/
  | preJob (job : Job) (session : Session)
  /-- The job returned and its result is recorded. -/
  | postJob (job : Job) (session : Session) (result : Value)
deriving DecidableEq

/-- The hook point of an event. -/
def Event.point : Event → HookPoint
  | .preRun .. => .preRun
  | .postRun .. => .postRun
  | .preJob .. => .preJob
  | .postJob .. => .postJob

@[simp] theorem Event.point_preRun (rule : List Job) (session : Session) :
    (preRun rule session).point = .preRun := rfl

@[simp] theorem Event.point_postRun (rule : List Job) (session : Session) (completed : Bool) :
    (postRun rule session completed).point = .postRun := rfl

@[simp] theorem Event.point_preJob (job : Job) (session : Session) :
    (preJob job session).point = .preJob := rfl

@[simp] theorem Event.point_postJob (job : Job) (session : Session) (result : Value) :
    (postJob job session result).point = .postJob := rfl

/-- The session of an event. -/
def Event.session : Event → Session
  | .preRun _ s | .postRun _ s _ | .preJob _ s | .postJob _ s _ => s

/-! ## One signal -/

/-- A signal: its hook point, the identity of the next connection, and the
connections in order. -/
structure Signal (ρ : Type) where
  point : HookPoint
  next : Nat
  receivers : List (Nat × ρ)

namespace Signal

variable {ρ ω : Type}

/-- A signal without connections. -/
def new (point : HookPoint) : Signal ρ := ⟨point, 0, []⟩

/-- The name of a signal. -/
def name (s : Signal ρ) : String := s.point.name

/-- The number of connections. -/
def size (s : Signal ρ) : Nat := s.receivers.length

/-- Connects a receiver; the identity of the connection is the count of the
connections made before it. -/
def connect (s : Signal ρ) (receiver : ρ) : Nat × Signal ρ :=
  (s.next, { s with next := s.next + 1, receivers := s.receivers ++ [(s.next, receiver)] })

/-- Ends a connection; tells whether there was one. -/
def disconnect (s : Signal ρ) (id : Nat) : Bool × Signal ρ :=
  let left := s.receivers.filter fun r => r.1 ≠ id
  (left.length ≠ s.receivers.length, { s with receivers := left })

/-- Lets receivers react to an event, one after the other. -/
def reactAll (react : ρ → Event → ρ × List ω) (event : Event) :
    List (Nat × ρ) → List (Nat × ρ) × List ω
  | [] => ([], [])
  | (id, receiver) :: rest =>
    let (receiver, effects) := react receiver event
    let (rest, others) := reactAll react event rest
    ((id, receiver) :: rest, effects ++ others)

/-- Sends an event to the receivers of the signal. -/
def send (react : ρ → Event → ρ × List ω) (s : Signal ρ) (event : Event) : Signal ρ × List ω :=
  let (receivers, effects) := reactAll react event s.receivers
  ({ s with receivers := receivers }, effects)

end Signal

/-! ## All signals -/

/-- The signals of all hook points, each at the position of its hook point. -/
structure Signals (ρ : Type) where
  list : List (Signal ρ)
  points_eq : list.map Signal.point = HookPoint.all

namespace Signals

variable {ρ ω : Type}

theorem index_lt (s : Signals ρ) (point : HookPoint) : point.index < s.list.length := by
  rw [← List.length_map Signal.point, s.points_eq]
  exact point.index_lt

/-- Signals without connections. -/
def empty : Signals ρ := ⟨HookPoint.all.map Signal.new, rfl⟩

/-- The signal of a hook point. -/
def get (s : Signals ρ) (point : HookPoint) : Signal ρ := s.list.get ⟨point.index, s.index_lt point⟩

/-- What stands at the position of a hook point is the signal of that hook point. -/
@[simp] theorem point_get (s : Signals ρ) (point : HookPoint) : (s.get point).point = point := by
  have h : (s.list.map Signal.point)[point.index]? = some point := by
    rw [s.points_eq, HookPoint.getElem?_index]
  rw [List.getElem?_map, List.getElem?_eq_getElem (s.index_lt point)] at h
  exact Option.some.inj h

/-- The signals with that of one hook point replaced. -/
def set (s : Signals ρ) (point : HookPoint) (signal : Signal ρ) (h : signal.point = point) :
    Signals ρ where
  list := s.list.set point.index signal
  points_eq := by rw [List.map_set, s.points_eq, h, HookPoint.set_index]

/-- Connects a receiver to a hook point. -/
def connect (s : Signals ρ) (point : HookPoint) (receiver : ρ) : Nat × Signals ρ :=
  let connected := (s.get point).connect receiver
  (connected.1, s.set point connected.2 (s.point_get point))

/-- Ends a connection of a hook point. -/
def disconnect (s : Signals ρ) (point : HookPoint) (id : Nat) : Bool × Signals ρ :=
  let ended := (s.get point).disconnect id
  (ended.1, s.set point ended.2 (s.point_get point))

/-- Sends an event to the receivers of one hook point, whatever its own. -/
def sendTo (react : ρ → Event → ρ × List ω) (s : Signals ρ) (point : HookPoint) (event : Event) :
    Signals ρ × List ω :=
  let sent := (s.get point).send react event
  (s.set point sent.1 (s.point_get point), sent.2)

/-- Sends an event to the receivers of its hook point. -/
def send (react : ρ → Event → ρ × List ω) (s : Signals ρ) (event : Event) : Signals ρ × List ω :=
  s.sendTo react event.point event

/-- The names of the signals. -/
def names (s : Signals ρ) : List String := s.list.map Signal.name

/-- The number of receivers at each hook point. -/
def sizes (s : Signals ρ) : List Nat := s.list.map Signal.size

/-! ## Laws -/

@[simp] theorem get_set_self (s : Signals ρ) (point : HookPoint) (signal : Signal ρ)
    (h : signal.point = point) : (s.set point signal h).get point = signal :=
  List.getElem_set_self _

theorem get_set_of_ne (s : Signals ρ) {point other : HookPoint} (signal : Signal ρ)
    (h : signal.point = point) (hne : other ≠ point) :
    (s.set point signal h).get other = s.get other :=
  List.getElem_set_ne (fun heq => hne (HookPoint.index_inj.1 heq).symm) _

@[simp] theorem get_connect_self (s : Signals ρ) (point : HookPoint) (receiver : ρ) :
    (s.connect point receiver).2.get point = ((s.get point).connect receiver).2 :=
  get_set_self s point ((s.get point).connect receiver).2 (s.point_get point)

@[simp] theorem get_disconnect_self (s : Signals ρ) (point : HookPoint) (id : Nat) :
    (s.disconnect point id).2.get point = ((s.get point).disconnect id).2 :=
  get_set_self s point ((s.get point).disconnect id).2 (s.point_get point)

@[simp] theorem get_send_self (react : ρ → Event → ρ × List ω) (s : Signals ρ) (event : Event) :
    (s.send react event).1.get event.point = ((s.get event.point).send react event).1 :=
  get_set_self s event.point ((s.get event.point).send react event).1 (s.point_get event.point)

theorem get_connect_of_ne (s : Signals ρ) {point other : HookPoint} (receiver : ρ)
    (hne : other ≠ point) : (s.connect point receiver).2.get other = s.get other :=
  get_set_of_ne s ((s.get point).connect receiver).2 (s.point_get point) hne

theorem get_disconnect_of_ne (s : Signals ρ) {point other : HookPoint} (id : Nat)
    (hne : other ≠ point) : (s.disconnect point id).2.get other = s.get other :=
  get_set_of_ne s ((s.get point).disconnect id).2 (s.point_get point) hne

theorem get_send_of_ne (react : ρ → Event → ρ × List ω) (s : Signals ρ) {event : Event}
    {other : HookPoint} (hne : other ≠ event.point) :
    (s.send react event).1.get other = s.get other :=
  get_set_of_ne s ((s.get event.point).send react event).1 (s.point_get event.point) hne

@[simp] theorem get_empty (point : HookPoint) : (empty : Signals ρ).get point = .new point := by
  cases point <;> rfl

/-- The names stand in the order of the hook points, whatever was connected. -/
theorem names_eq (s : Signals ρ) : s.names = HookPoint.all.map HookPoint.name := by
  rw [← s.points_eq, List.map_map]
  rfl

end Signals

end RuleEngine
