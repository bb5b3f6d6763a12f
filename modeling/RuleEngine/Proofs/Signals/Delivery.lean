import Mathlib.Data.Set.Card
import RuleEngine.Signals

/-!
# RuleEngine.Proofs.Signals.Delivery

Who is connected and who is told, after any steps on signals.

1. A `Step` connects a receiver (to a hook point, or to the one of a name), ends a
   connection, or sends an event; `Signals.steps` takes steps one after the other and
   collects what they answer.
2. `Connected` says from the steps alone which connections there are: those that were made
   and not ended since, each with the receiver that the events sent since made of it.
3. `Tracks` is the invariant of one signal: its receivers are the connected ones, and their
   identities increase along the list.  `connected_concat` says what one more step does to
   `Connected`, and there is one lemma on `Tracks` for each thing a step can be to a signal.

From the order of the identities it follows that ending a connection takes exactly one
receiver away (`disconnect_receivers`).
-/

namespace RuleEngine

/-- The hook point of a name is the one that has the name. -/
theorem HookPoint.ofName?_eq_some_iff {name : String} {point : HookPoint} :
    ofName? name = some point ↔ point.name = name := by
  constructor
  · intro h
    simpa using List.find?_some h
  · intro h
    subst h
    cases point <;> rfl

namespace Signals

/-! ## Steps -/

/-- A step on signals. -/
inductive Step (ρ : Type) where
  /-- Connects a receiver to a hook point. -/
  | connect (point : HookPoint) (receiver : ρ)
  /-- Connects a receiver to the hook point of a name, if there is one. -/
  | connectByName (name : String) (receiver : ρ)
  /-- Ends a connection of a hook point. -/
  | disconnect (point : HookPoint) (id : Nat)
  /-- Sends an event. -/
  | send (event : Event)

/-- What a step answers. -/
inductive Answer (ω : Type) where
  | connected (point : HookPoint) (id : Nat)
  | unknownName
  | disconnected (found : Bool)
  | sent (effects : List ω)

variable {ρ ω : Type} (react : ρ → Event → ρ × List ω) (point : HookPoint)

/-- Takes a step. -/
def step (s : Signals ρ) : Step ρ → Answer ω × Signals ρ
  | .connect point receiver =>
    let (id, signals) := s.connect point receiver
    (.connected point id, signals)
  | .connectByName name receiver =>
    match HookPoint.ofName? name with
    | some point =>
      let (id, signals) := s.connect point receiver
      (.connected point id, signals)
    | none => (.unknownName, s)
  | .disconnect point id =>
    let (found, signals) := s.disconnect point id
    (.disconnected found, signals)
  | .send event =>
    let (signals, effects) := s.send react event
    (.sent effects, signals)

/-- Takes steps one after the other. -/
def steps (s : Signals ρ) : List (Step ρ) → List (Answer ω) × Signals ρ
  | [] => ([], s)
  | first :: rest =>
    let (answer, signals) := s.step react first
    let (answers, signals) := steps signals rest
    (answer :: answers, signals)

/-! ## What the steps say -/

/-- The connection that a step makes: to which hook point, and of which receiver. -/
def Step.connection? : Step ρ → Option (HookPoint × ρ)
  | .connect point receiver => some (point, receiver)
  | .connectByName name receiver => (HookPoint.ofName? name).map fun point => (point, receiver)
  | .disconnect .. | .send _ => none

/-- Whether a step makes a connection to the hook point. -/
def Step.connectsTo (step : Step ρ) : Bool := step.connection?.any fun c => c.1 = point

/-- The event that a step sends to the hook point. -/
def Step.sentTo? : Step ρ → Option Event
  | .send event => if event.point = point then some event else none
  | .connect .. | .connectByName .. | .disconnect .. => none

/-- The number of connections that steps make to the hook point. -/
def connectsAt (steps : List (Step ρ)) : Nat := steps.countP fun step => step.connectsTo point

/-- The events that steps send to the hook point, in order. -/
def sentAt (steps : List (Step ρ)) : List Event := steps.filterMap fun step => step.sentTo? point

/-- The identities among answers that were given at the hook point, in order. -/
def idsAt (answers : List (Answer ω)) : List Nat :=
  answers.filterMap fun
    | .connected other id => if other = point then some id else none
    | .unknownName | .disconnected _ | .sent _ => none

/-- What events make of a receiver, one after the other. -/
def becomes (receiver : ρ) (events : List Event) : ρ :=
  events.foldl (fun receiver event => (react receiver event).1) receiver

/-- The connections of the hook point after steps: a step made the connection, its
identity is the number of those made before it, no later step ended it, and the later
events of the hook point made its receiver what it is. -/
inductive Connected (taken : List (Step ρ)) : Nat × ρ → Prop
  | intro {before after : List (Step ρ)} {step : Step ρ} {receiver : ρ}
    (taken_eq : taken = before ++ step :: after)
    (made : step.connection? = some (point, receiver))
    (kept : .disconnect point (connectsAt point before) ∉ after) :
    Connected taken (connectsAt point before, becomes react receiver (sentAt point after))

/-! ### One more step -/

section

variable {point}

theorem connectsTo_iff {step : Step ρ} :
    step.connectsTo point = true ↔ ∃ receiver, step.connection? = some (point, receiver) := by
  simp only [Step.connectsTo, Option.any_eq_true, decide_eq_true_eq]
  constructor
  · intro h
    obtain ⟨⟨other, receiver⟩, hmade, rfl⟩ := h
    exact ⟨receiver, hmade⟩
  · intro h
    obtain ⟨receiver, hmade⟩ := h
    exact ⟨_, hmade, rfl⟩

theorem sentTo?_of_connection {step : Step ρ} {c : HookPoint × ρ} (h : step.connection? = some c) :
    step.sentTo? point = none := by
  cases step with
  | connect | connectByName | disconnect => rfl
  | send event => cases h

@[simp] theorem connectsAt_nil : connectsAt point ([] : List (Step ρ)) = 0 := rfl

theorem connectsAt_cons (step : Step ρ) (taken : List (Step ρ)) :
    connectsAt point (step :: taken) =
      connectsAt point taken + if step.connectsTo point then 1 else 0 :=
  List.countP_cons

theorem connectsAt_append (taken others : List (Step ρ)) :
    connectsAt point (taken ++ others) = connectsAt point taken + connectsAt point others :=
  List.countP_append ..

/-- The identity of a connection is one of those given so far. -/
theorem Connected.lt {taken : List (Step ρ)} {c : Nat × ρ} (h : Connected react point taken c) :
    c.1 < connectsAt point taken := by
  cases h with
  | @intro before after step receiver taken_eq made kept =>
    have hstep : step.connectsTo point = true := connectsTo_iff.2 ⟨receiver, made⟩
    have hcount : connectsAt point (before ++ step :: after) = _ := connectsAt_append ..
    rw [connectsAt_cons, if_pos hstep] at hcount
    simp only [taken_eq, hcount]
    omega

/-- After one more step there are the connection that it makes, and the others as far as it
does not end them, their receivers told the event that it sends. -/
theorem connected_concat {taken : List (Step ρ)} {step : Step ρ} {c : Nat × ρ} :
    Connected react point (taken ++ [step]) c ↔
      (∃ receiver, step.connection? = some (point, receiver) ∧
        c = (connectsAt point taken, receiver)) ∨
      ∃ receiver, Connected react point taken (c.1, receiver) ∧
        step ≠ .disconnect point c.1 ∧
        c.2 = becomes react receiver (step.sentTo? point).toList := by
  constructor
  · intro h
    cases h with
    | @intro before after made receiver taken_eq hmade kept =>
      obtain rfl | ⟨init, last, rfl⟩ := List.eq_nil_or_concat after
      · obtain ⟨rfl, hlast⟩ := List.append_inj' taken_eq rfl
        cases hlast
        exact .inl ⟨receiver, hmade, rfl⟩
      · -- the step is the last one after the connection was made
        rw [List.concat_eq_append, ← List.cons_append, ← List.append_assoc] at taken_eq
        obtain ⟨rfl, hlast⟩ := List.append_inj' taken_eq rfl
        cases hlast
        rw [List.concat_eq_append, List.mem_append, not_or, List.mem_singleton] at kept
        refine .inr ⟨_, .intro rfl hmade kept.1, fun h => kept.2 h.symm, ?_⟩
        cases hsent : step.sentTo? point <;> simp [sentAt, becomes, hsent]
  · intro h
    obtain ⟨receiver, hmade, rfl⟩ | ⟨receiver, hc, hkept, hbecomes⟩ := h
    · have hlast : Connected react point (taken ++ [step])
          (connectsAt point taken, becomes react receiver (sentAt point [])) :=
        .intro rfl hmade List.not_mem_nil
      exact hlast
    · obtain ⟨id, current⟩ := c
      simp only at hc hkept hbecomes
      subst hbecomes
      generalize hr : (id, receiver) = r at hc
      cases hc with
      | @intro before after made start taken_eq hmade kept =>
        cases hr
        have hsplit : taken ++ [step] = before ++ made :: (after ++ [step]) := by
          simp [taken_eq]
        have hkept' : .disconnect point (connectsAt point before) ∉ after ++ [step] := by
          simp [kept, Ne.symm hkept]
        have hintro : Connected react point (taken ++ [step]) _ := .intro hsplit hmade hkept'
        cases hsent : step.sentTo? point <;> simpa [sentAt, becomes, hsent] using hintro

end

/-! ## One signal -/

/-- A signal holds the connections of the hook point after steps, in the order of their
identities. -/
structure Tracks (taken : List (Step ρ)) (signal : Signal ρ) : Prop where
  next : signal.next = connectsAt point taken
  increasing : (signal.receivers.map Prod.fst).Pairwise (· < ·)
  connected : ∀ c, c ∈ signal.receivers ↔ Connected react point taken c

theorem tracks_new : Tracks react point [] (.new point : Signal ρ) where
  next := rfl
  increasing := .nil
  connected c := by
    refine iff_of_false List.not_mem_nil ?_
    intro h
    exact Nat.not_lt_zero _ h.lt

end Signals

namespace Signal

variable {ρ ω : Type}

/-- Every receiver reacts to the event once. -/
theorem reactAll_eq (react : ρ → Event → ρ × List ω) (event : Event) (receivers : List (Nat × ρ)) :
    reactAll react event receivers =
      (receivers.map fun c => (c.1, (react c.2 event).1),
        receivers.flatMap fun c => (react c.2 event).2) := by
  induction receivers with
  | nil => rfl
  | cons first rest ih => simp [reactAll, ih]

/-- Where identities increase, one that is there stands at one place. -/
theorem filter_ne_of_increasing {receivers : List (Nat × ρ)} {id : Nat} {receiver : ρ}
    (h : (receivers.map Prod.fst).Pairwise (· < ·)) (hmem : (id, receiver) ∈ receivers) :
    ∃ before after, receivers = before ++ (id, receiver) :: after ∧
      receivers.filter (fun c => c.1 ≠ id) = before ++ after := by
  obtain ⟨before, after, rfl⟩ := List.append_of_mem hmem
  refine ⟨before, after, rfl, ?_⟩
  rw [List.map_append, List.pairwise_append, List.map_cons, List.pairwise_cons] at h
  obtain ⟨-, ⟨hafter, -⟩, hbefore⟩ := h
  have hb : before.filter (fun c => c.1 ≠ id) = before := by
    rw [List.filter_eq_self]
    intro c hc
    have hlt := hbefore c.1 (List.mem_map_of_mem hc) id (by simp)
    simp [Nat.ne_of_lt hlt]
  have ha : after.filter (fun c => c.1 ≠ id) = after := by
    rw [List.filter_eq_self]
    intro c hc
    have hlt := hafter c.1 (List.mem_map_of_mem hc)
    simp [Nat.ne_of_gt hlt]
  rw [List.filter_append, List.filter_cons_of_neg (by simp), hb, ha]

theorem filter_ne_of_notMem {receivers : List (Nat × ρ)} {id : Nat}
    (h : ∀ c ∈ receivers, c.1 ≠ id) : receivers.filter (fun c => c.1 ≠ id) = receivers := by
  rw [List.filter_eq_self]
  intro c hc
  simp [h c hc]

end Signal

namespace Signals

variable {ρ ω : Type} {react : ρ → Event → ρ × List ω} {point : HookPoint}
  {taken : List (Step ρ)} {signal : Signal ρ}

namespace Tracks

theorem connect {step : Step ρ} {receiver : ρ} (h : Tracks react point taken signal)
    (hstep : step.connection? = some (point, receiver)) :
    Tracks react point (taken ++ [step]) (signal.connect receiver).2 where
  next := by
    have hto : step.connectsTo point = true := connectsTo_iff.2 ⟨receiver, hstep⟩
    simp [Signal.connect, connectsAt_append, connectsAt_cons, hto, h.next]
  increasing := by
    simp only [Signal.connect, List.map_append, List.map_cons, List.map_nil, List.pairwise_append]
    refine ⟨h.increasing, List.pairwise_singleton .., ?_⟩
    intro id hid other hother
    obtain ⟨c, hc, rfl⟩ := List.mem_map.1 hid
    rw [List.mem_singleton.1 hother, h.next]
    exact ((h.connected c).1 hc).lt
  connected c := by
    have hne : step ≠ .disconnect point c.1 := by
      intro heq
      rw [heq] at hstep
      cases hstep
    simp only [Signal.connect, List.mem_append, List.mem_singleton, connected_concat, hstep,
      sentTo?_of_connection hstep, h.connected, h.next]
    constructor
    · intro hc
      obtain hc | rfl := hc
      · exact .inr ⟨c.2, hc, hne, rfl⟩
      · exact .inl ⟨receiver, rfl, rfl⟩
    · intro hc
      obtain ⟨other, hother, rfl⟩ | ⟨other, hc, -, hsame⟩ := hc
      · cases hother
        exact .inr rfl
      · refine .inl ?_
        obtain ⟨id, current⟩ := c
        cases hsame
        exact hc

theorem disconnect {id : Nat} (h : Tracks react point taken signal) :
    Tracks react point (taken ++ [.disconnect point id]) (signal.disconnect id).2 where
  next := by simp [Signal.disconnect, connectsAt_append, connectsAt_cons, Step.connectsTo,
    Step.connection?, h.next]
  increasing := h.increasing.sublist (List.filter_sublist.map _)
  connected c := by
    simp only [Signal.disconnect, List.mem_filter, h.connected, connected_concat,
      Step.connection?, Step.sentTo?, decide_eq_true_eq]
    constructor
    · intro hc
      refine .inr ⟨c.2, hc.1, ?_, rfl⟩
      intro heq
      cases heq
      exact hc.2 rfl
    · intro hc
      obtain ⟨_, hmade, -⟩ | ⟨other, hc, hne, hsame⟩ := hc
      · cases hmade
      · obtain ⟨cid, current⟩ := c
        cases hsame
        refine ⟨hc, ?_⟩
        intro heq
        exact hne (heq ▸ rfl)

theorem send {event : Event} (h : Tracks react point taken signal) (hpoint : event.point = point) :
    Tracks react point (taken ++ [.send event]) (signal.send react event).1 where
  next := by simp [Signal.send, connectsAt_append, connectsAt_cons, Step.connectsTo,
    Step.connection?, h.next]
  increasing := by
    simpa [Signal.send, Signal.reactAll_eq, Function.comp_def] using h.increasing
  connected c := by
    simp only [Signal.send, Signal.reactAll_eq, List.mem_map, connected_concat, Step.connection?,
      Step.sentTo?, if_pos hpoint, h.connected]
    constructor
    · intro hc
      obtain ⟨old, hold, rfl⟩ := hc
      exact .inr ⟨old.2, hold, by simp, rfl⟩
    · intro hc
      obtain ⟨_, hmade, -⟩ | ⟨other, hc, -, hbecomes⟩ := hc
      · cases hmade
      · obtain ⟨id, current⟩ := c
        cases hbecomes
        exact ⟨_, hc, rfl⟩

/-- A step that is about other hook points. -/
theorem skip {step : Step ρ} (h : Tracks react point taken signal)
    (hmade : ∀ receiver, step.connection? ≠ some (point, receiver))
    (hkept : ∀ id, step ≠ .disconnect point id) (hsent : step.sentTo? point = none) :
    Tracks react point (taken ++ [step]) signal where
  next := by
    have hto : ¬ step.connectsTo point = true := by
      rw [connectsTo_iff]
      exact fun hto => hto.elim hmade
    simp [connectsAt_append, connectsAt_cons, hto, h.next]
  increasing := h.increasing
  connected c := by
    rw [h.connected, connected_concat, hsent]
    constructor
    · exact fun hc => .inr ⟨c.2, hc, hkept c.1, rfl⟩
    · intro hc
      obtain ⟨receiver, hc, -⟩ | ⟨receiver, hc, -, hsame⟩ := hc
      · exact absurd hc (hmade receiver)
      · obtain ⟨id, current⟩ := c
        cases hsame
        exact hc

end Tracks

/-! ## All signals -/

/-- What is known of the signal of one hook point and of the others is known of all. -/
theorem tracks_set {s : Signals ρ} {target : HookPoint} {changed : Signal ρ}
    (htarget : Tracks react target taken changed) (hpoint : changed.point = target)
    (hothers : ∀ point ≠ target, Tracks react point taken (s.get point)) (point : HookPoint) :
    Tracks react point taken ((s.set target changed hpoint).get point) := by
  by_cases h : point = target
  · subst h
    rw [get_set_self]
    exact htarget
  · rw [get_set_of_ne _ _ _ h]
    exact hothers point h

section

variable {s : Signals ρ} (h : ∀ point, Tracks react point taken (s.get point))

include h

theorem tracks_connect {step : Step ρ} {target : HookPoint} {receiver : ρ}
    (hstep : step.connection? = some (target, receiver)) (point : HookPoint) :
    Tracks react point (taken ++ [step]) ((s.connect target receiver).2.get point) := by
  refine tracks_set ((h target).connect hstep) (s.point_get target) ?_ point
  intro other hother
  refine (h other).skip ?_ ?_ (sentTo?_of_connection hstep)
  · intro receiver' hmade
    rw [hstep] at hmade
    cases hmade
    exact hother rfl
  · intro id heq
    rw [heq] at hstep
    cases hstep

/-- A step keeps what is known of every signal. -/
theorem tracks_step (step : Step ρ) (point : HookPoint) :
    Tracks react point (taken ++ [step]) ((s.step react step).2.get point) := by
  cases step with
  | connect target receiver => exact tracks_connect h rfl point
  | connectByName name receiver =>
    simp only [Signals.step]
    cases hname : HookPoint.ofName? name with
    | some target => exact tracks_connect h (by simp [Step.connection?, hname]) point
    | none =>
      have hmade : (Step.connectByName name receiver).connection? = none := by
        simp [Step.connection?, hname]
      exact (h point).skip (by simp [hmade]) nofun rfl
  | disconnect target id =>
    refine tracks_set (h target).disconnect (s.point_get target) ?_ point
    intro other hother
    refine (h other).skip nofun ?_ rfl
    intro id' heq
    cases heq
    exact hother rfl
  | send event =>
    refine tracks_set ((h event.point).send rfl) (s.point_get event.point) ?_ point
    intro other hother
    exact (h other).skip nofun nofun (by simp [Step.sentTo?, Ne.symm hother])

/-- A step that connects answers the number of connections made before it. -/
theorem idsAt_step (step : Step ρ) (point : HookPoint) :
    idsAt point [(s.step react step).1] =
      if step.connectsTo point then [connectsAt point taken] else [] := by
  have hconnect (target : HookPoint) (receiver : ρ) :
      idsAt point [(Answer.connected target (s.connect target receiver).1 : Answer ω)] =
        if target = point then [connectsAt point taken] else [] := by
    by_cases htarget : target = point
    · subst htarget
      simp [idsAt, Signals.connect, Signal.connect, (h target).next]
    · simp [idsAt, htarget]
  cases step with
  | connect target receiver =>
    simpa [Signals.step, Step.connectsTo, Step.connection?] using hconnect target receiver
  | connectByName name receiver =>
    cases hname : HookPoint.ofName? name with
    | some target =>
      simpa [Signals.step, Step.connectsTo, Step.connection?, hname] using hconnect target receiver
    | none => simp [Signals.step, Step.connectsTo, Step.connection?, hname, idsAt]
  | disconnect target id => rfl
  | send event => rfl

end

/-- Steps keep what is known of every signal. -/
theorem tracks_steps (rest : List (Step ρ)) {taken : List (Step ρ)} {s : Signals ρ}
    (h : ∀ point, Tracks react point taken (s.get point)) (point : HookPoint) :
    Tracks react point (taken ++ rest) ((s.steps react rest).2.get point) := by
  induction rest generalizing taken s with
  | nil =>
    rw [List.append_nil]
    exact h point
  | cons step rest ih =>
    have hrest := ih (tracks_step h step)
    rwa [List.append_assoc] at hrest

/-- The identities that steps give at a hook point go on from those given before. -/
theorem idsAt_steps (rest : List (Step ρ)) {taken : List (Step ρ)} {s : Signals ρ}
    (h : ∀ point, Tracks react point taken (s.get point)) (point : HookPoint) :
    idsAt point (s.steps react rest).1 =
      List.range' (connectsAt point taken) (connectsAt point rest) := by
  induction rest generalizing taken s with
  | nil => rfl
  | cons step rest ih =>
    have hfirst := idsAt_step h step point
    have hrest := ih (tracks_step h step)
    have hcons : idsAt point (s.steps react (step :: rest)).1 =
        idsAt point [(s.step react step).1] ++
          idsAt point ((s.step react step).2.steps react rest).1 :=
      List.filterMap_append (l := [(s.step react step).1])
    rw [hcons, hfirst, hrest, connectsAt_append, connectsAt_cons, connectsAt_cons]
    by_cases hto : step.connectsTo point = true
    · simp [hto, List.range'_succ]
    · simp [hto]

/-- Signals without connections hold those that no steps make. -/
theorem tracks_empty (react : ρ → Event → ρ × List ω) (point : HookPoint) :
    Tracks react point [] ((empty : Signals ρ).get point) := by
  rw [get_empty]
  exact tracks_new react point

/-- As long as fewer than `2 ^ 64` connections are made to a hook point, its identities and
the next of them are 64-bit words. -/
theorem ids_lt_of_connectsAt_lt {taken : List (Step ρ)} (h : connectsAt point taken < 2 ^ 64) :
    (∀ id ∈ idsAt point (steps react .empty taken).1, id < 2 ^ 64) ∧
      ((steps react .empty taken).2.get point).next < 2 ^ 64 := by
  have htracks := tracks_steps taken (tracks_empty react) point
  rw [List.nil_append] at htracks
  rw [idsAt_steps taken (tracks_empty react), htracks.next, connectsAt_nil]
  refine ⟨fun id hid => ?_, h⟩
  obtain ⟨-, hid⟩ := List.mem_range'_1.1 hid
  omega

/-! ## Delivery -/

/-- Ending a connection: whether there was one, and what is left of the signals. -/
structure Ends (react : ρ → Event → ρ × List ω) (taken : List (Step ρ)) (s : Signals ρ)
    (point : HookPoint) (id : Nat) : Prop where
  /-- The answer is whether the connection is there. -/
  found_iff : (s.disconnect point id).1 = true ↔
    ∃ receiver, Connected react point taken (id, receiver)
  /-- A connection that is there is taken out of the list, and nothing else is. -/
  removed : (s.disconnect point id).1 = true → ∃ before receiver after,
    (s.get point).receivers = before ++ (id, receiver) :: after ∧
      ((s.disconnect point id).2.get point).receivers = before ++ after
  /-- One that is not there changes nothing. -/
  absent : (s.disconnect point id).1 = false →
    ((s.disconnect point id).2.get point).receivers = (s.get point).receivers
  /-- The next identity stays the same. -/
  next : ((s.disconnect point id).2.get point).next = (s.get point).next
  /-- The other signals stay as they are. -/
  others : ∀ other ≠ point, (s.disconnect point id).2.get other = s.get other

/-- Sending an event: every receiver of its hook point reacts to it once, in order, and
nothing else changes. -/
structure Sends (react : ρ → Event → ρ × List ω) (s : Signals ρ) (event : Event) : Prop where
  effects : (s.send react event).2 =
    (s.get event.point).receivers.flatMap fun c => (react c.2 event).2
  receivers : ((s.send react event).1.get event.point).receivers =
    (s.get event.point).receivers.map fun c => (c.1, (react c.2 event).1)
  others : ∀ other ≠ event.point, (s.send react event).1.get other = s.get other

/-- What holds of signals after steps that started without connections. -/
structure Delivery (react : ρ → Event → ρ × List ω) (taken : List (Step ρ))
    (answers : List (Answer ω)) (s : Signals ρ) : Prop where
  /-- The identities given at a hook point are 0, 1, 2 and so on, each given once. -/
  ids : ∀ point, idsAt point answers = List.range (connectsAt point taken)
  /-- The receivers of a hook point are the connected ones. -/
  connected : ∀ point c, c ∈ (s.get point).receivers ↔ Connected react point taken c
  /-- They stand in the order in which they were connected, each once. -/
  ordered : ∀ point, ((s.get point).receivers.map Prod.fst).Pairwise (· < ·)
  /-- Their number is the size of the signal. -/
  counted : ∀ point,
    {id | ∃ receiver, Connected react point taken (id, receiver)}.ncard = (s.get point).size
  /-- Any connection can be ended now. -/
  disconnect : ∀ point id, Ends react taken s point id
  /-- Any event can be sent now. -/
  send : ∀ event, Sends react s event

/-- The size of a signal is the number of its connections. -/
theorem Tracks.ncard_connected (h : Tracks react point taken signal) :
    {id | ∃ receiver, Connected react point taken (id, receiver)}.ncard = signal.size := by
  have hids : {id | ∃ receiver, Connected react point taken (id, receiver)} =
      ↑(signal.receivers.map Prod.fst).toFinset := by
    ext id
    simp [h.connected]
  have hnodup : (signal.receivers.map Prod.fst).Nodup := h.increasing.imp Nat.ne_of_lt
  rw [hids, Set.ncard_coe_finset, List.toFinset_card_of_nodup hnodup, List.length_map, Signal.size]

theorem ends_of_tracks {s : Signals ρ} (h : Tracks react point taken (s.get point)) (id : Nat) :
    Ends react taken s point id := by
  have hreceivers : ((s.disconnect point id).2.get point).receivers =
      (s.get point).receivers.filter fun c => c.1 ≠ id := by
    simp [Signals.disconnect, Signal.disconnect]
  have hfound : (s.disconnect point id).1 = true ↔
      ∃ receiver, (id, receiver) ∈ (s.get point).receivers := by
    simp [Signals.disconnect, Signal.disconnect]
  refine ⟨?_, ?_, ?_, ?_, ?_⟩
  · simp only [hfound, h.connected]
  · intro hthere
    obtain ⟨receiver, hmem⟩ := hfound.1 hthere
    obtain ⟨before, after, hsplit, hleft⟩ := Signal.filter_ne_of_increasing h.increasing hmem
    exact ⟨before, receiver, after, hsplit, hreceivers.trans hleft⟩
  · intro hmissing
    rw [hreceivers]
    apply Signal.filter_ne_of_notMem
    intro c hc heq
    have hthere := hfound.2 ⟨c.2, heq ▸ hc⟩
    rw [hmissing] at hthere
    cases hthere
  · simp [Signals.disconnect, Signal.disconnect]
  · intro other hother
    exact get_disconnect_of_ne s id hother

theorem sends (s : Signals ρ) (event : Event) : Sends react s event where
  effects := by simp [Signals.send, sendTo, Signal.send, Signal.reactAll_eq]
  receivers := by simp [Signals.send, sendTo, Signal.send, Signal.reactAll_eq]
  others _ hother := get_send_of_ne react s hother

/-- **Signal delivery.**  After any steps, every hook point has given the identities from
zero on, each once; its receivers are those connected and not ended since, in the order in
which they were connected; ending one takes out that one alone; an event goes to the
receivers of its own hook point, to each once and in order; and names stand for the hook
points that have them. -/
theorem steps_delivery (react : ρ → Event → ρ × List ω) (taken : List (Step ρ)) :
    Delivery react taken (steps react .empty taken).1 (steps react .empty taken).2 ∧
      ∀ name point, HookPoint.ofName? name = some point ↔ point.name = name := by
  have htracks := tracks_steps taken (tracks_empty react)
  simp only [List.nil_append] at htracks
  refine ⟨⟨?_, ?_, ?_, ?_, ?_, sends _⟩, fun name point => HookPoint.ofName?_eq_some_iff⟩
  · intro point
    rw [idsAt_steps taken (tracks_empty react), connectsAt_nil, List.range_eq_range']
  · exact fun point => (htracks point).connected
  · exact fun point => (htracks point).increasing
  · exact fun point => (htracks point).ncard_connected
  · exact fun point => ends_of_tracks (htracks point)

/-- An identity is not given again when its connection has ended, and it counts at its own
hook point only. -/
example :
    let tell (name : String) (_ : Event) : String × List String := (name, [name])
    let taken : List (Step String) :=
      [.connect .postJob "a", .connectByName "post_job_call" "b", .connect .preJob "x",
        .disconnect .postJob 1, .disconnect .preJob 1, .connectByName "post_job" "y",
        .connect .postJob "c"]
    (((steps tell .empty taken).2.get .postJob).receivers = [(0, "a"), (2, "c")]) ∧
      ((steps tell .empty taken).2.send tell (.postJob ⟨"j", .job, []⟩ .empty .null)).2 =
        ["a", "c"] := by
  decide

end Signals

end RuleEngine
