import GatewaySim.Bus.Dispatch

/-! # Observed buses

Observers are told about every event when it happens, in the order in which they subscribed. They
share one state of type `σ`, for instance a console and a table of counts, and each changes it as it
likes. What they do has no influence on the cascades, and what they are told is what the cascades
record (`publish_eq`).
-/

namespace GatewaySim

/-- A bus with observers that are told about its events; one that subscribed twice is told twice. -/
structure ObservedBus (σ : Type) where
  bus : Bus
  observers : List (σ → Event → σ) := []

/-- A cascade that is under way: its events so far, the latest first, and the state in which they
have left the observers. -/
structure Emission (σ : Type) where
  recorded : List Event := []
  state : σ

namespace ObservedBus

variable {σ : Type}

def subscribe (observed : ObservedBus σ) (observer : σ → Event → σ) : ObservedBus σ :=
  { observed with observers := observed.observers ++ [observer] }

def register (observed : ObservedBus σ) (module : Module) : ModuleId × ObservedBus σ :=
  let registered := observed.bus.register module
  (registered.1, { observed with bus := registered.2 })

def notify (observed : ObservedBus σ) (state : σ) (event : Event) : σ :=
  observed.observers.foldl (fun current observer => observer current event) state

def emit (observed : ObservedBus σ) (emission : Emission σ) (event : Event) : Emission σ :=
  ⟨event :: emission.recorded, observed.notify emission.state event⟩

/-- Serves the queue front first and emits each event as it happens. -/
def dispatch (observed : ObservedBus σ) (index : Nat) (emission : Emission σ) :
    List Pending → Emission σ
  | [] => emission
  | pending :: rest =>
    observed.dispatch (index + 1)
      ((observed.bus.segment index pending).foldl observed.emit emission)
      (rest ++ observed.bus.derived pending)
termination_by queue => observed.bus.outstanding queue
decreasing_by exact Bus.outstanding_served observed.bus pending rest

def publish (observed : ObservedBus σ) (state : σ) (sender : ModuleId) (message : Message) :
    Cascade × σ :=
  let emission := observed.dispatch 0 { state } [⟨sender, message, 0⟩]
  (⟨emission.recorded.reverse⟩, emission.state)

theorem foldl_emit (observed : ObservedBus σ) (emission : Emission σ) (events : List Event) :
    events.foldl observed.emit emission =
      ⟨events.reverse ++ emission.recorded, events.foldl observed.notify emission.state⟩ := by
  induction events generalizing emission with
  | nil => rfl
  | cons event rest ih =>
    rw [List.foldl_cons, ih, emit, List.reverse_cons, List.append_assoc, List.foldl_cons]
    rfl

theorem dispatch_eq (observed : ObservedBus σ) (index : Nat) (emission : Emission σ)
    (queue : List Pending) :
    observed.dispatch index emission queue =
      (observed.bus.dispatch index queue).foldl observed.emit emission := by
  fun_induction dispatch observed index emission queue with
  | case1 => rw [Bus.dispatch_nil, List.foldl_nil]
  | case2 index emission pending rest ih => rw [ih, Bus.dispatch_cons, List.foldl_append]

/-- The cascade is that of the bus, and the observers have been told about each of its events, in
order. -/
theorem publish_eq (observed : ObservedBus σ) (state : σ) (sender : ModuleId)
    (message : Message) :
    observed.publish state sender message =
      (observed.bus.publish sender message,
        (observed.bus.publish sender message).events.foldl observed.notify state) := by
  rw [publish, dispatch_eq, foldl_emit]
  simp [Bus.publish]

@[simp] theorem publish_fst (observed : ObservedBus σ) (state : σ) (sender : ModuleId)
    (message : Message) :
    (observed.publish state sender message).1 = observed.bus.publish sender message := by
  rw [publish_eq]

end ObservedBus

end GatewaySim
