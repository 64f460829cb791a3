import MediasoupClientSwift.Error.Exception
import MediasoupClientSwift.Events.Delivery
import MediasoupClientSwift.Library.Promise

/-!
Owns the produce handshakes of `SendTransportListenerAdapter`: the promise of
each call of `OnProduce` and `OnProduceData`, the block that completes it, and
what the application does with that block. The main result gives the state of
every future from what happened to its own callback alone.
-/

namespace MediasoupClientSwift.ProduceHandshake

open Library

/-- The shared state of the `std::promise<std::string>` and its future. -/
abbrev Future := SharedState Bytes CppException

/-- `MediaSoupClientError("ProducerIdIsNil")`. -/
def producerIdIsNil : CppException where
  exceptionClass := .mediaSoupClientError
  what := utf8Bytes "ProducerIdIsNil"

/-- The `std::future_error` of a second completion. -/
def promiseAlreadySatisfied : Abrupt :=
  .exception
    { exceptionClass := .stdException
      what := utf8Bytes "The state of the promise has already been set." }

/-- The block both adapter methods pass as `callback:`, with its `catch(...)`. -/
def callback (id : Option String) : ObjCpp Future Unit :=
  Program.tryCatch
    (match id with
      | none => Promise.setException promiseAlreadySatisfied producerIdIsNil
      | some id => Promise.setValue promiseAlreadySatisfied (stdString id))
    (fun _ => some (pure ()))

/-- One handshake. The adapter method holds the `__block` promise while it runs,
and every copy of the block holds it after that. -/
structure Handshake where
  future : Future
  running : Bool
  copies : Nat
  /-- Whether the three layers handed the callback to the application. -/
  forwarded : Bool
deriving DecidableEq, Repr

/-- What happens to the callback of one handshake. -/
inductive Happening where
  | invoked (id : Option String)
  | copied
  | released
  /-- The adapter method returns its future. -/
  | returned
deriving DecidableEq, Repr

namespace Handshake

def start (forwarded : Bool) : Handshake where
  future := none
  running := true
  copies := 0
  forwarded := forwarded

def Held (handshake : Handshake) : Prop :=
  handshake.forwarded = true ∧ (handshake.running = true ∨ 0 < handshake.copies)

instance (handshake : Handshake) : Decidable handshake.Held := inferInstanceAs (Decidable (_ ∧ _))

/-- The `__block` variable is destroyed with its last holder. -/
def destroyIfDropped (handshake : Handshake) : Handshake :=
  if handshake.running = false ∧ handshake.copies = 0 then
    { handshake with future := Promise.destroy handshake.future }
  else handshake

/-- An invocation that raised into the application would be refused. -/
def step (handshake : Handshake) : Happening → Option Handshake
  | .invoked id =>
      if handshake.Held then
        match callback id handshake.future with
        | (.ok (), future) => some { handshake with future := future }
        | (.error _, _) => none
      else none
  | .copied =>
      if handshake.Held then some { handshake with copies := handshake.copies + 1 } else none
  | .released =>
      match handshake.copies with
      | 0 => none
      | copies + 1 => some ({ handshake with copies := copies } : Handshake).destroyIfDropped
  | .returned =>
      if handshake.running then
        some ({ handshake with running := false } : Handshake).destroyIfDropped
      else none

def machine (forwarded : Bool) : Machine Handshake Happening where
  initial := start forwarded
  step := step

end Handshake

/-! ### What the future of a handshake is owed -/

def Happening.invocation : Happening → Option (Option String)
  | .invoked id => some id
  | _ => none

def firstInvocation (happenings : List Happening) : Option (Option String) :=
  happenings.findSome? Happening.invocation

/-- The adapter method has returned and every copy of the block is released. -/
def Dropped (happenings : List Happening) : Prop :=
  .returned ∈ happenings ∧ happenings.count .copied = happenings.count .released

instance (happenings : List Happening) : Decidable (Dropped happenings) :=
  inferInstanceAs (Decidable (_ ∧ _))

/-- What an invocation completes a pending future with. -/
def completionOf : Option String → Completion Bytes CppException
  | none => .exception producerIdIsNil
  | some id => .value (stdString id)

/-- The first invocation decides; without one, dropping the callback breaks the
promise. -/
def owedFuture (happenings : List Happening) : Future :=
  match firstInvocation happenings with
  | some id => some (completionOf id)
  | none => if Dropped happenings then some .brokenPromise else none

/-! ### One handshake -/

/-- The block returns whatever the future is, and the first completion stands. -/
theorem callback_apply (id : Option String) (future : Future) :
    callback id future = (.ok (), future.or (some (completionOf id))) := by
  cases id with
  | none => exact Promise.tryCatch_complete _ _ _
  | some id => exact Promise.tryCatch_complete _ _ _

private theorem firstInvocation_append (happenings : List Happening) (happening : Happening) :
    firstInvocation (happenings ++ [happening]) =
      (firstInvocation happenings).or happening.invocation := by
  rw [firstInvocation, List.findSome?_append, ← firstInvocation, List.findSome?_cons,
    List.findSome?_nil]
  cases happening.invocation <;> rfl

/-- A happening that is no invocation leaves the first one what it was. -/
theorem firstInvocation_append_of_none (happenings : List Happening) {happening : Happening}
    (other : happening.invocation = none) :
    firstInvocation (happenings ++ [happening]) = firstInvocation happenings := by
  rw [firstInvocation_append, other]
  exact Option.or_none

/-- Everything a step can do, with the facts it checked. -/
inductive Handshake.Stepped (handshake : Handshake) : Happening → Handshake → Prop where
  | invoked (id : Option String) (held : handshake.Held) :
      Stepped handshake (.invoked id)
        { handshake with future := handshake.future.or (some (completionOf id)) }
  | copied (held : handshake.Held) :
      Stepped handshake .copied { handshake with copies := handshake.copies + 1 }
  | released {remaining : Nat} (copies : handshake.copies = remaining + 1) :
      Stepped handshake .released
        ({ handshake with copies := remaining } : Handshake).destroyIfDropped
  | returned (running : handshake.running = true) :
      Stepped handshake .returned
        ({ handshake with running := false } : Handshake).destroyIfDropped

theorem Handshake.stepped_of_step {handshake next : Handshake} {happening : Happening}
    (stepped : handshake.step happening = some next) : Stepped handshake happening next := by
  cases happening with
  | invoked id =>
      simp only [step, callback_apply, Option.ite_none_right_eq_some, Option.some.injEq] at stepped
      exact stepped.2 ▸ .invoked id stepped.1
  | copied =>
      simp only [step, Option.ite_none_right_eq_some, Option.some.injEq] at stepped
      exact stepped.2 ▸ .copied stepped.1
  | released =>
      cases copies : handshake.copies with
      | zero => simp [step, copies] at stepped
      | succ remaining =>
          simp only [step, copies, Option.some.injEq] at stepped
          exact stepped ▸ .released copies
  | returned =>
      simp only [step, Option.ite_none_right_eq_some, Option.some.injEq] at stepped
      exact stepped.2 ▸ .returned stepped.1

/-- A handshake record reflects what happened to its callback. -/
structure Reflects (happenings : List Happening) (handshake : Handshake) : Prop where
  running : handshake.running = true ↔ Happening.returned ∉ happenings
  copies : handshake.copies + happenings.count .released = happenings.count .copied
  future : handshake.future = owedFuture happenings
  unforwarded : handshake.forwarded = false →
    firstInvocation happenings = none ∧ handshake.copies = 0

private theorem reflects_start (forwarded : Bool) : Reflects [] (Handshake.start forwarded) where
  running := by simp [Handshake.start]
  copies := rfl
  future := rfl
  unforwarded := fun _ => ⟨rfl, rfl⟩

section Steps

variable {happenings : List Happening} {handshake next : Handshake}

theorem Reflects.dropped_iff (reflects : Reflects happenings handshake) :
    Dropped happenings ↔ handshake.running = false ∧ handshake.copies = 0 := by
  have running := reflects.running
  have copies := reflects.copies
  unfold Dropped
  cases isRunning : handshake.running with
  | true =>
      have notReturned := running.mp isRunning
      simp [notReturned]
  | false =>
      have returned : Happening.returned ∈ happenings := by
        by_contra notReturned
        rw [running.mpr notReturned] at isRunning
        cases isRunning
      simp only [returned, true_and]
      omega

/-- While someone holds the callback, the future is what the first invocation made it. -/
theorem Reflects.future_of_held (reflects : Reflects happenings handshake)
    (held : handshake.running = true ∨ 0 < handshake.copies) :
    handshake.future = (firstInvocation happenings).map completionOf := by
  have notDropped : ¬ Dropped happenings := by
    rw [reflects.dropped_iff]
    rintro ⟨notRunning, noCopies⟩
    rcases held with running | copies
    · rw [notRunning] at running
      cases running
    · omega
  rw [reflects.future, owedFuture]
  cases firstInvocation happenings with
  | none => exact if_neg notDropped
  | some id => rfl

/-- Destroying the promise with its last holder gives the owed future. -/
theorem Reflects.of_destroyIfDropped {released : Handshake}
    (running : released.running = true ↔ Happening.returned ∉ happenings)
    (copies : released.copies + happenings.count .released = happenings.count .copied)
    (future : released.future = (firstInvocation happenings).map completionOf)
    (unforwarded : released.forwarded = false →
      firstInvocation happenings = none ∧ released.copies = 0) :
    Reflects happenings released.destroyIfDropped := by
  have dropped : Dropped happenings ↔ released.running = false ∧ released.copies = 0 := by
    have candidate : Reflects happenings { released with future := owedFuture happenings } :=
      { running := running, copies := copies, future := rfl, unforwarded := unforwarded }
    exact candidate.dropped_iff
  unfold Handshake.destroyIfDropped
  by_cases isDropped : Dropped happenings
  · rw [if_pos (dropped.mp isDropped)]
    refine ⟨running, copies, ?_, unforwarded⟩
    simp only [future, owedFuture, isDropped, if_true]
    cases firstInvocation happenings <;> rfl
  · rw [if_neg (fun both => isDropped (dropped.mpr both))]
    refine ⟨running, copies, ?_, unforwarded⟩
    simp only [future, owedFuture, isDropped, if_false]
    cases firstInvocation happenings <;> rfl

theorem Reflects.invoked (reflects : Reflects happenings handshake) (held : handshake.Held)
    (id : Option String) :
    Reflects (happenings ++ [.invoked id])
      { handshake with future := handshake.future.or (some (completionOf id)) } := by
  have now : firstInvocation (happenings ++ [.invoked id]) =
      (firstInvocation happenings).or (some id) := firstInvocation_append _ _
  constructor
  case running => simpa using reflects.running
  case copies => simpa using reflects.copies
  case future =>
    rw [reflects.future_of_held held.2, owedFuture, now]
    cases firstInvocation happenings <;> rfl
  case unforwarded =>
    intro unforwarded
    rw [held.1] at unforwarded
    cases unforwarded

theorem Reflects.copied (reflects : Reflects happenings handshake) (held : handshake.Held) :
    Reflects (happenings ++ [.copied]) { handshake with copies := handshake.copies + 1 } := by
  have counts := reflects.copies
  have same := firstInvocation_append_of_none happenings (rfl : Happening.copied.invocation = none)
  have notDropped : ¬ Dropped (happenings ++ [.copied]) := by
    rintro ⟨-, balanced⟩
    simp at balanced
    omega
  constructor
  case running => simpa using reflects.running
  case copies =>
    simp
    omega
  case future =>
    rw [reflects.future_of_held held.2, owedFuture, same, if_neg notDropped]
    cases firstInvocation happenings <;> rfl
  case unforwarded =>
    intro unforwarded
    rw [held.1] at unforwarded
    cases unforwarded

theorem Reflects.released (reflects : Reflects happenings handshake) {remaining : Nat}
    (copies : handshake.copies = remaining + 1) :
    Reflects (happenings ++ [.released])
      ({ handshake with copies := remaining } : Handshake).destroyIfDropped := by
  have counts := reflects.copies
  have same :=
    firstInvocation_append_of_none happenings (rfl : Happening.released.invocation = none)
  apply Reflects.of_destroyIfDropped
  case running => simpa using reflects.running
  case copies =>
    simp
    omega
  case future =>
    rw [same]
    exact reflects.future_of_held (Or.inr (by omega))
  case unforwarded =>
    intro unforwarded
    have noCopies := (reflects.unforwarded unforwarded).2
    omega

theorem Reflects.returned (reflects : Reflects happenings handshake)
    (running : handshake.running = true) :
    Reflects (happenings ++ [.returned])
      ({ handshake with running := false } : Handshake).destroyIfDropped := by
  have same :=
    firstInvocation_append_of_none happenings (rfl : Happening.returned.invocation = none)
  apply Reflects.of_destroyIfDropped
  case running => simp
  case copies => simpa using reflects.copies
  case future =>
    rw [same]
    exact reflects.future_of_held (Or.inl running)
  case unforwarded =>
    intro unforwarded
    rw [same]
    exact reflects.unforwarded unforwarded

private theorem reflects_step {happening : Happening} (reflects : Reflects happenings handshake)
    (stepped : handshake.step happening = some next) :
    Reflects (happenings ++ [happening]) next := by
  cases Handshake.stepped_of_step stepped with
  | invoked id held => exact reflects.invoked held id
  | copied held => exact reflects.copied held
  | released copies => exact reflects.released copies
  | returned running => exact reflects.returned running

end Steps

/-- The future of a handshake is the owed one after every run of happenings. -/
theorem reflects_run {forwarded : Bool} {happenings : List Happening} {handshake : Handshake}
    (ran : (Handshake.machine forwarded).run happenings = some handshake) :
    Reflects happenings handshake := by
  have kept : ∀ past state action next, Reflects past state →
      (Handshake.machine forwarded).step state action = some next →
      Reflects (past ++ [action]) next :=
    fun past state action next reflects stepped => reflects_step reflects stepped
  exact Machine.invariant_history kept (reflects_start forwarded) ran

/-! ### All handshakes -/

structure State where
  /-- The adapters, wrappers, facades and delegates. -/
  objects : Delivery.State
  handshakes : Arena Handshake
deriving DecidableEq, Repr

inductive Action where
  /-- Any step of the objects but a produce event. -/
  | objects (action : Delivery.Action)
  | onProduce (adapter : Nat) (kind rtpParameters appData : NativeText)
  | onProduceData (adapter : Nat) (sctpParameters label protocol appData : NativeText)
  | happen (handshake : Nat) (happening : Happening)

def isProduceEvent : Delivery.Action → Bool
  | .event _ (.sendTransportOnProduce _ _ _ _) => true
  | .event _ (.sendTransportOnProduceData _ _ _ _ _) => true
  | _ => false

/-- An adapter method up to the message to its delegate: it makes the promise and
the block, and the layers forward the block or return. -/
def startHandshake (state : State) (adapter : Nat) (event : Nat → NativeEvent) :
    Option State := do
  let produceEvent := event state.handshakes.fresh
  let objects ← Delivery.step state.objects (.event adapter produceEvent)
  let forwarded := (state.objects.adapterReceives adapter produceEvent).isSome
  some { objects := objects, handshakes := state.handshakes.push (Handshake.start forwarded) }

/-- `SendTransportListenerAdapter::OnProduce`. -/
def onProduce (state : State) (adapter : Nat) (kind rtpParameters appData : NativeText) :
    Option State :=
  startHandshake state adapter (.sendTransportOnProduce kind rtpParameters appData ·)

/-- `SendTransportListenerAdapter::OnProduceData`. -/
def onProduceData (state : State) (adapter : Nat)
    (sctpParameters label protocol appData : NativeText) : Option State :=
  startHandshake state adapter (.sendTransportOnProduceData sctpParameters label protocol appData ·)

def step (state : State) : Action → Option State
  | .objects action =>
      if isProduceEvent action then none
      else (Delivery.step state.objects action).map fun objects => { state with objects := objects }
  | .onProduce adapter kind rtpParameters appData =>
      onProduce state adapter kind rtpParameters appData
  | .onProduceData adapter sctpParameters label protocol appData =>
      onProduceData state adapter sctpParameters label protocol appData
  | .happen name happening => do
      let next ← (← state.handshakes[name]?).step happening
      some { state with handshakes := state.handshakes.set name next }

def machine : Machine State Action where
  initial := { objects := Delivery.machine.initial, handshakes := [] }
  step := step

def Action.happening (handshake : Nat) : Action → Option Happening
  | .happen name happening => if name = handshake then some happening else none
  | _ => none

def happenings (handshake : Nat) (actions : List Action) : List Happening :=
  actions.filterMap (Action.happening handshake)

private theorem happenings_append (handshake : Nat) (actions : List Action) (action : Action) :
    happenings handshake (actions ++ [action]) =
      happenings handshake actions ++ (action.happening handshake).toList := by
  unfold happenings
  rw [List.filterMap_append]
  cases happened : action.happening handshake <;> simp [happened]

/-- Every handshake is where its own history leads, alone. -/
structure Projects (past : List Action) (state : State) : Prop where
  linked : Delivery.Linked state.objects
  handshakes : ∀ (name : Nat) (handshake : Handshake), state.handshakes[name]? = some handshake →
    (Handshake.machine handshake.forwarded).run (happenings name past) = some handshake
  unused : ∀ name, state.handshakes.length ≤ name → happenings name past = []

private theorem projects_initial : Projects [] machine.initial where
  linked := Delivery.linked_initial
  handshakes := by
    intro name handshake found
    simp [machine] at found
  unused := by
    intro name beyond
    rfl

theorem Handshake.forwarded_destroyIfDropped (handshake : Handshake) :
    handshake.destroyIfDropped.forwarded = handshake.forwarded := by
  unfold Handshake.destroyIfDropped
  split <;> rfl

theorem Handshake.forwarded_step {handshake next : Handshake} {happening : Happening}
    (stepped : handshake.step happening = some next) : next.forwarded = handshake.forwarded := by
  cases stepped_of_step stepped with
  | invoked id held => rfl
  | copied held => rfl
  | released copies => exact forwarded_destroyIfDropped _
  | returned running => exact forwarded_destroyIfDropped _

section Projection

variable {past : List Action} {state next : State}

/-- A step of the objects touches no handshake. -/
theorem Projects.withObjects {action : Action} {objects : Delivery.State}
    (projects : Projects past state) (linked : Delivery.Linked objects)
    (elsewhere : ∀ name, action.happening name = none) :
    Projects (past ++ [action]) { state with objects := objects } where
  linked := linked
  handshakes := by
    intro name handshake found
    rw [happenings_append, elsewhere name, Option.toList_none, List.append_nil]
    exact projects.handshakes name handshake found
  unused := by
    intro name beyond
    rw [happenings_append, elsewhere name, Option.toList_none, List.append_nil]
    exact projects.unused name beyond

/-- A handshake is forwarded exactly when the application is owed the event. -/
theorem startHandshake_eq {adapter : Nat} {event : Nat → NativeEvent}
    (linked : Delivery.Linked state.objects)
    (stepped : startHandshake state adapter event = some next) :
    Delivery.Linked next.objects ∧
      next.handshakes = state.handshakes.push (Handshake.start
        (state.objects.owedCall adapter (event state.handshakes.fresh)).isSome) := by
  simp only [startHandshake, Option.bind_eq_bind, Option.bind_eq_some_iff,
    Option.some.injEq] at stepped
  obtain ⟨objects, delivered, rfl⟩ := stepped
  have moved : Delivery.machine.step state.objects
      (.event adapter (event state.handshakes.fresh)) = some objects := delivered
  refine ⟨Delivery.linked_step linked moved, ?_⟩
  rw [Delivery.adapterReceives_eq_owedCall linked]

theorem Projects.startHandshake {action : Action} {adapter : Nat} {event : Nat → NativeEvent}
    (projects : Projects past state) (elsewhere : ∀ name, action.happening name = none)
    (stepped : startHandshake state adapter event = some next) :
    Projects (past ++ [action]) next := by
  obtain ⟨linked, handshakes⟩ := startHandshake_eq projects.linked stepped
  have unchanged : ∀ name, happenings name (past ++ [action]) = happenings name past := by
    intro name
    rw [happenings_append, elsewhere name, Option.toList_none, List.append_nil]
  constructor
  case linked => exact linked
  case handshakes =>
    intro name handshake found
    rw [handshakes] at found
    rw [unchanged]
    rcases Arena.getElem?_push_cases found with ⟨rfl, rfl⟩ | old
    · rw [projects.unused _ (Nat.le_refl _)]
      rfl
    · exact projects.handshakes name handshake old
  case unused =>
    intro name beyond
    rw [handshakes, Arena.push, List.length_append, List.length_singleton] at beyond
    rw [unchanged]
    exact projects.unused name (by omega)

private theorem step_happen_iff (name : Nat) (happening : Happening) :
    step state (.happen name happening) = some next ↔
      ∃ handshake after, state.handshakes[name]? = some handshake ∧
        handshake.step happening = some after ∧
        next = { state with handshakes := state.handshakes.set name after } := by
  simp only [step, Option.bind_eq_bind, Option.bind_eq_some_iff, Option.some.injEq]
  constructor
  · rintro ⟨handshake, found, after, stepped, rfl⟩
    exact ⟨handshake, after, found, stepped, rfl⟩
  · rintro ⟨handshake, after, found, stepped, rfl⟩
    exact ⟨handshake, found, after, stepped, rfl⟩

theorem Projects.happen {name : Nat} {happening : Happening} (projects : Projects past state)
    (stepped : step state (.happen name happening) = some next) :
    Projects (past ++ [.happen name happening]) next := by
  obtain ⟨handshake, after, found, handshakeStepped, rfl⟩ :=
    (step_happen_iff name happening).mp stepped
  have inside := (List.getElem?_eq_some_iff.mp found).1
  have ofOther : ∀ other, other ≠ name →
      happenings other (past ++ [.happen name happening]) = happenings other past := by
    intro other different
    rw [happenings_append, Action.happening, if_neg (Ne.symm different), Option.toList_none,
      List.append_nil]
  constructor
  case linked => exact projects.linked
  case handshakes =>
    intro other reached lookup
    by_cases same : other = name
    · subst same
      rw [List.getElem?_set_self inside] at lookup
      obtain rfl := Option.some.inj lookup
      have ran := projects.handshakes other handshake found
      rw [Handshake.forwarded_step handshakeStepped, happenings_append, Action.happening,
        if_pos rfl, Option.toList_some, Machine.run, Machine.runFrom_append]
      unfold Machine.run at ran
      rw [ran, Option.bind_some]
      exact Machine.runFrom_cons_some _ [] handshakeStepped
    · rw [List.getElem?_set_ne (Ne.symm same)] at lookup
      rw [ofOther other same]
      exact projects.handshakes other reached lookup
  case unused =>
    intro other beyond
    rw [List.length_set] at beyond
    rw [ofOther other (by omega)]
    exact projects.unused other beyond

private theorem projects_step (action : Action) (projects : Projects past state)
    (stepped : machine.step state action = some next) : Projects (past ++ [action]) next := by
  cases action with
  | objects objectAction =>
      simp only [machine, step] at stepped
      split at stepped
      next => cases stepped
      next =>
        rw [Option.map_eq_some_iff] at stepped
        obtain ⟨objects, moved, rfl⟩ := stepped
        exact projects.withObjects (Delivery.linked_step projects.linked moved) fun _ => rfl
  | onProduce adapter kind rtpParameters appData =>
      exact projects.startHandshake (fun _ => rfl) stepped
  | onProduceData adapter sctpParameters label protocol appData =>
      exact projects.startHandshake (fun _ => rfl) stepped
  | happen name happening => exact projects.happen stepped

end Projection

private theorem projects_run {actions : List Action} {state : State}
    (ran : machine.run actions = some state) : Projects actions state := by
  have kept : ∀ past state action next, Projects past state →
      machine.step state action = some next → Projects (past ++ [action]) next :=
    fun past state action next projects stepped => projects_step action projects stepped
  exact Machine.invariant_history kept projects_initial ran

/-- What holds of one handshake and its history. -/
structure ResolvedOnce (happenings : List Happening) (handshake : Handshake) : Prop where
  /-- The first invocation completes the future, or the last release breaks it. -/
  owed : handshake.future = owedFuture happenings
  /-- No invocation raises, and one after the first changes nothing. -/
  quiet : ∀ id, ∃ future, callback id handshake.future = (.ok (), future) ∧
    (firstInvocation happenings ≠ none → future = handshake.future)
  /-- A callback that no layer forwarded leaves a broken promise. -/
  unforwarded : handshake.forwarded = false → handshake.running = false →
    handshake.future = some .brokenPromise

theorem Reflects.resolvedOnce {happenings : List Happening} {handshake : Handshake}
    (reflects : Reflects happenings handshake) : ResolvedOnce happenings handshake where
  owed := reflects.future
  quiet := by
    intro id
    refine ⟨_, callback_apply id handshake.future, ?_⟩
    intro invoked
    rw [reflects.future, owedFuture]
    cases first : firstInvocation happenings with
    | none => exact absurd first invoked
    | some firstId => rfl
  unforwarded := by
    intro unforwarded notRunning
    obtain ⟨notInvoked, noCopies⟩ := reflects.unforwarded unforwarded
    rw [reflects.future, owedFuture, notInvoked]
    exact if_pos (reflects.dropped_iff.mpr ⟨notRunning, noCopies⟩)

/-- In every run, each future is what its own callback's history makes it; no
invocation raises; a callback touches no other handshake; and a handshake is
forwarded exactly when the application is owed the produce event. -/
theorem handshakes_resolve_once (actions : List Action) (state : State)
    (ran : machine.run actions = some state) :
    (∀ (name : Nat) (handshake : Handshake), state.handshakes[name]? = some handshake →
      ResolvedOnce (happenings name actions) handshake) ∧
    (∀ name happening next, machine.step state (.happen name happening) = some next →
      next.objects = state.objects ∧
        ∀ other : Nat, other ≠ name → next.handshakes[other]? = state.handshakes[other]?) ∧
    (∀ adapter event next, startHandshake state adapter event = some next →
      next.handshakes = state.handshakes.push (Handshake.start
        (state.objects.owedCall adapter (event state.handshakes.fresh)).isSome)) := by
  have projects := projects_run ran
  have resolved : ∀ (name : Nat) (handshake : Handshake),
      state.handshakes[name]? = some handshake →
      ResolvedOnce (happenings name actions) handshake := by
    intro name handshake found
    exact (reflects_run (projects.handshakes name handshake found)).resolvedOnce
  have separate : ∀ name happening next,
      machine.step state (.happen name happening) = some next →
      next.objects = state.objects ∧
        ∀ other : Nat, other ≠ name → next.handshakes[other]? = state.handshakes[other]? := by
    intro name happening next stepped
    obtain ⟨handshake, after, -, -, rfl⟩ := (step_happen_iff name happening).mp stepped
    exact ⟨rfl, fun other different => List.getElem?_set_ne (Ne.symm different)⟩
  have forwarded : ∀ adapter event next, startHandshake state adapter event = some next →
      next.handshakes = state.handshakes.push (Handshake.start
        (state.objects.owedCall adapter (event state.handshakes.fresh)).isSome) := by
    intro adapter event next stepped
    exact (startHandshake_eq projects.linked stepped).2
  exact ⟨resolved, separate, forwarded⟩

/-- A send transport with a delegate, and one produce event on it. -/
def sampleProduce : List Action :=
  [.objects (.newListenerAdapter .sendTransport), .objects (.initWrapper 0),
    .objects (.initFacade 0), .objects .newDelegate, .objects (.setDelegate 0 (some 0)),
    .onProduce 0 ⟨"audio", by decide⟩ ⟨"\x7b\x7d", by decide⟩ ⟨"\x7b\x7d", by decide⟩]

/-- The application keeps the callback and uses it twice, after the future is returned. -/
theorem handshakes_resolve_once_twice :
    let actions := sampleProduce ++ [.happen 0 .copied, .happen 0 .returned,
      .happen 0 (.invoked (some "p")), .happen 0 (.invoked none), .happen 0 .released]
    ∃ state, machine.run actions = some state ∧
      (∀ (name : Nat) (handshake : Handshake), state.handshakes[name]? = some handshake →
        ResolvedOnce (happenings name actions) handshake) ∧
      (∀ name happening next, machine.step state (.happen name happening) = some next →
        next.objects = state.objects ∧
          ∀ other : Nat, other ≠ name → next.handshakes[other]? = state.handshakes[other]?) ∧
      (∀ adapter event next, startHandshake state adapter event = some next →
        next.handshakes = state.handshakes.push (Handshake.start
          (state.objects.owedCall adapter (event state.handshakes.fresh)).isSome)) ∧
      state.handshakes[0]?.map Handshake.future = some (some (.value [112])) := by
  intro actions
  have reached : (machine.run actions).map
      (fun state => state.handshakes[0]?.map Handshake.future) =
      some (some (some (.value [112]))) := by decide
  obtain ⟨state, ran, future⟩ := Option.map_eq_some_iff.mp reached
  obtain ⟨resolved, separate, forwarded⟩ := handshakes_resolve_once actions state ran
  exact ⟨state, ran, resolved, separate, forwarded, future⟩

/-- The id `a\0b` arrives as `a`. -/
theorem truncated_id_counterexample :
    ¬ ∀ (actions : List Action) (state : State) (name : Nat) (handshake : Handshake) (id : String),
      machine.run actions = some state → state.handshakes[name]? = some handshake →
      firstInvocation (happenings name actions) = some (some id) →
      handshake.future = some (.value (utf8Bytes id)) := by
  intro carried
  let actions := sampleProduce ++ [.happen 0 (.invoked (some "a\x00b"))]
  have reached : (machine.run actions).map
      (fun state => state.handshakes[0]?.map Handshake.future) =
      some (some (some (.value [97]))) := by decide
  obtain ⟨state, ran, found⟩ := Option.map_eq_some_iff.mp reached
  obtain ⟨handshake, isHandshake, future⟩ := Option.map_eq_some_iff.mp found
  have whole := carried actions state 0 handshake "a\x00b" ran isHandshake (by decide)
  rw [future] at whole
  revert whole
  decide

end MediasoupClientSwift.ProduceHandshake
