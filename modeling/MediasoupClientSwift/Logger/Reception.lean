import MediasoupClientSwift.Library.Agreement
import MediasoupClientSwift.Logger.Logger

/-!
Owns who gets the logs while handlers are switched, said without adapters, holders
and weak references: a handler listens from one statement of its `setHandler` to
one of the next call, and the statements between two handlers lose what is logged.
The logger follows this account in every run it is defined in.
-/

namespace MediasoupClientSwift.Logger

open Library

/-! ### The account -/

structure Reception where
  /-- The handler set by the last call that returned. -/
  settled : Option LogHandler
  /-- The running call and the number of its statements that were executed. -/
  running : Option (Call × Nat)
  deliveries : List Delivery
deriving DecidableEq, Repr

def Call.handler : Call → Option LogHandler
  | .setHandler handler => some handler
  | .setDefaultHandler => none

/-- The statements of the call; `delete` and the assignment after it stand under
one condition. -/
def Call.statements (settled : Option LogHandler) : Call → Nat
  | .setHandler _ => 5
  | .setDefaultHandler => if settled.isSome then 4 else 3

/-- The listener of a running call. The first handler ever, and the first one after
`setDefaultHandler`, wait for the native logger to learn of the adapter. -/
def Call.listener (settled : Option LogHandler) (executed : Nat) : Call → Option LogHandler
  | .setHandler handler =>
      if executed ≤ 1 then settled
      else if executed ≤ 3 then none
      else if settled.isSome then some handler else none
  | .setDefaultHandler => if executed = 0 then settled else none

def Reception.listener (reception : Reception) : Option LogHandler :=
  match reception.running with
  | none => reception.settled
  | some (call, executed) => call.listener reception.settled executed

/-- The native logger has the adapter that the running call has deleted. -/
def Reception.broken (reception : Reception) : Bool :=
  match reception.running with
  | some (.setDefaultHandler, executed) => 2 ≤ executed && reception.settled.isSome
  | _ => false

def delivery (level : NativeLogLevel) (payload : Bytes) (handler : LogHandler) : Delivery where
  handler := handler
  level := (getWrappedLogLevel level).swiftValue
  payload := nonnullString (stringWithBytes payload)

def Reception.step (reception : Reception) : Action → Option Reception
  | .begin call =>
      match reception.running with
      | none => some { reception with running := some (call, 0) }
      | some _ => none
  | .execute =>
      match reception.running with
      | none => none
      | some (call, executed) =>
          if executed + 1 = call.statements reception.settled then
            some { reception with settled := call.handler, running := none }
          else some { reception with running := some (call, executed + 1) }
  | .emit level payload =>
      if reception.broken then none
      else
        some { reception with
          deliveries :=
            reception.deliveries ++ (reception.listener.map (delivery level payload)).toList }

def receptionMachine : Machine Reception Action where
  initial := { settled := none, running := none, deliveries := [] }
  step := Reception.step

/-! ### The listener of a state -/

/-- The handler that the next emission reaches. -/
def State.listener (state : State) : Option LogHandler :=
  match state.nativeHandler with
  | .default => none
  | .adapter pointer => do
      let adapter ← state.adapters[pointer]?
      if adapter.alive then (state.loadHolder adapter.delegate).map HandlerHolder.handler
      else none

private theorem deliveries_emit (state : State) (level : NativeLogLevel) (payload : Bytes) :
    (state.emit level payload).deliveries =
      state.deliveries ++ (state.listener.map (delivery level payload)).toList := by
  unfold State.emit State.listener
  cases state.nativeHandler with
  | default => simp
  | adapter pointer =>
      cases found : state.adapters[pointer]? with
      | none => simp [found]
      | some adapter =>
          cases alive : adapter.alive with
          | false => simp [found, alive]
          | true =>
              simp only [found, alive, if_true, State.onLog, Option.bind_eq_bind, Option.bind_some]
              cases state.loadHolder adapter.delegate <;> rfl

/-- The holder is the static one, and holds the handler. -/
def State.HoldsFor (state : State) (handlerHolder : Nat) (handler : LogHandler) : Prop :=
  state.handlerHolder = some handlerHolder ∧
    state.holders[handlerHolder]? = some { handler := handler, alive := true }

/-- No adapter is registered, or one that leads to the handler. -/
def State.ListensFor (state : State) : Option LogHandler → Prop
  | none => state.adapter = none ∧ state.nativeHandler = .default
  | some handler => ∃ pointer handlerHolder, state.adapter = some pointer ∧
      state.nativeHandler = .adapter pointer ∧ state.PointsAt pointer handlerHolder ∧
      state.HoldsFor handlerHolder handler

/-- No adapter is registered, or one whose holder is gone. -/
def State.Silent (state : State) : Option LogHandler → Prop
  | none => state.adapter = none ∧ state.nativeHandler = .default
  | some _ => ∃ pointer released, state.adapter = some pointer ∧
      state.nativeHandler = .adapter pointer ∧ state.PointsAt pointer released ∧
      state.loadHolder (some released) = none

/-- No adapter that has not been deleted is registered. -/
def State.Deaf (state : State) : Prop :=
  ∀ pointer, state.nativeHandler = .adapter pointer → ¬ state.AdapterAlive pointer

private theorem loadHolder_of_held {state : State} {handlerHolder : Nat} {handler : LogHandler}
    (held : state.holders[handlerHolder]? = some { handler := handler, alive := true }) :
    state.loadHolder (some handlerHolder) = some { handler := handler, alive := true } := by
  simp [State.loadHolder, held]

theorem State.ListensFor.listener {state : State} {settled : Option LogHandler}
    (listens : state.ListensFor settled) : state.listener = settled := by
  unfold State.listener
  cases settled with
  | none => rw [listens.2]
  | some handler =>
      obtain ⟨pointer, handlerHolder, -, native, pointsAt, -, held⟩ := listens
      unfold State.PointsAt at pointsAt
      simp only [native, pointsAt, Option.bind_eq_bind, Option.bind_some, if_true,
        loadHolder_of_held held, Option.map_some]

theorem State.Silent.listener {state : State} {settled : Option LogHandler}
    (silent : state.Silent settled) : state.listener = none := by
  unfold State.listener
  cases settled with
  | none => rw [silent.2]
  | some handler =>
      obtain ⟨pointer, released, -, native, pointsAt, gone⟩ := silent
      unfold State.PointsAt at pointsAt
      simp only [native, pointsAt, Option.bind_eq_bind, Option.bind_some, if_true, gone,
        Option.map_none]

theorem State.Deaf.listener {state : State} (deaf : state.Deaf) : state.listener = none := by
  unfold State.listener
  cases native : state.nativeHandler with
  | default => rfl
  | adapter pointer =>
      cases found : state.adapters[pointer]? with
      | none => simp [found]
      | some adapter =>
          have dead : adapter.alive = false := by
            by_contra alive
            exact deaf pointer native ⟨adapter, found, by simpa using alive⟩
          simp [found, dead]

/-! ### Where a call stands -/

/-- What the state is before each statement, for the account of it. -/
def State.Place (state : State) (settled : Option LogHandler) (running : Option (Call × Nat)) :
    Option Statement → Prop
  | none => running = none ∧ state.ListensFor settled
  | some (.makeHandlerHolder handler) =>
      running = some (.setHandler handler, 0) ∧ state.ListensFor settled
  | some (.storeHandlerHolder handlerHolder) => ∃ handler,
      running = some (.setHandler handler, 1) ∧ state.ListensFor settled ∧
        state.handlerHolder ≠ some handlerHolder ∧
        state.holders[handlerHolder]? = some { handler := handler, alive := true }
  | some (.makeAdapter handlerHolder) => ∃ handler,
      running = some (.setHandler handler, 2) ∧ state.Silent settled ∧
        state.HoldsFor handlerHolder handler
  | some (.setAdapterDelegate handlerHolder) => ∃ handler,
      running = some (.setHandler handler, 3) ∧ state.HoldsFor handlerHolder handler ∧
        ((settled.isSome = true ∧ state.Silent settled) ∨
          (settled = none ∧ state.nativeHandler = .default ∧
            ∃ pointer, state.adapter = some pointer ∧ state.AdapterAlive pointer))
  | some .nativeSetHandler => ∃ handler pointer handlerHolder,
      running = some (.setHandler handler, 4) ∧ state.HoldsFor handlerHolder handler ∧
        state.adapter = some pointer ∧ state.PointsAt pointer handlerHolder ∧
        state.nativeHandler = if settled.isSome then .adapter pointer else .default
  | some .clearHandlerHolder =>
      running = some (.setDefaultHandler, 0) ∧ state.ListensFor settled
  | some .deleteAdapter => running = some (.setDefaultHandler, 1) ∧ state.Silent settled
  | some .clearAdapter =>
      running = some (.setDefaultHandler, 2) ∧ settled.isSome = true ∧ state.Deaf ∧
        state.nativeHandler ≠ .default
  | some .nativeSetDefaultHandler =>
      running = some (.setDefaultHandler, if settled.isSome then 3 else 2) ∧ state.Deaf ∧
        state.adapter = none ∧ (state.nativeHandler ≠ .default ↔ settled.isSome = true)

/-- The running call is one statement further. -/
def Advanced (settled : Option LogHandler) (running : Option (Call × Nat)) (next : State) : Prop :=
  ∃ call executed, running = some (call, executed) ∧
    if executed + 1 = call.statements settled then next.Place call.handler none next.pending
    else next.Place settled (some (call, executed + 1)) next.pending

section Execute

variable {state : State} {settled : Option LogHandler} {running : Option (Call × Nat)}

theorem State.ListensFor.push (listens : state.ListensFor settled) (holder : HandlerHolder)
    (pending : Option Statement) :
    ({ state with holders := state.holders.push holder, pending := pending } : State).ListensFor
      settled := by
  cases settled with
  | none => exact listens
  | some handler =>
      obtain ⟨pointer, handlerHolder, adapter, native, pointsAt, static, held⟩ := listens
      exact ⟨pointer, handlerHolder, adapter, native, pointsAt, static,
        Arena.getElem?_push_of_some held⟩

/-- The static holder is replaced or cleared, and what it held is gone. -/
theorem State.ListensFor.assign (listens : state.ListensFor settled) (new : Option Nat)
    (pending : Option Statement) :
    ({ state.assignHandlerHolder new with pending := pending } : State).Silent settled := by
  cases settled with
  | none => exact listens
  | some handler =>
      obtain ⟨pointer, handlerHolder, adapter, native, pointsAt, static, held⟩ := listens
      refine ⟨pointer, handlerHolder, adapter, native, pointsAt, ?_⟩
      simp [State.loadHolder, State.assignHandlerHolder, static, held]

private theorem advanced_makeHandlerHolder (consistent : state.Consistent) {handler : LogHandler}
    (place : state.Place settled running (some (.makeHandlerHolder handler))) :
    Advanced settled running (state.execute (.makeHandlerHolder handler)) := by
  obtain ⟨isRunning, listens⟩ := place
  refine ⟨_, _, isRunning, ?_⟩
  refine ⟨handler, rfl, listens.push _ _, ?_, Arena.getElem?_push_fresh _ _⟩
  intro held
  exact absurd (consistent.allocated _ held) (Nat.lt_irrefl _)

private theorem advanced_storeHandlerHolder {handlerHolder : Nat}
    (place : state.Place settled running (some (.storeHandlerHolder handlerHolder))) :
    Advanced settled running (state.execute (.storeHandlerHolder handlerHolder)) := by
  obtain ⟨handler, isRunning, listens, other, found⟩ := place
  refine ⟨_, _, isRunning, ?_⟩
  refine ⟨handler, rfl, listens.assign _ _, rfl, ?_⟩
  exact (getElem?_assignHandlerHolder state (some handlerHolder) other).trans found

private theorem advanced_makeAdapter {handlerHolder : Nat}
    (place : state.Place settled running (some (.makeAdapter handlerHolder))) :
    Advanced settled running (state.execute (.makeAdapter handlerHolder)) := by
  obtain ⟨handler, isRunning, silent, holds⟩ := place
  refine ⟨_, _, isRunning, ?_⟩
  cases settled with
  | none =>
      simp only [State.execute, silent.1]
      refine ⟨handler, rfl, holds, Or.inr ⟨rfl, silent.2, state.adapters.fresh, rfl, ?_⟩⟩
      exact ⟨_, Arena.getElem?_push_fresh _ _, rfl⟩
  | some old =>
      obtain ⟨pointer, released, adapter, native, pointsAt, gone⟩ := silent
      simp only [State.execute, adapter]
      exact ⟨handler, rfl, holds,
        Or.inl ⟨rfl, pointer, released, rfl, native, pointsAt, gone⟩⟩

private theorem pointsAt_setAdapterDelegate {pointer : Nat} (alive : state.AdapterAlive pointer)
    (handlerHolder : Nat) :
    (state.adapters.modify pointer fun adapter =>
        { adapter with delegate := some handlerHolder })[pointer]? =
      some { delegate := some handlerHolder, alive := true } := by
  obtain ⟨adapter, found, isAlive⟩ := alive
  rw [Arena.getElem?_modify_self, found, Option.map_some, isAlive]

private theorem advanced_setAdapterDelegate {handlerHolder : Nat}
    (place : state.Place settled running (some (.setAdapterDelegate handlerHolder))) :
    Advanced settled running (state.execute (.setAdapterDelegate handlerHolder)) := by
  obtain ⟨handler, isRunning, holds, registered⟩ := place
  refine ⟨_, _, isRunning, ?_⟩
  have ready : ∃ pointer, state.adapter = some pointer ∧ state.AdapterAlive pointer ∧
      state.nativeHandler = if settled.isSome then .adapter pointer else .default := by
    rcases registered with ⟨isSome, silent⟩ | ⟨rfl, native, pointer, adapter, alive⟩
    · obtain ⟨old, rfl⟩ := Option.isSome_iff_exists.mp isSome
      obtain ⟨pointer, released, adapter, native, pointsAt, -⟩ := silent
      exact ⟨pointer, adapter, ⟨_, pointsAt, rfl⟩, native⟩
    · exact ⟨pointer, adapter, alive, native⟩
  obtain ⟨pointer, adapter, alive, native⟩ := ready
  simp only [State.execute, adapter]
  exact ⟨handler, pointer, handlerHolder, rfl, holds, rfl,
    pointsAt_setAdapterDelegate alive handlerHolder, native⟩

private theorem advanced_nativeSetHandler
    (place : state.Place settled running (some .nativeSetHandler)) :
    Advanced settled running (state.execute .nativeSetHandler) := by
  obtain ⟨handler, pointer, handlerHolder, isRunning, holds, adapter, pointsAt, -⟩ := place
  refine ⟨_, _, isRunning, ?_⟩
  simp only [State.execute, adapter]
  exact ⟨rfl, pointer, handlerHolder, rfl, rfl, pointsAt, holds⟩

private theorem advanced_clearHandlerHolder
    (place : state.Place settled running (some .clearHandlerHolder)) :
    Advanced settled running (state.execute .clearHandlerHolder) := by
  obtain ⟨isRunning, listens⟩ := place
  refine ⟨_, _, isRunning, ?_⟩
  have notLast : 0 + 1 ≠ Call.setDefaultHandler.statements settled := by
    cases settled <;> simp [Call.statements]
  rw [if_neg notLast]
  exact ⟨rfl, listens.assign none _⟩

private theorem advanced_deleteAdapter (place : state.Place settled running (some .deleteAdapter)) :
    Advanced settled running (state.execute .deleteAdapter) := by
  obtain ⟨isRunning, silent⟩ := place
  refine ⟨_, _, isRunning, ?_⟩
  cases settled with
  | none =>
      simp only [State.execute, silent.1]
      refine ⟨rfl, ?_, rfl, ?_⟩
      · intro pointer native
        rw [show state.nativeHandler = .default from silent.2] at native
        cases native
      · exact iff_of_false (not_not.mpr silent.2) Bool.false_ne_true
  | some old =>
      obtain ⟨pointer, released, adapter, native, pointsAt, -⟩ := silent
      simp only [State.execute, adapter]
      refine ⟨rfl, rfl, ?_, ?_⟩
      · rintro other same ⟨object, found, alive⟩
        obtain rfl : pointer = other := NativeHandler.adapter.inj (native.symm.trans same)
        rw [Arena.getElem?_modify_self, Option.map_eq_some_iff] at found
        obtain ⟨before, -, rfl⟩ := found
        cases alive
      · intro isDefault
        cases native.symm.trans isDefault

private theorem advanced_clearAdapter (place : state.Place settled running (some .clearAdapter)) :
    Advanced settled running (state.execute .clearAdapter) := by
  obtain ⟨isRunning, isSome, deaf, native⟩ := place
  refine ⟨_, _, isRunning, ?_⟩
  simp only [Call.statements, isSome, if_true]
  refine ⟨?_, deaf, rfl, iff_of_true native isSome⟩
  rw [isSome]
  rfl

private theorem advanced_nativeSetDefaultHandler
    (place : state.Place settled running (some .nativeSetDefaultHandler)) :
    Advanced settled running (state.execute .nativeSetDefaultHandler) := by
  obtain ⟨isRunning, -, noAdapter, -⟩ := place
  refine ⟨_, _, isRunning, ?_⟩
  have isLast : (if settled.isSome then 3 else 2) + 1 =
      Call.setDefaultHandler.statements settled := by
    unfold Call.statements
    split <;> rfl
  rw [if_pos isLast]
  exact ⟨rfl, noAdapter, rfl⟩

private theorem advanced_execute (consistent : state.Consistent) {statement : Statement}
    (place : state.Place settled running (some statement)) :
    Advanced settled running (state.execute statement) := by
  cases statement with
  | makeHandlerHolder handler => exact advanced_makeHandlerHolder consistent place
  | storeHandlerHolder handlerHolder => exact advanced_storeHandlerHolder place
  | makeAdapter handlerHolder => exact advanced_makeAdapter place
  | setAdapterDelegate handlerHolder => exact advanced_setAdapterDelegate place
  | nativeSetHandler => exact advanced_nativeSetHandler place
  | clearHandlerHolder => exact advanced_clearHandlerHolder place
  | deleteAdapter => exact advanced_deleteAdapter place
  | clearAdapter => exact advanced_clearAdapter place
  | nativeSetDefaultHandler => exact advanced_nativeSetDefaultHandler place

end Execute

/-! ### Emissions -/

section Emissions

variable {state : State} {reception : Reception}

/-- Who listens is read off the place. -/
theorem listener_of_place
    (place : state.Place reception.settled reception.running state.pending) :
    state.listener = reception.listener := by
  unfold Reception.listener
  cases pending : state.pending with
  | none =>
      rw [pending] at place
      rw [place.1, place.2.listener]
  | some statement =>
      rw [pending] at place
      cases statement with
      | makeHandlerHolder handler =>
          rw [place.1, place.2.listener]
          rfl
      | storeHandlerHolder handlerHolder =>
          obtain ⟨handler, isRunning, listens, -⟩ := place
          rw [isRunning, listens.listener]
          rfl
      | makeAdapter handlerHolder =>
          obtain ⟨handler, isRunning, silent, -⟩ := place
          rw [isRunning, silent.listener]
          rfl
      | setAdapterDelegate handlerHolder =>
          obtain ⟨handler, isRunning, -, ⟨-, silent⟩ | ⟨-, native, -⟩⟩ := place
          · rw [isRunning, silent.listener]
            rfl
          · rw [isRunning, State.listener, native]
            rfl
      | nativeSetHandler =>
          obtain ⟨handler, pointer, handlerHolder, isRunning, holds, -, pointsAt, native⟩ := place
          unfold State.PointsAt at pointsAt
          rw [isRunning]
          unfold State.listener
          cases settled : reception.settled with
          | none =>
              simp only [settled] at native
              simp [native, Call.listener]
          | some old =>
              simp only [settled] at native
              simp [native, pointsAt, loadHolder_of_held holds.2, Call.listener]
      | clearHandlerHolder =>
          rw [place.1, place.2.listener]
          rfl
      | deleteAdapter =>
          rw [place.1, place.2.listener]
          rfl
      | clearAdapter =>
          obtain ⟨isRunning, -, deaf, -⟩ := place
          rw [isRunning, deaf.listener]
          rfl
      | nativeSetDefaultHandler =>
          obtain ⟨isRunning, deaf, -⟩ := place
          rw [isRunning, deaf.listener]
          cases reception.settled <;> rfl

/-- The account breaks where the native logger has a deleted adapter. -/
theorem broken_iff_of_place
    (place : state.Place reception.settled reception.running state.pending) :
    reception.broken = true ↔ state.BetweenDeleteAndReset := by
  unfold Reception.broken State.BetweenDeleteAndReset
  cases pending : state.pending with
  | none =>
      rw [pending] at place
      rw [place.1]
      simp
  | some statement =>
      rw [pending] at place
      cases statement with
      | makeHandlerHolder handler =>
          rw [place.1]
          simp
      | storeHandlerHolder handlerHolder =>
          obtain ⟨handler, isRunning, -⟩ := place
          rw [isRunning]
          simp
      | makeAdapter handlerHolder =>
          obtain ⟨handler, isRunning, -⟩ := place
          rw [isRunning]
          simp
      | setAdapterDelegate handlerHolder =>
          obtain ⟨handler, isRunning, -⟩ := place
          rw [isRunning]
          simp
      | nativeSetHandler =>
          obtain ⟨handler, pointer, handlerHolder, isRunning, -⟩ := place
          rw [isRunning]
          simp
      | clearHandlerHolder =>
          rw [place.1]
          simp
      | deleteAdapter =>
          rw [place.1]
          simp
      | clearAdapter =>
          obtain ⟨isRunning, isSome, -, native⟩ := place
          rw [isRunning]
          simp [isSome, native]
      | nativeSetDefaultHandler =>
          obtain ⟨isRunning, -, -, nativeIff⟩ := place
          rw [isRunning, nativeIff]
          cases reception.settled <;> simp

end Emissions

/-! ### Runs -/

/-- The account of a state. -/
structure Follows (state : State) (reception : Reception) : Prop where
  consistent : state.Consistent
  place : state.Place reception.settled reception.running state.pending
  deliveries : state.deliveries = reception.deliveries

private theorem deliveries_execute (state : State) (statement : Statement) :
    (state.execute statement).deliveries = state.deliveries := by
  cases statement <;> simp only [State.execute, State.assignHandlerHolder]
  all_goals split <;> rfl

private theorem place_begin {state : State} {settled : Option LogHandler} (call : Call)
    (listens : state.ListensFor settled) :
    State.Place { state with lastCall := some call, pending := some call.firstStatement } settled
      (some (call, 0)) (some call.firstStatement) := by
  cases call with
  | setHandler handler => exact ⟨rfl, listens⟩
  | setDefaultHandler => exact ⟨rfl, listens⟩

/-- One step, and what the account makes of it. -/
theorem follows_step {state next : State} {reception : Reception} {action : Action}
    (follows : Follows state reception) (stepped : machine.step state action = some next) :
    (EmittedOutsideDeletion state action ↔
        ∃ receptionNext, receptionMachine.step reception action = some receptionNext) ∧
      ∀ receptionNext, receptionMachine.step reception action = some receptionNext →
        Follows next receptionNext := by
  have consistent := consistent_step state action next follows.consistent stepped
  have place := follows.place
  cases action with
  | begin call =>
      cases pending : state.pending with
      | some statement =>
          simp only [machine, step, pending] at stepped
          cases stepped
      | none =>
          simp only [machine, step, pending, Option.some.injEq] at stepped
          rw [pending] at place
          have began : receptionMachine.step reception (.begin call) =
              some { reception with running := some (call, 0) } := by
            simp only [receptionMachine, Reception.step, place.1]
          refine ⟨iff_of_true trivial ⟨_, began⟩, ?_⟩
          intro receptionNext same
          obtain rfl := Option.some.inj (began.symm.trans same)
          subst stepped
          exact
            { consistent := consistent
              place := place_begin call place.2
              deliveries := follows.deliveries }
  | execute =>
      simp only [machine, step, Option.map_eq_some_iff] at stepped
      obtain ⟨statement, pending, rfl⟩ := stepped
      rw [pending] at place
      obtain ⟨call, executed, isRunning, advanced⟩ := advanced_execute follows.consistent place
      have kept := (deliveries_execute state statement).trans follows.deliveries
      by_cases last : executed + 1 = call.statements reception.settled
      · have settles : receptionMachine.step reception .execute =
            some { reception with settled := call.handler, running := none } := by
          simp only [receptionMachine, Reception.step, isRunning, if_pos last]
        refine ⟨iff_of_true trivial ⟨_, settles⟩, ?_⟩
        intro receptionNext same
        obtain rfl := Option.some.inj (settles.symm.trans same)
        rw [if_pos last] at advanced
        exact { consistent := consistent, place := advanced, deliveries := kept }
      · have advances : receptionMachine.step reception .execute =
            some { reception with running := some (call, executed + 1) } := by
          simp only [receptionMachine, Reception.step, isRunning, if_neg last]
        refine ⟨iff_of_true trivial ⟨_, advances⟩, ?_⟩
        intro receptionNext same
        obtain rfl := Option.some.inj (advances.symm.trans same)
        rw [if_neg last] at advanced
        exact { consistent := consistent, place := advanced, deliveries := kept }
  | emit level payload =>
      have emitted : state.emit level payload = next := Option.some.inj stepped
      have broken := broken_iff_of_place place
      constructor
      · apply (not_congr broken.symm).trans
        simp [receptionMachine, Reception.step]
      · intro receptionNext same
        simp only [receptionMachine, Reception.step, Option.ite_none_left_eq_some,
          Option.some.injEq] at same
        obtain ⟨-, rfl⟩ := same
        obtain ⟨deliveries, changed⟩ := emit_eq state level payload
        have appended := deliveries_emit state level payload
        rw [listener_of_place place, follows.deliveries, changed] at appended
        rw [changed] at emitted
        subst emitted
        exact { consistent := consistent, place := place, deliveries := appended }

/-- In every run of calls, their statements and emissions, the handlers are told
what the account says, which covers exactly the runs in which no emission meets a
deleted adapter. -/
theorem logger_follows_reception (schedule : List Action) {state : State}
    (ran : machine.run schedule = some state) :
    (machine.EachStep EmittedOutsideDeletion machine.initial schedule ↔
        ∃ reception, receptionMachine.run schedule = some reception) ∧
      ∀ reception, receptionMachine.run schedule = some reception →
        state.deliveries = reception.deliveries ∧ state.listener = reception.listener := by
  have start : Follows machine.initial receptionMachine.initial :=
    { consistent := consistent_initial
      place := ⟨rfl, rfl, rfl⟩
      deliveries := rfl }
  obtain ⟨covers, related⟩ := Machine.run_lockstep follows_step start ran
  refine ⟨covers, ?_⟩
  intro reception accounted
  have follows := related reception accounted
  exact ⟨follows.deliveries, listener_of_place follows.place⟩

/-- Handler 1 takes over from handler 0, with one emission before its adapter's
delegate is set and one after. -/
def sampleSwitch : List Action :=
  [.begin (.setHandler 0), .execute, .execute, .execute, .execute, .execute,
    .begin (.setHandler 1), .execute, .execute, .emit .logWarn (utf8Bytes "lost"),
    .execute, .execute, .emit .logWarn (utf8Bytes "kept"), .execute]

theorem logger_follows_reception_sample :
    ∃ state, machine.run sampleSwitch = some state ∧
      (machine.EachStep EmittedOutsideDeletion machine.initial sampleSwitch ↔
        ∃ reception, receptionMachine.run sampleSwitch = some reception) ∧
      ∀ reception, receptionMachine.run sampleSwitch = some reception →
        state.deliveries = reception.deliveries ∧ state.listener = reception.listener :=
  ⟨_, rfl, logger_follows_reception sampleSwitch rfl⟩

example : (receptionMachine.run sampleSwitch).map Reception.deliveries =
    some [{ handler := 1, level := .warning, payload := "kept" }] := by
  decide

end MediasoupClientSwift.Logger
