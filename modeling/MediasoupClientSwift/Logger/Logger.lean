import MediasoupClientSwift.Foundation.Text
import MediasoupClientSwift.Library.Arena
import MediasoupClientSwift.Library.Machine

/-!
Owns `Logger`, `LoggerWrapper` and `LogHandlerAdapter`: the statements of
`setHandler` and `setDefaultHandler` as single steps, with log emissions of
native threads between any two of them. The main result says which emissions
meet a deleted adapter, and that the others reach the handler set last.
-/

namespace MediasoupClientSwift.Logger

open Library

/-- `mediasoupclient::Logger::LogLevel`. -/
inductive NativeLogLevel where
  | logNone
  | logError
  | logWarn
  | logDebug
  | logTrace
deriving DecidableEq, Repr

inductive MediasoupClientLogLevel where
  | none
  | error
  | warning
  | debug
  | trace
deriving DecidableEq, Repr

inductive LogLevel where
  | none
  | error
  | warning
  | debug
  | trace
deriving DecidableEq, Repr

def getWrappedLogLevel : NativeLogLevel → MediasoupClientLogLevel
  | .logNone => .none
  | .logError => .error
  | .logWarn => .warning
  | .logDebug => .debug
  | .logTrace => .trace

def MediasoupClientLogLevel.swiftValue : MediasoupClientLogLevel → LogLevel
  | .none => .none
  | .error => .error
  | .warning => .warning
  | .debug => .debug
  | .trace => .trace

abbrev LogHandler := Nat

/-- What the native `Logger` has stored. -/
inductive NativeHandler where
  | default
  | adapter (pointer : Nat)
deriving DecidableEq, Repr

/-- A `LogHandlerAdapter` with its `__weak` delegate. -/
structure LogHandlerAdapter where
  delegate : Option Nat
  alive : Bool
deriving DecidableEq, Repr

/-- A `HandlerHolder`; only the static `handlerHolder` and a running
`setHandler` hold it. -/
structure HandlerHolder where
  handler : LogHandler
  alive : Bool
deriving DecidableEq, Repr

inductive Call where
  | setHandler (handler : LogHandler)
  | setDefaultHandler
deriving DecidableEq, Repr

/-- The statement a running call executes next. `handlerHolder` is the local
variable of `Logger.setHandler`. -/
inductive Statement where
  | makeHandlerHolder (handler : LogHandler)
  | storeHandlerHolder (handlerHolder : Nat)
  | makeAdapter (handlerHolder : Nat)
  | setAdapterDelegate (handlerHolder : Nat)
  | nativeSetHandler
  | clearHandlerHolder
  | deleteAdapter
  | clearAdapter
  | nativeSetDefaultHandler
deriving DecidableEq, Repr

structure Delivery where
  handler : LogHandler
  level : LogLevel
  payload : String
deriving DecidableEq, Repr

structure State where
  nativeHandler : NativeHandler
  adapters : Arena LogHandlerAdapter
  /-- The static `_adapter` of `LoggerWrapper`. -/
  adapter : Option Nat
  holders : Arena HandlerHolder
  /-- The static `handlerHolder` of `Logger`. -/
  handlerHolder : Option Nat
  /-- The call that began last. -/
  lastCall : Option Call
  /-- Where that call stands; `none` once it has returned. -/
  pending : Option Statement
  deliveries : List Delivery
deriving DecidableEq, Repr

inductive Action where
  | begin (call : Call)
  | execute
  | emit (level : NativeLogLevel) (payload : Bytes)
deriving DecidableEq, Repr

/-- `Logger.setHandler` or `Logger.setDefaultHandler` starts. -/
def Call.firstStatement : Call → Statement
  | .setHandler handler => .makeHandlerHolder handler
  | .setDefaultHandler => .clearHandlerHolder

/-- Assign the static `handlerHolder`; the object it held is released. -/
def State.assignHandlerHolder (state : State) (handlerHolder : Option Nat) : State :=
  { state with
    handlerHolder := handlerHolder
    holders := match state.handlerHolder with
      | none => state.holders
      | some released => state.holders.modify released fun holder => { holder with alive := false } }

def State.execute (state : State) : Statement → State
  | .makeHandlerHolder handler =>
      { state with
        holders := state.holders.push { handler := handler, alive := true }
        pending := some (.storeHandlerHolder state.holders.fresh) }
  | .storeHandlerHolder handlerHolder =>
      { state.assignHandlerHolder (some handlerHolder) with
        pending := some (.makeAdapter handlerHolder) }
  | .makeAdapter handlerHolder =>
      match state.adapter with
      | some _ => { state with pending := some (.setAdapterDelegate handlerHolder) }
      | none =>
          { state with
            adapters := state.adapters.push { delegate := none, alive := true }
            adapter := some state.adapters.fresh
            pending := some (.setAdapterDelegate handlerHolder) }
  | .setAdapterDelegate handlerHolder =>
      match state.adapter with
      | none => state -- A null dereference; the statement before rules it out.
      | some pointer =>
          { state with
            adapters := state.adapters.modify pointer fun adapter =>
              { adapter with delegate := some handlerHolder }
            pending := some .nativeSetHandler }
  | .nativeSetHandler =>
      match state.adapter with
      | none => state -- As above.
      | some pointer => { state with nativeHandler := .adapter pointer, pending := none }
  | .clearHandlerHolder =>
      { state.assignHandlerHolder none with pending := some .deleteAdapter }
  | .deleteAdapter =>
      match state.adapter with
      | none => { state with pending := some .nativeSetDefaultHandler }
      | some pointer =>
          { state with
            adapters := state.adapters.modify pointer fun adapter => { adapter with alive := false }
            pending := some .clearAdapter }
  | .clearAdapter => { state with adapter := none, pending := some .nativeSetDefaultHandler }
  | .nativeSetDefaultHandler => { state with nativeHandler := .default, pending := none }

def State.loadHolder (state : State) (reference : Option Nat) : Option HandlerHolder := do
  let holder ← state.holders[← reference]?
  if holder.alive then some holder else none

/-- `LogHandlerAdapter::OnLog` and `HandlerHolder.onLog`: the payload string is
nil for bytes that are not UTF-8 and reaches Swift as an empty one. -/
def State.onLog (state : State) (adapter : LogHandlerAdapter) (level : NativeLogLevel)
    (payload : Bytes) : Option Delivery := do
  let holder ← state.loadHolder adapter.delegate
  some
    { handler := holder.handler
      level := (getWrappedLogLevel level).swiftValue
      payload := nonnullString (stringWithBytes payload) }

/-- A native thread calls the stored handler. The default one is not the
application's; a deleted one is read after its lifetime. -/
def State.emit (state : State) (level : NativeLogLevel) (payload : Bytes) : State :=
  match state.nativeHandler with
  | .default => state
  | .adapter pointer =>
      match state.adapters[pointer]? with
      | none => state
      | some adapter =>
          if adapter.alive then
            { state with
              deliveries := state.deliveries ++ (state.onLog adapter level payload).toList }
          else state

/-- A call begins only after the one before it has returned. -/
def step (state : State) : Action → Option State
  | .begin call =>
      match state.pending with
      | none => some { state with lastCall := some call, pending := some call.firstStatement }
      | some _ => none
  | .execute => state.pending.map state.execute
  | .emit level payload => some (state.emit level payload)

def machine : Machine State Action where
  initial :=
    { nativeHandler := .default, adapters := [], adapter := none, holders := []
      handlerHolder := none, lastCall := none, pending := none, deliveries := [] }
  step := step

/-! ### What an emission is to find -/

/-- The pointer names an adapter that has not been deleted. -/
def State.AdapterAlive (state : State) (pointer : Nat) : Prop :=
  ∃ adapter, state.adapters[pointer]? = some adapter ∧ adapter.alive = true

/-- The handler stored by the native logger is the default one or an adapter
that has not been deleted. -/
def State.HandlerAlive (state : State) : Prop :=
  ∀ pointer, state.nativeHandler = .adapter pointer → state.AdapterAlive pointer

/-- After `setHandler(handler)` has returned and before the next call begins, an
emission with a UTF-8 payload is one call of `handler` with that payload. -/
def State.Delivers (state : State) (level : NativeLogLevel) (payload : Bytes) : Prop :=
  ∀ handler text, state.lastCall = some (.setHandler handler) → state.pending = none →
    stringWithBytes payload = some text →
    (state.emit level payload).deliveries = state.deliveries ++
      [{ handler := handler, level := (getWrappedLogLevel level).swiftValue, payload := text }]

def EmissionSound (state : State) : Action → Prop
  | .emit level payload => state.HandlerAlive ∧ state.Delivers level payload
  | _ => True

/-- A running `setDefaultHandler` is past its `delete` and the native logger has
not been told. -/
def State.BetweenDeleteAndReset (state : State) : Prop :=
  (state.pending = some .clearAdapter ∨ state.pending = some .nativeSetDefaultHandler) ∧
    state.nativeHandler ≠ .default

def EmittedOutsideDeletion (state : State) : Action → Prop
  | .emit _ _ => ¬ state.BetweenDeleteAndReset
  | _ => True

/-! ### The proof outline of the two calls -/

section Outline

variable (state : State)

/-- Wrapper and native logger agree: no adapter at all, or the same living one. -/
def State.Agreed : Prop :=
  (state.adapter = none ∧ state.nativeHandler = .default) ∨
    ∃ pointer, state.adapter = some pointer ∧ state.nativeHandler = .adapter pointer ∧
      state.AdapterAlive pointer

/-- The wrapper has a living adapter, which the native logger may not know yet. -/
def State.AdapterReady (pointer : Nat) : Prop :=
  state.adapter = some pointer ∧ state.AdapterAlive pointer ∧
    (state.nativeHandler = .default ∨ state.nativeHandler = .adapter pointer)

/-- The holder is the one `Logger` keeps, for the handler of the running call. -/
def State.Holding (handlerHolder : Nat) : Prop :=
  state.handlerHolder = some handlerHolder ∧ ∃ handler,
    state.lastCall = some (.setHandler handler) ∧
    state.holders[handlerHolder]? = some { handler := handler, alive := true }

/-- The wrapper's adapter points at the holder. -/
def State.PointsAt (pointer handlerHolder : Nat) : Prop :=
  state.adapters[pointer]? = some { delegate := some handlerHolder, alive := true }

/-- What holds before each statement, and at the end of a call. -/
def State.Outline : Prop :=
  match state.pending with
  | none =>
      state.Agreed ∧ ∀ handler, state.lastCall = some (.setHandler handler) →
        ∃ pointer handlerHolder, state.nativeHandler = .adapter pointer ∧
          state.PointsAt pointer handlerHolder ∧ state.Holding handlerHolder
  | some (.makeHandlerHolder handler) =>
      state.Agreed ∧ state.lastCall = some (.setHandler handler)
  | some (.storeHandlerHolder handlerHolder) =>
      state.Agreed ∧ state.handlerHolder ≠ some handlerHolder ∧ ∃ handler,
        state.lastCall = some (.setHandler handler) ∧
        state.holders[handlerHolder]? = some { handler := handler, alive := true }
  | some (.makeAdapter handlerHolder) => state.Agreed ∧ state.Holding handlerHolder
  | some (.setAdapterDelegate handlerHolder) =>
      (∃ pointer, state.AdapterReady pointer) ∧ state.Holding handlerHolder
  | some .nativeSetHandler =>
      ∃ pointer handlerHolder, state.AdapterReady pointer ∧
        state.PointsAt pointer handlerHolder ∧ state.Holding handlerHolder
  | some .clearHandlerHolder => state.Agreed ∧ state.lastCall = some .setDefaultHandler
  | some .deleteAdapter => state.Agreed ∧ state.lastCall = some .setDefaultHandler
  | some .clearAdapter =>
      state.lastCall = some .setDefaultHandler ∧ ∃ pointer,
        state.nativeHandler = .adapter pointer ∧ ¬ state.AdapterAlive pointer
  | some .nativeSetDefaultHandler =>
      state.lastCall = some .setDefaultHandler ∧ state.adapter = none ∧
        (state.nativeHandler = .default ∨
          ∃ pointer, state.nativeHandler = .adapter pointer ∧ ¬ state.AdapterAlive pointer)

/-- The invariant: the outline, and that the static holder was allocated. -/
structure State.Consistent : Prop where
  outline : state.Outline
  allocated : ∀ handlerHolder, state.handlerHolder = some handlerHolder →
    handlerHolder < state.holders.length

end Outline

theorem consistent_initial : machine.initial.Consistent where
  outline := by
    refine ⟨Or.inl ⟨rfl, rfl⟩, ?_⟩
    intro handler begun
    cases begun
  allocated := by
    intro handlerHolder held
    cases held

/-! ### Keeping the outline -/

section Execute

variable {state : State}

theorem State.Consistent.begin (consistent : state.Consistent) (returned : state.pending = none)
    (call : Call) :
    ({ state with lastCall := some call, pending := some call.firstStatement } : State).Consistent := by
  have outline := consistent.outline
  unfold State.Outline at outline
  rw [returned] at outline
  refine ⟨?_, consistent.allocated⟩
  cases call with
  | setHandler handler => exact ⟨outline.1, rfl⟩
  | setDefaultHandler => exact ⟨outline.1, rfl⟩

theorem State.Consistent.makeHandlerHolder (consistent : state.Consistent) {handler : LogHandler}
    (pending : state.pending = some (.makeHandlerHolder handler)) :
    (state.execute (.makeHandlerHolder handler)).Consistent := by
  have outline := consistent.outline
  unfold State.Outline at outline
  rw [pending] at outline
  obtain ⟨agreed, lastCall⟩ := outline
  constructor
  · refine ⟨agreed, ?_, handler, lastCall, Arena.getElem?_push_fresh _ _⟩
    intro held
    exact absurd (consistent.allocated _ held) (Nat.lt_irrefl _)
  · intro handlerHolder held
    have old := consistent.allocated handlerHolder held
    simp only [State.execute, Arena.push, List.length_append, List.length_singleton]
    omega

/-- Releasing the old holder leaves the others as they were. -/
theorem getElem?_assignHandlerHolder (state : State) (handlerHolder : Option Nat) {name : Nat}
    (other : state.handlerHolder ≠ some name) :
    (state.assignHandlerHolder handlerHolder).holders[name]? = state.holders[name]? := by
  unfold State.assignHandlerHolder
  cases held : state.handlerHolder with
  | none => rfl
  | some released =>
      have different : name ≠ released := by
        intro same
        exact other (held.trans (congrArg some same.symm))
      exact Arena.getElem?_modify_of_ne _ different

theorem State.Consistent.storeHandlerHolder (consistent : state.Consistent) {handlerHolder : Nat}
    (pending : state.pending = some (.storeHandlerHolder handlerHolder)) :
    (state.execute (.storeHandlerHolder handlerHolder)).Consistent := by
  have outline := consistent.outline
  unfold State.Outline at outline
  rw [pending] at outline
  obtain ⟨agreed, other, handler, lastCall, found⟩ := outline
  have kept := (getElem?_assignHandlerHolder state (some handlerHolder) other).trans found
  constructor
  · exact ⟨agreed, rfl, handler, lastCall, kept⟩
  · intro name held
    obtain rfl : handlerHolder = name := Option.some.inj held
    have below := (List.getElem?_eq_some_iff.mp kept).1
    exact below

theorem State.Consistent.makeAdapter (consistent : state.Consistent) {handlerHolder : Nat}
    (pending : state.pending = some (.makeAdapter handlerHolder)) :
    (state.execute (.makeAdapter handlerHolder)).Consistent := by
  have outline := consistent.outline
  unfold State.Outline at outline
  rw [pending] at outline
  obtain ⟨agreed, holding⟩ := outline
  rcases agreed with ⟨noAdapter, isDefault⟩ | ⟨pointer, adapter, native, alive⟩
  · simp only [State.execute, noAdapter]
    refine ⟨⟨⟨state.adapters.fresh, rfl, ?_, Or.inl isDefault⟩, holding⟩, consistent.allocated⟩
    exact ⟨_, Arena.getElem?_push_fresh _ _, rfl⟩
  · simp only [State.execute, adapter]
    exact ⟨⟨⟨pointer, rfl, alive, Or.inr native⟩, holding⟩, consistent.allocated⟩

theorem State.Consistent.setAdapterDelegate (consistent : state.Consistent) {handlerHolder : Nat}
    (pending : state.pending = some (.setAdapterDelegate handlerHolder)) :
    (state.execute (.setAdapterDelegate handlerHolder)).Consistent := by
  have outline := consistent.outline
  unfold State.Outline at outline
  rw [pending] at outline
  obtain ⟨⟨pointer, adapter, ⟨object, found, alive⟩, native⟩, holding⟩ := outline
  have changed : (state.adapters.modify pointer fun adapter =>
        { adapter with delegate := some handlerHolder })[pointer]? =
      some { delegate := some handlerHolder, alive := true } := by
    rw [Arena.getElem?_modify_self, found, Option.map_some, alive]
  simp only [State.execute, adapter]
  refine ⟨⟨pointer, handlerHolder, ⟨rfl, ?_, native⟩, changed, holding⟩, consistent.allocated⟩
  exact ⟨_, changed, rfl⟩

theorem State.Consistent.nativeSetHandler (consistent : state.Consistent)
    (pending : state.pending = some .nativeSetHandler) :
    (state.execute .nativeSetHandler).Consistent := by
  have outline := consistent.outline
  unfold State.Outline at outline
  rw [pending] at outline
  obtain ⟨pointer, handlerHolder, ⟨adapter, alive, -⟩, pointsAt, holding⟩ := outline
  simp only [State.execute, adapter]
  refine ⟨⟨Or.inr ⟨pointer, rfl, rfl, alive⟩, ?_⟩, consistent.allocated⟩
  intro handler lastCall
  exact ⟨pointer, handlerHolder, rfl, pointsAt, holding⟩

theorem State.Consistent.clearHandlerHolder (consistent : state.Consistent)
    (pending : state.pending = some .clearHandlerHolder) :
    (state.execute .clearHandlerHolder).Consistent := by
  have outline := consistent.outline
  unfold State.Outline at outline
  rw [pending] at outline
  refine ⟨outline, ?_⟩
  intro name held
  cases held

theorem State.Consistent.deleteAdapter (consistent : state.Consistent)
    (pending : state.pending = some .deleteAdapter) :
    (state.execute .deleteAdapter).Consistent := by
  have outline := consistent.outline
  unfold State.Outline at outline
  rw [pending] at outline
  obtain ⟨agreed, lastCall⟩ := outline
  rcases agreed with ⟨noAdapter, isDefault⟩ | ⟨pointer, adapter, native, -⟩
  · simp only [State.execute, noAdapter]
    exact ⟨⟨lastCall, rfl, Or.inl isDefault⟩, consistent.allocated⟩
  · simp only [State.execute, adapter]
    refine ⟨⟨lastCall, pointer, native, ?_⟩, consistent.allocated⟩
    rintro ⟨object, found, alive⟩
    rw [Arena.getElem?_modify_self, Option.map_eq_some_iff] at found
    obtain ⟨old, -, rfl⟩ := found
    cases alive

theorem State.Consistent.clearAdapter (consistent : state.Consistent)
    (pending : state.pending = some .clearAdapter) :
    (state.execute .clearAdapter).Consistent := by
  have outline := consistent.outline
  unfold State.Outline at outline
  rw [pending] at outline
  obtain ⟨lastCall, deleted⟩ := outline
  exact ⟨⟨lastCall, rfl, Or.inr deleted⟩, consistent.allocated⟩

theorem State.Consistent.nativeSetDefaultHandler (consistent : state.Consistent)
    (pending : state.pending = some .nativeSetDefaultHandler) :
    (state.execute .nativeSetDefaultHandler).Consistent := by
  have outline := consistent.outline
  unfold State.Outline at outline
  rw [pending] at outline
  obtain ⟨lastCall, noAdapter, -⟩ := outline
  refine ⟨⟨Or.inl ⟨noAdapter, rfl⟩, ?_⟩, consistent.allocated⟩
  intro handler isSetHandler
  rw [show (state.execute .nativeSetDefaultHandler).lastCall = state.lastCall from rfl,
    lastCall] at isSetHandler
  cases isSetHandler

/-- An emission changes nothing but the deliveries. -/
theorem emit_eq (state : State) (level : NativeLogLevel) (payload : Bytes) :
    ∃ deliveries, state.emit level payload = { state with deliveries := deliveries } := by
  unfold State.emit
  split
  · exact ⟨state.deliveries, rfl⟩
  · split
    · exact ⟨state.deliveries, rfl⟩
    · split
      · exact ⟨_, rfl⟩
      · exact ⟨state.deliveries, rfl⟩

end Execute

theorem consistent_step (state : State) (action : Action) (next : State)
    (consistent : state.Consistent) (stepped : machine.step state action = some next) :
    next.Consistent := by
  cases action with
  | begin call =>
      cases pending : state.pending with
      | none =>
          simp only [machine, step, pending, Option.some.injEq] at stepped
          exact stepped ▸ consistent.begin pending call
      | some statement =>
          simp only [machine, step, pending] at stepped
          cases stepped
  | execute =>
      simp only [machine, step, Option.map_eq_some_iff] at stepped
      obtain ⟨statement, pending, rfl⟩ := stepped
      cases statement with
      | makeHandlerHolder handler => exact consistent.makeHandlerHolder pending
      | storeHandlerHolder handlerHolder => exact consistent.storeHandlerHolder pending
      | makeAdapter handlerHolder => exact consistent.makeAdapter pending
      | setAdapterDelegate handlerHolder => exact consistent.setAdapterDelegate pending
      | nativeSetHandler => exact consistent.nativeSetHandler pending
      | clearHandlerHolder => exact consistent.clearHandlerHolder pending
      | deleteAdapter => exact consistent.deleteAdapter pending
      | clearAdapter => exact consistent.clearAdapter pending
      | nativeSetDefaultHandler => exact consistent.nativeSetDefaultHandler pending
  | emit level payload =>
      obtain ⟨deliveries, same⟩ := emit_eq state level payload
      obtain rfl := Option.some.inj stepped
      rw [same]
      exact ⟨consistent.outline, consistent.allocated⟩

/-! ### The emissions -/

theorem State.Agreed.handlerAlive {state : State} (agreed : state.Agreed) : state.HandlerAlive := by
  intro pointer native
  rcases agreed with ⟨-, isDefault⟩ | ⟨registered, -, isAdapter, alive⟩
  · rw [native] at isDefault
    cases isDefault
  · rw [native] at isAdapter
    cases isAdapter
    exact alive

theorem State.AdapterReady.handlerAlive {state : State} {ready : Nat}
    (adapterReady : state.AdapterReady ready) : state.HandlerAlive := by
  intro pointer native
  obtain ⟨-, alive, isDefault | isAdapter⟩ := adapterReady
  · rw [native] at isDefault
    cases isDefault
  · rw [native] at isAdapter
    cases isAdapter
    exact alive

/-- The registered handler is dead exactly between the deletion of the adapter
and the reset of the native logger. -/
theorem State.Consistent.handlerAlive_iff {state : State} (consistent : state.Consistent) :
    state.HandlerAlive ↔ ¬ state.BetweenDeleteAndReset := by
  have outline := consistent.outline
  unfold State.Outline at outline
  have outside : state.pending ≠ some .clearAdapter →
      state.pending ≠ some .nativeSetDefaultHandler → ¬ state.BetweenDeleteAndReset :=
    fun notClear notReset between => between.1.elim notClear notReset
  cases pending : state.pending with
  | none =>
      rw [pending] at outline outside
      exact iff_of_true outline.1.handlerAlive (outside (by simp) (by simp))
  | some statement =>
      rw [pending] at outline outside
      cases statement with
      | makeHandlerHolder handler =>
          exact iff_of_true outline.1.handlerAlive (outside (by simp) (by simp))
      | storeHandlerHolder handlerHolder =>
          exact iff_of_true outline.1.handlerAlive (outside (by simp) (by simp))
      | makeAdapter handlerHolder =>
          exact iff_of_true outline.1.handlerAlive (outside (by simp) (by simp))
      | setAdapterDelegate handlerHolder =>
          obtain ⟨⟨pointer, ready⟩, -⟩ := outline
          exact iff_of_true ready.handlerAlive (outside (by simp) (by simp))
      | nativeSetHandler =>
          obtain ⟨pointer, handlerHolder, ready, -⟩ := outline
          exact iff_of_true ready.handlerAlive (outside (by simp) (by simp))
      | clearHandlerHolder =>
          exact iff_of_true outline.1.handlerAlive (outside (by simp) (by simp))
      | deleteAdapter =>
          exact iff_of_true outline.1.handlerAlive (outside (by simp) (by simp))
      | clearAdapter =>
          obtain ⟨-, pointer, native, dead⟩ := outline
          refine iff_of_false (fun alive => dead (alive pointer native)) (not_not.mpr ?_)
          exact ⟨Or.inl pending, by rw [native]; simp⟩
      | nativeSetDefaultHandler =>
          obtain ⟨-, -, isDefault | ⟨pointer, native, dead⟩⟩ := outline
          · refine iff_of_true ?_ (fun between => between.2 isDefault)
            intro pointer native
            rw [native] at isDefault
            cases isDefault
          · refine iff_of_false (fun alive => dead (alive pointer native)) (not_not.mpr ?_)
            exact ⟨Or.inr pending, by rw [native]; simp⟩

/-- After `setHandler` has returned, its handler gets every UTF-8 payload. -/
theorem State.Consistent.delivers {state : State} (consistent : state.Consistent)
    (level : NativeLogLevel) (payload : Bytes) : state.Delivers level payload := by
  intro handler text lastCall returned decoded
  have outline := consistent.outline
  unfold State.Outline at outline
  rw [returned] at outline
  obtain ⟨pointer, handlerHolder, native, pointsAt, -, own, ownCall, found⟩ :=
    outline.2 handler lastCall
  obtain rfl : handler = own := by
    rw [lastCall] at ownCall
    cases ownCall
    rfl
  have loaded : state.loadHolder (some handlerHolder) =
      some { handler := handler, alive := true } := by
    simp [State.loadHolder, found]
  have delivered : state.onLog { delegate := some handlerHolder, alive := true } level payload =
      some
        { handler := handler
          level := (getWrappedLogLevel level).swiftValue
          payload := text } := by
    simp [State.onLog, loaded, decoded, nonnullString]
  have object : state.adapters[pointer]? =
    some { delegate := some handlerHolder, alive := true } := pointsAt
  simp only [State.emit, native, object, if_true, delivered, Option.toList_some]

private theorem emissionSound_iff {state : State} (consistent : state.Consistent)
    (action : Action) :
    EmissionSound state action ↔ EmittedOutsideDeletion state action := by
  cases action with
  | begin call => exact Iff.rfl
  | execute => exact Iff.rfl
  | emit level payload =>
      apply (and_iff_left (consistent.delivers level payload)).trans
      exact consistent.handlerAlive_iff

/-- In every interleaving of calls, their statements and emissions, all
emissions are sound exactly when none falls between the deletion of the adapter
and the reset of the native logger. -/
theorem emissions_sound_iff (schedule : List Action) :
    machine.EachStep EmissionSound machine.initial schedule ↔
      machine.EachStep EmittedOutsideDeletion machine.initial schedule := by
  refine Machine.eachStep_congr ?_ ?_ consistent_initial
  · intro state action next consistent stepped
    exact consistent_step state action next consistent stepped
  · intro state action consistent
    exact emissionSound_iff consistent action

/-- A handler is set, `setDefaultHandler` runs up to its `delete`, and a native
thread logs. -/
theorem log_to_deleted_adapter_counterexample :
    ¬ ∀ schedule : List Action, machine.EachStep EmissionSound machine.initial schedule := by
  intro sound
  have emission := Machine.eachStep_iff_split.mp
    (sound [.begin (.setHandler 0), .execute, .execute, .execute, .execute, .execute,
      .begin .setDefaultHandler, .execute, .execute, .emit .logWarn []])
    [.begin (.setHandler 0), .execute, .execute, .execute, .execute, .execute,
      .begin .setDefaultHandler, .execute, .execute] (.emit .logWarn []) [] _ rfl rfl
  obtain ⟨adapter, found, alive⟩ := emission.1 0 rfl
  obtain rfl := Option.some.inj found
  cases alive

end MediasoupClientSwift.Logger
