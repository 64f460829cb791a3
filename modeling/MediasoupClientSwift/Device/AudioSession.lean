import MediasoupClientSwift.Library.Machine

/-!
Owns the audio-session tasks of a device: how a `DeviceWrapper` is constructed,
the tasks `retainAudioSession` and `releaseAudioSession` post to the worker
thread, the references those tasks hold, and the wrapper's `dealloc`, which
posts one task more. The main result says for which constructors and calls every
task, under every schedule, finds its wrapper and its audio device module.
-/

namespace MediasoupClientSwift

open Library

/-- The bodies of the two posted tasks; both dereference `self->_adm`. -/
inductive AudioTask where
  | start
  | stop
deriving DecidableEq, Repr

namespace AudioSession

inductive Constructor where
  | captureAudioSession (value : Bool)
  | pcFactory
deriving DecidableEq, Repr

/-- A posted task captures `self`; the capture keeps the wrapper alive, except
where the wrapper is already inside its `dealloc`. -/
structure PostedTask where
  body : AudioTask
  retainsWrapper : Bool
deriving DecidableEq, Repr

/-- The wrapper's `dealloc` runs where its last reference is released. -/
inductive Phase where
  | alive
  | deallocating (onWorkerThread : Bool)
  | deallocated
deriving DecidableEq, Repr

structure State where
  /-- `_adm` is not null. -/
  adm : Bool
  captureAudioSession : Bool
  heldByDevice : Bool
  queue : List PostedTask
  phase : Phase
deriving DecidableEq, Repr

inductive Action where
  /-- `retainAudioSession` posts `start`, `releaseAudioSession` posts `stop`. -/
  | call (body : AudioTask)
  | deallocateDevice
  | executeTask
  | finishDealloc
deriving DecidableEq, Repr

def Action.isApplication : Action → Bool
  | .call _ => true
  | .deallocateDevice => true
  | .executeTask => false
  | .finishDealloc => false

def State.post (state : State) (task : PostedTask) : State :=
  { state with queue := state.queue ++ [task] }

/-- Something still holds a reference to the wrapper. -/
def State.referenced (state : State) : Bool :=
  state.heldByDevice || state.queue.any (·.retainsWrapper)

/-- What follows the release of one reference. `dealloc` posts the task of
`releaseAudioSession` when the session was captured. -/
def State.afterRelease (state : State) (onWorkerThread : Bool) : State :=
  if state.referenced then state
  else
    let posted :=
      if state.captureAudioSession then state.post { body := .stop, retainsWrapper := false }
      else state
    { posted with phase := .deallocating onWorkerThread }

/-- `initWithPCFactory:` leaves `_adm` and `_captureAudioSession` zero;
`initCaptureAudioSession:` sets both through the module builder and its
argument, and posts a first task when it captures. -/
def initialState : Constructor → State
  | .pcFactory =>
      { adm := false, captureAudioSession := false, heldByDevice := true, queue := [],
        phase := .alive }
  | .captureAudioSession value =>
      { adm := true, captureAudioSession := value, heldByDevice := true,
        queue := if value then [{ body := .start, retainsWrapper := true }] else [],
        phase := .alive }

def step (state : State) : Action → Option State
  | .call body =>
      if state.heldByDevice then some (state.post { body := body, retainsWrapper := true })
      else none
  | .deallocateDevice =>
      if state.heldByDevice then some ({ state with heldByDevice := false }.afterRelease false)
      else none
  | .executeTask =>
      -- A `dealloc` that runs on the worker thread keeps that thread busy.
      if state.phase = .deallocating true then none
      else
        match state.queue with
        | [] => none
        | task :: rest =>
            -- The task is destroyed after its body, and its capture with it.
            if task.retainsWrapper then some ({ state with queue := rest }.afterRelease true)
            else some { state with queue := rest }
  | .finishDealloc =>
      match state.phase with
      | .deallocating _ => some { state with phase := .deallocated }
      | _ => none

def machine (constructor : Constructor) : Machine State Action where
  initial := initialState constructor
  step := step

/-- A task that executes finds the wrapper it reads and a non-null module. -/
def TaskFindsDevice (state : State) : Action → Prop
  | .executeTask => state.queue ≠ [] → state.phase ≠ .deallocated ∧ state.adm = true
  | _ => True

/-- The actions are some schedule of these calls, the deallocation of the
device after them, and the worker thread. -/
def Schedules (calls : List AudioTask) (actions : List Action) : Prop :=
  actions.filter Action.isApplication = calls.map Action.call ++ [.deallocateDevice]

/-! ### Devices that post nothing from dealloc -/

/-- The invariant of a device that owns its module and did not capture. -/
structure Quiet (state : State) : Prop where
  adm : state.adm = true
  notCaptured : state.captureAudioSession = false
  retained : ∀ task ∈ state.queue, task.retainsWrapper = true
  heldAlive : state.heldByDevice = true → state.phase = .alive
  queuedAlive : state.queue ≠ [] → state.phase = .alive

theorem afterRelease_of_referenced {state : State} {onWorkerThread : Bool}
    (referenced : state.referenced = true) : state.afterRelease onWorkerThread = state := by
  simp [State.afterRelease, referenced]

theorem afterRelease_of_last {state : State} {onWorkerThread : Bool}
    (last : state.referenced = false) (notCaptured : state.captureAudioSession = false) :
    state.afterRelease onWorkerThread = { state with phase := .deallocating onWorkerThread } := by
  simp [State.afterRelease, last, notCaptured]

theorem Quiet.afterRelease {state : State} (quiet : Quiet state) (onWorkerThread : Bool) :
    Quiet (state.afterRelease onWorkerThread) := by
  cases referenced : state.referenced with
  | true => rwa [afterRelease_of_referenced referenced]
  | false =>
      rw [afterRelease_of_last referenced quiet.notCaptured]
      obtain ⟨notHeld, noRetaining⟩ := Bool.or_eq_false_iff.mp referenced
      have empty : state.queue = [] := by
        rw [List.eq_nil_iff_forall_not_mem]
        intro task member
        rw [List.any_eq_false] at noRetaining
        exact noRetaining task member (quiet.retained task member)
      exact
        { adm := quiet.adm
          notCaptured := quiet.notCaptured
          retained := quiet.retained
          heldAlive := fun held => by simp [notHeld] at held
          queuedAlive := fun nonempty => absurd empty nonempty }

private theorem quiet_step {state next : State} {action : Action} (quiet : Quiet state)
    (stepped : step state action = some next) : Quiet next := by
  cases action with
  | call body =>
      simp only [step, Option.ite_none_right_eq_some, Option.some.injEq] at stepped
      obtain ⟨held, rfl⟩ := stepped
      exact
        { quiet with
          retained := by
            intro task member
            rcases List.mem_append.mp member with old | new
            · exact quiet.retained task old
            · rw [List.mem_singleton.mp new]
          queuedAlive := fun _ => quiet.heldAlive held }
  | deallocateDevice =>
      simp only [step, Option.ite_none_right_eq_some, Option.some.injEq] at stepped
      obtain ⟨-, rfl⟩ := stepped
      have released : Quiet { state with heldByDevice := false } :=
        { quiet with heldAlive := fun held => by simp at held }
      exact released.afterRelease false
  | executeTask =>
      simp only [step] at stepped
      split at stepped
      · cases stepped
      · cases queue : state.queue with
        | nil => simp [queue] at stepped
        | cons task rest =>
            have taskRetains : task.retainsWrapper = true :=
              quiet.retained task (by simp [queue])
            have alive : state.phase = .alive := quiet.queuedAlive (by simp [queue])
            simp only [queue, taskRetains, if_true, Option.some.injEq] at stepped
            rw [← stepped]
            have popped : Quiet { state with queue := rest } :=
              { quiet with
                retained := fun other member => quiet.retained other (by simp [queue, member])
                queuedAlive := fun _ => alive }
            exact popped.afterRelease true
  | finishDealloc =>
      simp only [step] at stepped
      split at stepped
      · rename_i phase
        rw [← Option.some.inj stepped]
        exact
          { quiet with
            heldAlive := fun held => by simpa [phase] using quiet.heldAlive held
            queuedAlive := fun nonempty => by simpa [phase] using quiet.queuedAlive nonempty }
      · cases stepped

theorem Quiet.taskFindsDevice {state : State} (quiet : Quiet state) (action : Action) :
    TaskFindsDevice state action := by
  cases action with
  | executeTask =>
      intro nonempty
      rw [quiet.queuedAlive nonempty]
      exact ⟨by simp, quiet.adm⟩
  | call body => trivial
  | deallocateDevice => trivial
  | finishDealloc => trivial

/-- No call and no capture: nothing is ever posted. -/
def Idle (state : State) : Prop := state.queue = [] ∧ state.captureAudioSession = false

def NotCall (_ : State) : Action → Prop
  | .call _ => False
  | _ => True

private theorem idle_step {state next : State} {action : Action} (idle : Idle state)
    (notCall : NotCall state action) (stepped : step state action = some next) : Idle next := by
  obtain ⟨empty, notCaptured⟩ := idle
  cases action with
  | call body => exact notCall.elim
  | deallocateDevice =>
      simp only [step, Option.ite_none_right_eq_some, Option.some.injEq] at stepped
      obtain ⟨-, rfl⟩ := stepped
      have last : ({ state with heldByDevice := false } : State).referenced = false := by
        simp [State.referenced, empty]
      rw [afterRelease_of_last last notCaptured]
      exact ⟨empty, notCaptured⟩
  | executeTask => simp [step, empty] at stepped
  | finishDealloc =>
      simp only [step] at stepped
      split at stepped
      · rw [← Option.some.inj stepped]
        exact ⟨empty, notCaptured⟩
      · cases stepped

private theorem eachStep_notCall {state : State} {actions : List Action} {constructor : Constructor}
    (schedule : Schedules [] actions) :
    (machine constructor).EachStep NotCall state actions := by
  rw [Machine.eachStep_iff_split]
  rintro past action rest reached rfl -
  cases action with
  | call body =>
      have member : Action.call body ∈
          (past ++ Action.call body :: rest).filter Action.isApplication := by
        simp [Action.isApplication]
      rw [schedule] at member
      simp at member
  | deallocateDevice => trivial
  | executeTask => trivial
  | finishDealloc => trivial

/-! ### Schedules with a stray task -/

def retainedTasks (calls : List AudioTask) : List PostedTask :=
  calls.map fun body => { body := body, retainsWrapper := true }

theorem runFrom_calls (constructor : Constructor) (calls : List AudioTask) (state : State)
    (held : state.heldByDevice = true) :
    (machine constructor).runFrom state (calls.map Action.call) =
      some { state with queue := state.queue ++ retainedTasks calls } := by
  induction calls generalizing state with
  | nil => simp [retainedTasks]
  | cons body rest inductionHypothesis =>
      have stepped : (machine constructor).step state (.call body) =
          some (state.post { body := body, retainsWrapper := true }) := by
        simp [machine, step, held]
      rw [List.map_cons, Machine.runFrom_cons_some _ _ stepped,
        inductionHypothesis (state.post _) held]
      simp [State.post, retainedTasks]

/-- While the device holds the wrapper the worker thread can empty the queue. -/
theorem runFrom_executeTasks (constructor : Constructor) (state : State)
    (held : state.heldByDevice = true) (alive : state.phase = .alive) :
    (machine constructor).runFrom state (List.replicate state.queue.length .executeTask) =
      some { state with queue := [] } := by
  generalize queue : state.queue = tasks
  induction tasks generalizing state with
  | nil =>
      rw [List.length_nil, List.replicate_zero, Machine.runFrom_nil, ← queue]
  | cons task rest inductionHypothesis =>
      have stepped : (machine constructor).step state .executeTask =
          some { state with queue := rest } := by
        have referenced : ({ state with queue := rest } : State).referenced = true := by
          simp [State.referenced, held]
        have awake : state.phase ≠ .deallocating true := by simp [alive]
        simp only [machine, step, queue, if_neg awake]
        split
        · rw [afterRelease_of_referenced referenced]
        · rfl
      rw [List.length_cons, List.replicate_succ, Machine.runFrom_cons_some _ _ stepped,
        inductionHypothesis { state with queue := rest } held alive rfl]

private theorem filter_isApplication_calls (calls : List AudioTask) :
    (calls.map Action.call).filter Action.isApplication = calls.map Action.call := by
  simp [List.filter_map, Action.isApplication, Function.comp_def]

/-- A run of a schedule in which a task executes at a bad moment. -/
theorem not_eachStep_of_run {constructor : Constructor} {past : List Action} {state : State}
    (last : State)
    (ran : (machine constructor).run past = some state)
    (executed : (machine constructor).step state .executeTask = some last)
    (bad : ¬ TaskFindsDevice state .executeTask) :
    (machine constructor).run (past ++ [.executeTask]) = some last ∧
      ¬ (machine constructor).EachStep TaskFindsDevice (initialState constructor)
        (past ++ [.executeTask]) := by
  constructor
  · rw [Machine.run, Machine.runFrom_append, ← Machine.run, ran, Option.bind_some,
      Machine.runFrom_cons_some _ _ executed, Machine.runFrom_nil]
  · intro every
    exact bad (Machine.eachStep_iff_split.mp every past .executeTask [] state rfl ran)

/-- A captured session posts its last task from `dealloc`; the worker thread
may execute it after the wrapper is gone. -/
theorem captured_task_outlives_wrapper (calls : List AudioTask) :
    ∃ actions reached, Schedules calls actions ∧
      (machine (.captureAudioSession true)).run actions = some reached ∧
      ¬ (machine (.captureAudioSession true)).EachStep TaskFindsDevice
        (initialState (.captureAudioSession true)) actions := by
  let device := machine (.captureAudioSession true)
  let posted : State :=
    { initialState (.captureAudioSession true) with
      queue := { body := .start, retainsWrapper := true } :: retainedTasks calls }
  let freed : State :=
    { adm := true, captureAudioSession := true, heldByDevice := false,
      queue := [{ body := .stop, retainsWrapper := false }], phase := .deallocated }
  let past := calls.map Action.call ++
    (List.replicate posted.queue.length .executeTask ++ [.deallocateDevice, .finishDealloc])
  have called : device.run (calls.map Action.call) = some posted :=
    runFrom_calls _ calls _ rfl
  have executed : device.runFrom posted (List.replicate posted.queue.length .executeTask) =
      some { posted with queue := [] } := runFrom_executeTasks _ posted rfl rfl
  have ran : device.run past = some freed := by
    rw [Machine.run, Machine.runFrom_append, ← Machine.run, called, Option.bind_some,
      Machine.runFrom_append, executed]
    rfl
  obtain ⟨reaches, fails⟩ := not_eachStep_of_run { freed with queue := [] } ran rfl
    (by simp [TaskFindsDevice, freed])
  refine ⟨past ++ [.executeTask], _, ?_, reaches, fails⟩
  simp only [Schedules, past, List.filter_append, filter_isApplication_calls, List.append_assoc,
    List.filter_replicate]
  rfl

/-- Without a module the first call's task dereferences null. -/
theorem pcFactory_task_without_module (body : AudioTask) (calls : List AudioTask) :
    ∃ actions reached, Schedules (body :: calls) actions ∧
      (machine .pcFactory).run actions = some reached ∧
      ¬ (machine .pcFactory).EachStep TaskFindsDevice (initialState .pcFactory) actions := by
  let posted : State :=
    { initialState .pcFactory with queue := retainedTasks (body :: calls), heldByDevice := false }
  let past := (body :: calls).map Action.call ++ [.deallocateDevice]
  have called : (machine .pcFactory).run ((body :: calls).map Action.call) =
      some { initialState .pcFactory with queue := retainedTasks (body :: calls) } :=
    runFrom_calls _ (body :: calls) _ rfl
  have ran : (machine .pcFactory).run past = some posted := by
    unfold Machine.run
    rw [Machine.runFrom_append, ← Machine.run, called]
    rfl
  obtain ⟨reaches, fails⟩ := not_eachStep_of_run
    ({ posted with queue := retainedTasks calls }.afterRelease true) ran rfl
    (by simp [TaskFindsDevice, posted, retainedTasks, initialState])
  refine ⟨past ++ [.executeTask], _, ?_, reaches, fails⟩
  simp only [Schedules, past, List.filter_append, filter_isApplication_calls, List.append_assoc]
  rfl

/-- Under every schedule every task finds its device, exactly for a device that
owns its module without capturing the session, and for a device made from a
factory on which neither method is called. -/
theorem tasks_find_device_iff (constructor : Constructor) (calls : List AudioTask) :
    (∀ actions reached, Schedules calls actions →
      (machine constructor).run actions = some reached →
      (machine constructor).EachStep TaskFindsDevice (initialState constructor) actions) ↔
      constructor = .captureAudioSession false ∨ (constructor = .pcFactory ∧ calls = []) := by
  constructor
  · intro every
    rcases constructor with captured | _
    · cases captured with
      | false => exact Or.inl rfl
      | true =>
          obtain ⟨actions, reached, schedule, ran, fails⟩ := captured_task_outlives_wrapper calls
          exact absurd (every actions reached schedule ran) fails
    · cases calls with
      | nil => exact Or.inr ⟨rfl, rfl⟩
      | cons body rest =>
          obtain ⟨actions, reached, schedule, ran, fails⟩ :=
            pcFactory_task_without_module body rest
          exact absurd (every actions reached schedule ran) fails
  · rintro (rfl | ⟨rfl, rfl⟩) actions reached schedule -
    · have start : Quiet (initialState (.captureAudioSession false)) := by
        constructor <;> simp [initialState]
      exact Machine.eachStep_of_invariant
        (fun _ _ _ quiet _ stepped => quiet_step quiet stepped)
        (fun _ action quiet _ => quiet.taskFindsDevice action) start
        (Machine.eachStep_true _ actions)
    · have start : Idle (initialState .pcFactory) := ⟨rfl, rfl⟩
      have kept : ∀ state action next, Idle state → NotCall state action →
          (machine .pcFactory).step state action = some next → Idle next :=
        fun _ _ _ idle notCall stepped => idle_step idle notCall stepped
      refine Machine.eachStep_of_invariant kept ?_ start (eachStep_notCall schedule)
      rintro state action ⟨empty, -⟩ -
      cases action with
      | executeTask => exact fun nonempty => absurd empty nonempty
      | call body => trivial
      | deallocateDevice => trivial
      | finishDealloc => trivial

/-- A captured session with no call at all: the task posted by `dealloc`
executes after the wrapper was deallocated. -/
theorem captured_session_counterexample :
    ¬ ∀ constructor calls actions reached, Schedules calls actions →
      (machine constructor).run actions = some reached →
      (machine constructor).EachStep TaskFindsDevice (initialState constructor) actions := by
  intro claim
  have every := claim (.captureAudioSession true) []
    [.executeTask, .deallocateDevice, .finishDealloc, .executeTask] _ rfl rfl
  simp [Machine.EachStep, machine, step, initialState, TaskFindsDevice, State.afterRelease,
    State.referenced, State.post] at every

end AudioSession

end MediasoupClientSwift
