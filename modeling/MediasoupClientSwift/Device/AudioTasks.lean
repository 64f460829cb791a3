import MediasoupClientSwift.Device.AudioSession
import MediasoupClientSwift.Library.Ghost

/-!
Owns the order in which the worker thread executes the audio-session tasks of a
device, and the moment at which the device's wrapper is deallocated. The main
results say that the tasks are executed in the order they were posted, each
once, that the wrapper lives exactly as long as something refers to it, and that
after the device is gone the worker thread stops with nothing left to execute.
-/

namespace MediasoupClientSwift.AudioSession

open Library

def firstTasks : Constructor → List AudioTask
  | .captureAudioSession true => [.start]
  | .captureAudioSession false => []
  | .pcFactory => []

/-- The tasks `retainAudioSession` and `releaseAudioSession` post. -/
def Action.posts : Action → List AudioTask
  | .call body => [body]
  | .deallocateDevice => []
  | .executeTask => []
  | .finishDealloc => []

/-- The task `dealloc` posts, once it was entered. -/
def lastTasks : Constructor → Phase → List AudioTask
  | .captureAudioSession true, .deallocating _ => [.stop]
  | .captureAudioSession true, .deallocated => [.stop]
  | .captureAudioSession true, .alive => []
  | .captureAudioSession false, _ => []
  | .pcFactory, _ => []

def postedTasks (constructor : Constructor) (actions : List Action) (phase : Phase) :
    List AudioTask :=
  firstTasks constructor ++ actions.flatMap Action.posts ++ lastTasks constructor phase

def State.waiting (state : State) : List AudioTask :=
  state.queue.map (·.body)

def executes (state : State) : Action → List AudioTask
  | .call _ => []
  | .deallocateDevice => []
  | .executeTask => state.waiting.take 1
  | .finishDealloc => []

/-- The machine beside the tasks executed so far. -/
def recorded (constructor : Constructor) : Machine (State × List AudioTask) Action :=
  (machine constructor).withGhost [] fun state action executed =>
    executed ++ executes state action

@[simp] theorem waiting_post (state : State) (task : PostedTask) :
    (state.post task).waiting = state.waiting ++ [task.body] := by
  simp [State.waiting, State.post]

/-- What holds of a device after `past`, beside the tasks executed so far. -/
structure InOrder (constructor : Constructor) (past : List Action) (state : State)
    (executed : List AudioTask) : Prop where
  captured : state.captureAudioSession = (initialState constructor).captureAudioSession
  conserved : executed ++ state.waiting = postedTasks constructor past state.phase
  referenced : state.phase = .alive ↔ state.referenced = true

private theorem inOrder_initial (constructor : Constructor) :
    InOrder constructor [] (initialState constructor) [] := by
  cases constructor with
  | pcFactory => exact ⟨rfl, rfl, by simp [initialState, State.referenced]⟩
  | captureAudioSession value =>
      cases value with
      | true => exact ⟨rfl, rfl, by simp [initialState, State.referenced]⟩
      | false => exact ⟨rfl, rfl, by simp [initialState, State.referenced]⟩

private theorem lastTasks_alive (constructor : Constructor) :
    lastTasks constructor .alive = [] := by
  cases constructor with
  | pcFactory => rfl
  | captureAudioSession value => cases value <;> rfl

/-- Inside `dealloc` a task was posted where the session was captured. -/
theorem lastTasks_of_ne_alive (constructor : Constructor) {phase : Phase} (left : phase ≠ .alive) :
    lastTasks constructor phase =
      if (initialState constructor).captureAudioSession then [.stop] else [] := by
  cases phase with
  | alive => exact absurd rfl left
  | deallocating onWorkerThread =>
      cases constructor with
      | pcFactory => rfl
      | captureAudioSession value => cases value <;> rfl
  | deallocated =>
      cases constructor with
      | pcFactory => rfl
      | captureAudioSession value => cases value <;> rfl

theorem lastTasks_congr (constructor : Constructor) {phase other : Phase}
    (left : phase ≠ .alive) (otherLeft : other ≠ .alive) :
    lastTasks constructor phase = lastTasks constructor other :=
  (lastTasks_of_ne_alive constructor left).trans (lastTasks_of_ne_alive constructor otherLeft).symm

/-- A live wrapper that just lost a reference stays as it is, or enters its
`dealloc` and posts the last task. -/
theorem inOrder_afterRelease {constructor : Constructor} {past : List Action} {state : State}
    {executed : List AudioTask} {onWorkerThread : Bool} (alive : state.phase = .alive)
    (captured : state.captureAudioSession = (initialState constructor).captureAudioSession)
    (conserved : executed ++ state.waiting = postedTasks constructor past .alive) :
    InOrder constructor past (state.afterRelease onWorkerThread) executed := by
  cases referenced : state.referenced with
  | true =>
      rw [afterRelease_of_referenced referenced]
      exact ⟨captured, by rw [alive, conserved], by simp [alive, referenced]⟩
  | false =>
      rw [postedTasks, lastTasks_alive, List.append_nil] at conserved
      have left : Phase.deallocating onWorkerThread ≠ .alive := by simp
      cases capture : state.captureAudioSession with
      | false =>
          rw [afterRelease_of_last referenced capture]
          refine ⟨captured, ?_, by simpa [State.referenced] using referenced⟩
          rw [postedTasks, lastTasks_of_ne_alive constructor left, ← captured, capture]
          simpa [State.waiting] using conserved
      | true =>
          have entered : state.afterRelease onWorkerThread =
              { state.post { body := .stop, retainsWrapper := false } with
                phase := .deallocating onWorkerThread } := by
            simp [State.afterRelease, referenced, capture]
          rw [entered]
          refine ⟨captured, ?_, ?_⟩
          · rw [postedTasks, lastTasks_of_ne_alive constructor left, ← captured, capture,
              ← conserved]
            simp [State.waiting, State.post]
          · -- The last task holds no reference to the wrapper that posted it.
            simpa [State.referenced, State.post] using referenced

private theorem inOrder_step {constructor : Constructor} {past : List Action} {state next : State}
    {executed : List AudioTask} {action : Action} (kept : InOrder constructor past state executed)
    (stepped : step state action = some next) :
    InOrder constructor (past ++ [action]) next (executed ++ executes state action) := by
  cases action with
  | call body =>
      simp only [step, Option.ite_none_right_eq_some, Option.some.injEq] at stepped
      obtain ⟨held, rfl⟩ := stepped
      have alive : state.phase = .alive := kept.referenced.mpr (by simp [State.referenced, held])
      have conserved := kept.conserved
      rw [alive, postedTasks, lastTasks_alive, List.append_nil] at conserved
      refine ⟨kept.captured, ?_, ?_⟩
      · rw [waiting_post, executes, List.append_nil, ← List.append_assoc, conserved]
        simp [State.post, alive, postedTasks, lastTasks_alive, Action.posts]
      · simp [State.referenced, State.post, held, alive]
  | deallocateDevice =>
      simp only [step, Option.ite_none_right_eq_some, Option.some.injEq] at stepped
      obtain ⟨held, rfl⟩ := stepped
      have alive : state.phase = .alive := kept.referenced.mpr (by simp [State.referenced, held])
      refine inOrder_afterRelease alive kept.captured ?_
      simpa [executes, postedTasks, Action.posts, alive, State.waiting] using kept.conserved
  | executeTask =>
      simp only [step, Option.ite_none_left_eq_some] at stepped
      obtain ⟨-, stepped⟩ := stepped
      cases queue : state.queue with
      | nil => simp [queue] at stepped
      | cons task rest =>
          simp only [queue] at stepped
          have moved : (executed ++ executes state .executeTask) ++ rest.map (·.body) =
              postedTasks constructor (past ++ [.executeTask]) state.phase := by
            have conserved := kept.conserved
            simp only [State.waiting, queue] at conserved
            simpa [executes, State.waiting, queue, postedTasks, Action.posts] using conserved
          split at stepped
          next retains =>
            obtain rfl := Option.some.inj stepped
            have alive : state.phase = .alive :=
              kept.referenced.mpr (by simp [State.referenced, queue, retains])
            exact inOrder_afterRelease alive kept.captured (by rw [← alive]; exact moved)
          next retains =>
            obtain rfl := Option.some.inj stepped
            refine ⟨kept.captured, moved, ?_⟩
            simpa [State.referenced, queue, retains] using kept.referenced
  | finishDealloc =>
      simp only [step] at stepped
      split at stepped
      next onWorkerThread phase =>
        obtain rfl := Option.some.inj stepped
        have conserved := kept.conserved
        have left : Phase.deallocating onWorkerThread ≠ .alive := by simp
        have gone : Phase.deallocated ≠ .alive := by simp
        rw [phase, postedTasks, lastTasks_of_ne_alive constructor left] at conserved
        refine ⟨kept.captured, ?_, ?_⟩
        · rw [postedTasks, lastTasks_of_ne_alive constructor gone]
          simpa [executes, Action.posts, State.waiting] using conserved
        · simpa [phase, State.referenced] using kept.referenced
      next => cases stepped

theorem inOrder_run {constructor : Constructor} {actions : List Action} {state : State}
    {executed : List AudioTask}
    (ran : (recorded constructor).run actions = some (state, executed)) :
    InOrder constructor actions state executed := by
  have kept : ∀ (past : List Action) (both : State × List AudioTask) (action : Action)
      (next : State × List AudioTask), InOrder constructor past both.1 both.2 →
      (recorded constructor).step both action = some next →
      InOrder constructor (past ++ [action]) next.1 next.2 := by
    intro past both action next kept stepped
    obtain ⟨taken, same⟩ := Machine.step_withGhost_eq_some_iff.mp stepped
    rw [same]
    exact inOrder_step kept taken
  have start : InOrder constructor [] (recorded constructor).initial.1
      (recorded constructor).initial.2 := inOrder_initial constructor
  exact Machine.invariant_history kept start ran

/-- In every run the executed tasks, followed by those in the queue, are the
posted tasks in the order they were posted, and the wrapper is out of its
`dealloc` exactly as long as the device or a queued task refers to it. -/
theorem tasks_in_order (constructor : Constructor) (actions : List Action) (state : State)
    (executed : List AudioTask)
    (ran : (recorded constructor).run actions = some (state, executed)) :
    executed ++ state.waiting = postedTasks constructor actions state.phase ∧
      (state.phase = .alive ↔ state.referenced = true) := by
  have kept := inOrder_run ran
  exact ⟨kept.conserved, kept.referenced⟩

/-- A captured session, released once while it is held and once from `dealloc`. -/
theorem tasks_in_order_sample :
    [AudioTask.start, .stop] ++ [AudioTask.stop] = [.start, .stop, .stop] ∧
      (Phase.deallocated = .alive ↔ (false || false) = true) :=
  tasks_in_order (.captureAudioSession true)
    [.executeTask, .call .stop, .deallocateDevice, .executeTask, .finishDealloc]
    { adm := true, captureAudioSession := true, heldByDevice := false,
      queue := [{ body := .stop, retainsWrapper := false }], phase := .deallocated }
    [.start, .stop] rfl

/-- Where the device is gone and the worker thread can do nothing, the wrapper
is deallocated, and every task was executed, the one of `dealloc` last. -/
theorem worker_stops_done (constructor : Constructor) (actions : List Action) (state : State)
    (executed : List AudioTask)
    (ran : (recorded constructor).run actions = some (state, executed))
    (released : state.heldByDevice = false)
    (noTask : step state .executeTask = none) (noDealloc : step state .finishDealloc = none) :
    state.phase = .deallocated ∧
      executed = postedTasks constructor actions .deallocated := by
  have kept := inOrder_run ran
  have awake : ∀ onWorkerThread, state.phase ≠ .deallocating onWorkerThread := by
    intro onWorkerThread phase
    simp [step, phase] at noDealloc
  have empty : state.queue = [] := by
    cases queue : state.queue with
    | nil => rfl
    | cons task rest =>
        simp only [step, if_neg (awake true), queue] at noTask
        split at noTask <;> cases noTask
  have phase : state.phase = .deallocated := by
    cases phase : state.phase with
    | alive =>
        have referenced := kept.referenced.mp phase
        simp [State.referenced, released, empty] at referenced
    | deallocating onWorkerThread => exact absurd phase (awake onWorkerThread)
    | deallocated => rfl
  have conserved := kept.conserved
  rw [phase] at conserved
  exact ⟨phase, by simpa [State.waiting, empty] using conserved⟩

theorem worker_stops_done_sample :
    Phase.deallocated = .deallocated ∧ [AudioTask.start, .stop, .stop] = [.start, .stop, .stop] :=
  worker_stops_done (.captureAudioSession true)
    [.executeTask, .call .stop, .deallocateDevice, .executeTask, .finishDealloc, .executeTask]
    { adm := true, captureAudioSession := true, heldByDevice := false, queue := [],
      phase := .deallocated }
    [.start, .stop, .stop] rfl rfl rfl rfl

end MediasoupClientSwift.AudioSession
