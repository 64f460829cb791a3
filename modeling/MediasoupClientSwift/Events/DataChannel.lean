import MediasoupClientSwift.Events.Delivery
import MediasoupClientSwift.Media.Consumer

/-!
Owns the payloads of data channels in both directions: what `DataProducer.send`
hands to the native object, and what a `DataConsumer` hands to its delegate in
any run during which the delegate stays set.
-/

namespace MediasoupClientSwift

open Library

/-! ### From the application to the native object -/

variable {World : Type}

def DataProducer.sendAll (self : DataProducer) : List Bytes → ObjCpp (Process World) Unit
  | [] => pure ()
  | buffer :: rest => do
      self.send buffer
      self.sendAll rest

/-- The native object's record of its `Send` invocations grew by these buffers,
one each, in order. The record may be any that a native library keeps. -/
def SendsCarried (sent : World → List Bytes) (self : DataProducer) (buffers : List Bytes)
    (process : Process World) : Prop :=
  ∃ after, self.sendAll buffers process = (.ok (), after) ∧
    sent after.native = sent process.native ++ buffers

/-- No buffer leaves the wrapper. -/
theorem DataProducer.sendAll_eq (self : DataProducer) (buffers : List Bytes)
    (process : Process World) : self.sendAll buffers process = (.ok (), process) := by
  induction buffers with
  | nil => rfl
  | cons buffer rest inductionHypothesis =>
      have dropped : self.send buffer process = (.ok (), process) := rfl
      unfold DataProducer.sendAll
      rw [Program.bind_of_ok dropped]
      exact inductionHypothesis

private theorem sendsCarried_iff (sent : World → List Bytes) (self : DataProducer)
    (buffers : List Bytes) (process : Process World) :
    SendsCarried sent self buffers process ↔ buffers = [] := by
  constructor
  · intro carried
    obtain ⟨after, ran, grown⟩ := carried
    rw [DataProducer.sendAll_eq, Prod.mk.injEq] at ran
    rw [← ran.2] at grown
    exact List.self_eq_append_right.mp grown
  · intro none
    refine ⟨process, self.sendAll_eq buffers process, ?_⟩
    rw [none, List.append_nil]

/-! ### From the native object to the delegate -/

def Event.message {Text State Kind : Type} : Event Text State Kind → Option Bytes
  | .dataConsumerOnMessage messageData => some messageData
  | _ => none

/-- What the application is told keeps the buffer, and makes no message of another
event. -/
theorem NativeEvent.reported_bind_message (event : NativeEvent) :
    event.reported.bind Event.message = event.message := by
  cases event with
  | sendTransportOnConnectionStateChange name =>
      cases known : TransportConnectionState.named name.text <;>
        simp [NativeEvent.reported, Event.message, known]
  | receiveTransportOnConnectionStateChange name =>
      cases known : TransportConnectionState.named name.text <;>
        simp [NativeEvent.reported, Event.message, known]
  | sendTransportOnProduce name rtpParameters appData callback =>
      cases known : MediaKind.named name.text <;>
        simp [NativeEvent.reported, Event.message, known]
  | _ => rfl

namespace Delivery

/-- The data consumer of an adapter stands with its delegate: wrapper and facade
are alive and the facade's delegate is this one, alive. -/
def Listening (adapter facade delegate : Nat) (state : State) : Prop :=
  ∃ (made : Creation) (wrapperName : Nat) (wrapper : Wrapper) (object : Facade),
    state.creations[adapter]? = some made ∧ made.wrapper = some wrapperName ∧
    made.facade = some facade ∧ state.wrappers[wrapperName]? = some wrapper ∧
    wrapper.alive = true ∧ wrapper.disposeStarted = false ∧
    state.facades[facade]? = some object ∧ object.alive = true ∧
    state.loadDelegate object.delegate = some delegate

/-- The payload of a message call of this facade to this delegate. -/
def DelegateCall.message (facade delegate : Nat) (call : DelegateCall) : Option Bytes :=
  if call.facade = facade ∧ call.delegate = delegate then call.event.message else none

def received (facade delegate : Nat) (calls : List DelegateCall) : List Bytes :=
  calls.filterMap (DelegateCall.message facade delegate)

def Action.message (adapter : Nat) : Action → Option Bytes
  | .event name native => if name = adapter then native.message else none
  | _ => none

/-- The native `OnMessage` buffers of a run on one adapter. -/
def messages (adapter : Nat) (actions : List Action) : List Bytes :=
  actions.filterMap (Action.message adapter)

private theorem messages_cons (adapter : Nat) (action : Action) (rest : List Action) :
    messages adapter (action :: rest) =
      (Action.message adapter action).toList ++ messages adapter rest := by
  cases carried : Action.message adapter action <;> simp [messages, carried]

/-- In every run from any reachable state during which the data consumer stands
with its delegate, the delegate receives exactly the buffers, in order. -/
def MessagesCarried : Prop :=
  ∀ (past actions : List Action) (start last : State) (adapter facade delegate : Nat),
    machine.run past = some start → machine.runFrom start actions = some last →
    machine.EachStep (fun state _ => Listening adapter facade delegate state) start actions →
    received facade delegate last.calls =
      received facade delegate start.calls ++ messages adapter actions

theorem Listening.owedCall {state : State} {adapter facade delegate : Nat}
    (listening : Listening adapter facade delegate state) (event : NativeEvent) :
    state.owedCall adapter event = event.reported.map fun reported =>
      { delegate := delegate, facade := facade, event := reported } := by
  obtain ⟨made, wrapperName, wrapper, object, created, ownWrapper, ownFacade, foundWrapper,
    wrapperAlive, undisposed, foundFacade, facadeAlive, delegateSet⟩ := listening
  simp only [State.owedCall, created, ownWrapper, ownFacade, foundWrapper, foundFacade,
    wrapperAlive, undisposed, facadeAlive, delegateSet, Option.bind_eq_bind, Option.bind_some,
    and_self, if_true]
  cases event.reported <;> rfl

/-- The owed call comes from the facade created with the adapter. -/
theorem facade_of_owedCall {state : State} {adapter : Nat} {event : NativeEvent}
    {call : DelegateCall} (owed : state.owedCall adapter event = some call) :
    ∃ made : Creation, state.creations[adapter]? = some made ∧ made.facade = some call.facade := by
  simp only [State.owedCall, Option.bind_eq_bind, Option.bind_eq_some_iff,
    Option.ite_none_right_eq_some, Option.some.injEq] at owed
  obtain ⟨made, created, _, _, _, _, name, ownFacade, _, _, _, _, _, _, _, rfl⟩ := owed
  exact ⟨made, created, ownFacade⟩

/-- One step owes the delegate the message it carries for this data consumer. -/
theorem received_owedByStep {state : State} {adapter facade delegate : Nat}
    (linked : Linked state) (listening : Listening adapter facade delegate state)
    (action : Action) :
    received facade delegate (state.owedByStep action) =
      (Action.message adapter action).toList := by
  cases action with
  | event name event =>
      by_cases same : name = adapter
      · subst same
        have carried := NativeEvent.reported_bind_message event
        rw [received, State.owedByStep, listening.owedCall event, Action.message, if_pos rfl,
          ← carried]
        cases event.reported with
        | none => rfl
        | some reported =>
            have own : DelegateCall.message facade delegate
                { delegate := delegate, facade := facade, event := reported } = reported.message :=
              if_pos ⟨rfl, rfl⟩
            simp only [Option.map_some, Option.bind_some, Option.toList_some, List.filterMap_cons,
              List.filterMap_nil, own]
            cases reported.message <;> rfl
      · rw [Action.message, if_neg same, received, State.owedByStep]
        cases owed : state.owedCall name event with
        | none => rfl
        | some call =>
            obtain ⟨other, otherCreated, otherFacade⟩ := facade_of_owedCall owed
            obtain ⟨made, _, _, _, created, _, ownFacade, _⟩ := listening
            have different : call.facade ≠ facade := by
              intro sameFacade
              rw [sameFacade] at otherFacade
              exact same (linked.facadesSeparate name adapter facade other made otherCreated
                created otherFacade ownFacade)
            simp [DelegateCall.message, different]
  | _ => rfl

private theorem received_runFrom {state last : State} {actions : List Action}
    {adapter facade delegate : Nat} (linked : Linked state)
    (ran : machine.runFrom state actions = some last)
    (listening : machine.EachStep (fun state _ => Listening adapter facade delegate state)
      state actions) :
    received facade delegate last.calls =
      received facade delegate state.calls ++ messages adapter actions := by
  induction actions generalizing state with
  | nil =>
      obtain rfl := Option.some.inj ran
      unfold messages
      rw [List.filterMap_nil, List.append_nil]
  | cons action rest inductionHypothesis =>
      rw [Machine.runFrom_cons, Option.bind_eq_some_iff] at ran
      obtain ⟨next, stepped, ran⟩ := ran
      have later := inductionHypothesis (linked_step linked stepped) ran (listening.2 next stepped)
      have now : received facade delegate next.calls =
          received facade delegate state.calls ++ (Action.message adapter action).toList := by
        rw [calls_step linked stepped, received, List.filterMap_append, ← received, ← received,
          received_owedByStep linked listening.1]
      rw [later, now, List.append_assoc, messages_cons]

private theorem messagesCarried : MessagesCarried := by
  intro past actions start last adapter facade delegate arrived ran listening
  exact received_runFrom (linked_run arrived) ran listening

end Delivery

/-- The payloads of a list of buffers are carried in both directions exactly
where there is no buffer to send: `send:` drops every buffer. -/
theorem payloads_carried_iff (sent : World → List Bytes) (producer : DataProducer)
    (buffers : List Bytes) (process : Process World) :
    (SendsCarried sent producer buffers process ∧ Delivery.MessagesCarried) ↔ buffers = [] := by
  rw [sendsCarried_iff]
  exact and_iff_left Delivery.messagesCarried

/-- No record the native object could keep shows a buffer of one byte that was sent. -/
theorem sent_payload_dropped_counterexample :
    ¬ ∃ sent : SampleWorld → List Bytes,
      SendsCarried sent { producer := 1, listenerAdapter := 0 } [[7]] (sampleProcess true false) := by
  rintro ⟨sent, after, ran, grown⟩
  obtain rfl : sampleProcess true false = after := congrArg Prod.snd ran
  exact absurd (List.self_eq_append_right.mp grown) (by simp)

end MediasoupClientSwift
