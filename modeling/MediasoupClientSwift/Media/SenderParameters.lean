import MediasoupClientSwift.Media.Producer
import MediasoupClientSwift.Rtp.RoundTrip

/-!
Owns what `updateSenderParameters` hands to `SetParameters`, for any native
sender and any updater: when an update by the identity hands back what
`GetParameters` gave, when everything an updater returned is written, and when
the write-back stays inside the native encodings.
-/

namespace MediasoupClientSwift

open Library

variable {World : Type} (library : NativeLibrary World)

namespace Producer

/-- `updateSenderParameters` up to its last statement: the sender and the
parameters it hands to `SetParameters`. -/
def parametersToSet (self : Producer) (updater : ProducerWrapper.Updater World RTPParameters) :
    ObjCpp (Process World) (Handle × Webrtc.RtpParameters) := do
  let (update, wrappedOldParameters) ← ProducerWrapper.beginUpdate library self.producer
  let wrappedNewParameters ←
    ProducerWrapper.runUpdater (wrappedUpdater updater) wrappedOldParameters
  match updatedNativeParameters update.parameters wrappedNewParameters with
  | none => Program.abort .undefinedBehaviour
  | some written => pure (update.sender, written)

/-- The call reaches `SetParameters` with these parameters. -/
def Sets (self : Producer) (updater : ProducerWrapper.Updater World RTPParameters)
    (process : Process World) (written : Webrtc.RtpParameters) : Prop :=
  ∃ reached, self.parametersToSet library updater process =
    (.ok (self.sender library process, written), reached)

variable {library} {self : Producer} {updater : ProducerWrapper.Updater World RTPParameters}
  {process : Process World}

private theorem parametersToSet_apply :
    self.parametersToSet library updater process =
      (match updatedNativeParameters (self.oldParameters library process)
          (self.returnedParameters library updater process).wrappedValue with
        | none => .error .undefinedBehaviour
        | some written => .ok (self.sender library process, written),
        (self.updaterRun library updater process).2) := by
  have last : self.parametersToSet library updater process =
      (match updatedNativeParameters (self.oldParameters library process)
          (self.returnedParameters library updater process).wrappedValue with
        | none => Program.abort Abrupt.undefinedBehaviour
        | some written => pure (self.sender library process, written) :
          ObjCpp (Process World) (Handle × Webrtc.RtpParameters))
        (self.updaterRun library updater process).2 := rfl
  rw [last]
  cases updatedNativeParameters (self.oldParameters library process)
    (self.returnedParameters library updater process).wrappedValue <;> rfl

/-- The whole call hands over these parameters, and drops the answer. -/
theorem updateSenderParameters_eq_set :
    self.updateSenderParameters library updater =
      (self.parametersToSet library updater >>= fun handed =>
        runNative fun native => (library.setParameters handed.1 handed.2 native).2) := by
  have writes (update : ProducerWrapper.OpenUpdate) (wrapped : WrappedRTPParameters) :
      (ProducerWrapper.finishUpdate library update wrapped : ObjCpp (Process World) Unit) =
        ((match updatedNativeParameters update.parameters wrapped with
          | none => Program.abort .undefinedBehaviour
          | some written => pure (update.sender, written)) >>= fun handed =>
            runNative fun native => (library.setParameters handed.1 handed.2 native).2) := by
    unfold ProducerWrapper.finishUpdate
    cases updatedNativeParameters update.parameters wrapped <;> rfl
  unfold updateSenderParameters ProducerWrapper.updateRTPParameters parametersToSet
  simp only [Program.bind_assoc, writes]

theorem sets_iff {written : Webrtc.RtpParameters} :
    self.Sets library updater process written ↔
      updatedNativeParameters (self.oldParameters library process)
        (self.returnedParameters library updater process).wrappedValue = some written := by
  unfold Sets
  rw [parametersToSet_apply]
  cases updatedNativeParameters (self.oldParameters library process)
    (self.returnedParameters library updater process).wrappedValue <;> simp

end Producer

/-! ### The identity -/

/-- An update by the identity sets exactly the parameters it was given when the
degradation preference is absent or balanced and the scalability modes are plain
text. -/
theorem identity_update_iff (self : Producer) (process : Process World)
    (sized : ∀ encoding ∈ (self.oldParameters library process).encodings,
      ∀ resolution ∈ encoding.scaleResolutionDownTo, resolution.Sized) :
    self.Sets library (fun parameters running => (parameters, running)) process
        (self.oldParameters library process) ↔
      (∀ preference ∈ (self.oldParameters library process).degradationPreference,
        preference = .balanced) ∧
      ∀ encoding ∈ (self.oldParameters library process).encodings,
        ∀ mode ∈ encoding.scalabilityMode, IsPlainText mode := by
  rw [Producer.sets_iff]
  exact updatedNativeParameters_of_read_iff sized

/-- A process over the sample library whose sender has these parameters. -/
def senderProcess (encodings : List Webrtc.RtpEncodingParameters)
    (preference : Option Webrtc.DegradationPreference) : Process SampleWorld :=
  { sampleProcess true false with
    native :=
      { loaded := true
        closed := false
        sender :=
          { parameters :=
              { transactionId := 0, mid := [], codecs := [], headerExtensions := [],
                encodings := encodings, degradationPreference := preference }
            latest := none
            issued := 0 } } }

def sampleProducer : Producer := { producer := ⟨0, 3, 0⟩, kind := .video }

/-- One encoding scaled to 1280 by 720. -/
theorem identity_update_iff_sample :
    let process := senderProcess [{ scaleResolutionDownTo := some ⟨1280, 720⟩ }] (some .balanced)
    sampleProducer.Sets sampleLibrary (fun parameters running => (parameters, running)) process
        (sampleProducer.oldParameters sampleLibrary process) ↔
      (∀ preference ∈ (sampleProducer.oldParameters sampleLibrary process).degradationPreference,
        preference = .balanced) ∧
      ∀ encoding ∈ (sampleProducer.oldParameters sampleLibrary process).encodings,
        ∀ mode ∈ encoding.scalabilityMode, IsPlainText mode := by
  apply identity_update_iff
  intro encoding member resolution present
  obtain rfl := List.mem_singleton.mp member
  obtain rfl := Option.some.inj present
  exact { width := by decide, height := by decide, product := by decide }

/-- A sender that maintains its resolution is told to balance. -/
theorem identity_update_rewrites_preference :
    (∀ encoding ∈ (sampleProducer.oldParameters sampleLibrary
        (senderProcess [] (some .maintainResolution))).encodings,
      ∀ resolution ∈ encoding.scaleResolutionDownTo, resolution.Sized) ∧
    ¬ sampleProducer.Sets sampleLibrary (fun parameters running => (parameters, running))
        (senderProcess [] (some .maintainResolution))
        (sampleProducer.oldParameters sampleLibrary
          (senderProcess [] (some .maintainResolution))) := by
  constructor
  · intro encoding member
    cases member
  · rw [Producer.sets_iff]
    decide

/-! ### Everything returned is written -/

/-- An update that returns as many encodings as the sender has writes all it
returned exactly when no encoding is switched on or off and no scalability mode
has a NUL. -/
theorem update_writes_all_iff (self : Producer)
    (updater : ProducerWrapper.Updater World RTPParameters) (process : Process World)
    (sameCount : (self.returnedParameters library updater process).returnedEncodings.length =
      (self.oldParameters library process).encodings.length)
    (admissible : ∀ encoding ∈ (self.returnedParameters library updater process).returnedEncodings,
      encoding.Admissible) :
    (∃ written, self.Sets library updater process written ∧
        written.degradationPreference =
          (self.returnedParameters library updater process).degradationPreference.map
            RTPParameters.DegradationPreference.native ∧
        AtReturned EncodingWritten (self.returnedParameters library updater process) written) ↔
      ∀ (k : Nat) (updated : RTPParameters.RTPEncodingParameters)
        (encoding : Webrtc.RtpEncodingParameters),
        (self.returnedParameters library updater process).returnedEncodings[k]? = some updated →
        (self.oldParameters library process).encodings[k]? = some encoding →
          encoding.active = updated.isActive ∧
            ∀ mode ∈ updated.scalabilityMode, 0 ∉ utf8Bytes mode := by
  have written := atReturned_iff updatedNativeEncoding_written_iff
    (self.oldParameters library process) (self.returnedParameters library updater process)
  simp only [Producer.sets_iff]
  constructor
  · rintro ⟨new, defined, -, all⟩ k updated encoding updatedFound encodingFound
    have writable := (written.mp ⟨new, defined, all⟩).2 k updated encoding updatedFound encodingFound
    exact ⟨writable.isActive, writable.scalabilityMode⟩
  · intro carried
    obtain ⟨new, defined, all⟩ := written.mpr ⟨Nat.le_of_eq sameCount, by
      intro k updated encoding updatedFound encodingFound
      obtain ⟨isActive, scalabilityMode⟩ := carried k updated encoding updatedFound encodingFound
      exact
        { isActive := isActive
          numbers := numbersKept_of_admissible (admissible updated (List.mem_of_getElem? updatedFound))
          scalabilityMode := scalabilityMode }⟩
    refine ⟨new, defined, ?_, all⟩
    obtain ⟨encodings, -, rfl⟩ := updatedNativeParameters_wrappedValue_eq_some_iff.mp defined
    rfl

def returnedEncoding (isActive : Bool) (resolution : Option RTPParameters.Resolution) :
    RTPParameters.RTPEncodingParameters where
  scalabilityMode := some "L1T3"
  scaleResolutionDownTo := resolution
  isActive := isActive
  maxBitrateBps := some 500000
  minBitrateBps := none
  maxFramerate := none
  numTemporalLayers := none
  scaleResolutionDownBy := none
  bitratePriority := Double.ofInt 1
  adaptiveAudioPacketTime := false

def returningEncodings (encodings : List RTPParameters.RTPEncodingParameters) :
    ProducerWrapper.Updater SampleWorld RTPParameters := fun old running =>
  ({ old with encodings := some encodings }, running)

theorem admissible_returnedEncoding (isActive : Bool) :
    (returnedEncoding isActive (some ⟨640, 360⟩)).Admissible := by
  constructor
  case minBitrateBps => exact fun value present => by cases present
  case maxBitrateBps =>
    intro value present
    obtain rfl := Option.some.inj present
    decide
  case numTemporalLayers => exact fun value present => by cases present
  all_goals
    intro resolution present
    obtain rfl := Option.some.inj present
    decide

/-- One encoding that stays on and is given a mode, a bitrate and a resolution. -/
theorem update_writes_all_iff_sample :
    let process := senderProcess [{}] none
    let updater := returningEncodings [returnedEncoding true (some ⟨640, 360⟩)]
    (∃ written, sampleProducer.Sets sampleLibrary updater process written ∧
        written.degradationPreference =
          (sampleProducer.returnedParameters sampleLibrary updater process).degradationPreference.map
            RTPParameters.DegradationPreference.native ∧
        AtReturned EncodingWritten
          (sampleProducer.returnedParameters sampleLibrary updater process) written) ↔
      ∀ (k : Nat) (updated : RTPParameters.RTPEncodingParameters)
        (encoding : Webrtc.RtpEncodingParameters),
        (sampleProducer.returnedParameters sampleLibrary updater process).returnedEncodings[k]? =
          some updated →
        (sampleProducer.oldParameters sampleLibrary process).encodings[k]? = some encoding →
          encoding.active = updated.isActive ∧
            ∀ mode ∈ updated.scalabilityMode, 0 ∉ utf8Bytes mode := by
  apply update_writes_all_iff
  · rfl
  · intro encoding member
    obtain rfl := List.mem_singleton.mp member
    exact admissible_returnedEncoding true

/-- An updater switches the only encoding off, and it stays on. -/
theorem switched_off_encoding_counterexample :
    let process := senderProcess [{}] none
    let updater := returningEncodings [returnedEncoding false (some ⟨640, 360⟩)]
    let returned := sampleProducer.returnedParameters sampleLibrary updater process
    returned.returnedEncodings.length =
        (sampleProducer.oldParameters sampleLibrary process).encodings.length ∧
      (∀ encoding ∈ returned.returnedEncodings, encoding.Admissible) ∧
      ¬ ∃ written, sampleProducer.Sets sampleLibrary updater process written ∧
        written.degradationPreference =
          returned.degradationPreference.map RTPParameters.DegradationPreference.native ∧
        AtReturned EncodingWritten returned written := by
  intro process updater returned
  refine ⟨rfl, ?_, ?_⟩
  · intro encoding member
    obtain rfl := List.mem_singleton.mp member
    exact admissible_returnedEncoding false
  · rintro ⟨written, sets, -, all⟩
    obtain ⟨native, found, holds⟩ := all 0 (returnedEncoding false (some ⟨640, 360⟩)) rfl
    have defined := Producer.sets_iff.mp sets
    have active : ∀ new, updatedNativeParameters (sampleProducer.oldParameters sampleLibrary process)
        returned.wrappedValue = some new → new.encodings[0]?.map (·.active) = some true := by
      decide
    have stays := active written defined
    rw [found, Option.map_some, holds.isActive] at stays
    cases stays

/-! ### In bounds, and nothing else touched -/

/-- The write-back uses no index past the native encodings and keeps everything
but what it is there to write exactly when the updater returns no more encodings
than the sender has, with sizes that are `int`s. -/
theorem update_in_bounds_iff (self : Producer)
    (updater : ProducerWrapper.Updater World RTPParameters) (process : Process World) :
    ((∀ index ∈ writeBackIndexes 0
          ((self.returnedParameters library updater process).wrappedValue.wrappedEncodings.getD []),
        index < (self.oldParameters library process).encodings.length) ∧
      ∃ written, self.Sets library updater process written ∧
        (self.oldParameters library process).Untouched
          (self.returnedParameters library updater process).returnedEncodings.length written) ↔
      (self.returnedParameters library updater process).returnedEncodings.length ≤
          (self.oldParameters library process).encodings.length ∧
        ∀ encoding ∈ (self.returnedParameters library updater process).returnedEncodings,
          ∀ resolution ∈ encoding.scaleResolutionDownTo,
            InInt32Range resolution.width.toInt ∧ InInt32Range resolution.height.toInt := by
  have count : ((self.returnedParameters library updater process).wrappedValue.wrappedEncodings.getD
      []).length = (self.returnedParameters library updater process).returnedEncodings.length := by
    rw [wrappedEncodings_wrappedValue, List.length_map]
  rw [writeBackIndexes_bounded_iff, count, ← exists_updatedNativeParameters_iff]
  simp only [Producer.sets_iff]
  constructor
  · rintro ⟨-, written, defined, -⟩
    exact ⟨written, defined⟩
  · rintro ⟨written, defined⟩
    have bounded := (exists_updatedNativeParameters_iff _ _).mp ⟨written, defined⟩
    have untouched := untouched_of_updatedNativeParameters defined
    rw [count] at untouched
    exact ⟨bounded.1, written, defined, untouched⟩

/-- An updater appends an encoding to a sender that has none. -/
theorem appended_encoding_counterexample :
    let process := senderProcess [] none
    let updater := returningEncodings [returnedEncoding true none]
    let returned := sampleProducer.returnedParameters sampleLibrary updater process
    ¬ ((∀ index ∈ writeBackIndexes 0 (returned.wrappedValue.wrappedEncodings.getD []),
          index < (sampleProducer.oldParameters sampleLibrary process).encodings.length) ∧
        ∃ written, sampleProducer.Sets sampleLibrary updater process written ∧
          (sampleProducer.oldParameters sampleLibrary process).Untouched
            returned.returnedEncodings.length written) := by
  rintro process updater returned ⟨bounded, -⟩
  have first := bounded 0 (List.mem_singleton.mpr rfl)
  cases first

end MediasoupClientSwift
