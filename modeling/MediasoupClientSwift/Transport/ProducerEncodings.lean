import MediasoupClientSwift.Transport.Factories
import Mathlib.Data.List.Forall2

/-!
Owns what `createProducer` hands to the native `Produce`: which fields of the
encodings an application gives it reach the native ones.
-/

namespace MediasoupClientSwift

open Library

variable {World : Type} (library : NativeLibrary World)

namespace SendTransportWrapper

/-- The block of `createProducerForTrack:` up to the native call: the transport
and the arguments that `Produce` gets. -/
def argumentsForProduce (self : Address) (mediaTrack : MediaStreamTrack) (texts : ProducerTexts) :
    ObjCpp (Process World) (Handle × ProduceArguments) := do
  let converted ← throwing (texts.arguments library.parse mediaTrack)
  let transport ← TransportWrapper.transport self
  pure (transport, converted)

/-- The whole method hands over these arguments. -/
theorem createProducerForTrack_eq (self : Address) (mediaTrack : MediaStreamTrack)
    (texts : ProducerTexts) :
    createProducerForTrack library self mediaTrack texts =
      (newListenerAdapter >>= fun listenerAdapter =>
        mediasoupTryWithResult
          (argumentsForProduce library self mediaTrack texts >>= fun handed =>
            callNative (library.produce handed.1 listenerAdapter handed.2) >>= fun producer =>
              ProducerWrapper.initWithProducer producer mediaTrack listenerAdapter >>=
                fun wrapper => pure (some wrapper))
          (some (deleteListenerAdapter listenerAdapter))) := by
  unfold createProducerForTrack createChild createChildBlock argumentsForProduce
  simp only [Program.bind_assoc]
  rfl

/-- The method reaches `Produce` with these arguments. -/
def Hands (self : Address) (mediaTrack : MediaStreamTrack) (texts : ProducerTexts)
    (process : Process World) (arguments : ProduceArguments) : Prop :=
  ∃ transport reached, argumentsForProduce library self mediaTrack texts process =
    (.ok (transport, arguments), reached)

variable {library}

/-- The vector that is handed over has one encoding for each given one. -/
theorem encodings_of_hands {self : Address} {mediaTrack : MediaStreamTrack}
    {texts : ProducerTexts} {process : Process World} {arguments : ProduceArguments}
    (hands : Hands library self mediaTrack texts process arguments) :
    arguments.encodings = (texts.encodings.getD []).map (nativeEncoding texts.scalabilityMode) := by
  obtain ⟨transport, reached, handed⟩ := hands
  obtain ⟨converted, middle, converts, later⟩ := Program.bind_eq_ok_iff.mp handed
  obtain ⟨found, last, -, same⟩ := Program.bind_eq_ok_iff.mp later
  cases same
  have given : texts.arguments library.parse mediaTrack = .ok arguments := by
    cases outcome : texts.arguments library.parse mediaTrack with
    | error raised =>
        rw [outcome] at converts
        cases converts
    | ok value =>
        rw [outcome] at converts
        cases converts
        rfl
  unfold ProducerTexts.arguments at given
  obtain ⟨codecOptions, -, given⟩ := bind_eq_ok_iff.mp given
  obtain ⟨codec, -, given⟩ := bind_eq_ok_iff.mp given
  obtain ⟨appData, -, given⟩ := bind_eq_ok_iff.mp given
  cases given
  rfl

end SendTransportWrapper

/-! ### What of an encoding is carried -/

namespace RTCRtpEncodingParameters

/-- The integer settings hold integers that are `int`s. -/
structure InRange (encoding : RTCRtpEncodingParameters) : Prop where
  maxBitrateBps : ∀ number ∈ encoding.maxBitrateBps,
    ∃ value, number.HoldsInteger value ∧ InInt32Range value
  minBitrateBps : ∀ number ∈ encoding.minBitrateBps,
    ∃ value, number.HoldsInteger value ∧ InInt32Range value
  numTemporalLayers : ∀ number ∈ encoding.numTemporalLayers,
    ∃ value, number.HoldsInteger value ∧ InInt32Range value

/-- The settings the loop does not read are the native defaults. -/
structure UnreadDefault (encoding : RTCRtpEncodingParameters) : Prop where
  rid : encoding.rid.getD "" = ""
  bitratePriority : encoding.bitratePriority = Double.ofInt 1
  networkPriority : encoding.networkPriority = .kLow
  adaptiveAudioPacketTime : encoding.adaptiveAudioPacketTime = false

end RTCRtpEncodingParameters

/-- The native encoding has every settable field of the given one, absent where
it is nil, and the scalability mode of the call. -/
structure EncodingCarried (scalabilityMode : Option String) (encoding : RTCRtpEncodingParameters)
    (native : Webrtc.RtpEncodingParameters) : Prop where
  rid : native.rid = utf8Bytes (encoding.rid.getD "")
  isActive : native.active = encoding.isActive
  maxBitrateBps : NSNumber.HeldBy encoding.maxBitrateBps native.maxBitrateBps
  minBitrateBps : NSNumber.HeldBy encoding.minBitrateBps native.minBitrateBps
  maxFramerate : native.maxFramerate = encoding.maxFramerate.map NSNumber.doubleValue
  numTemporalLayers : NSNumber.HeldBy encoding.numTemporalLayers native.numTemporalLayers
  scaleResolutionDownBy :
    native.scaleResolutionDownBy = encoding.scaleResolutionDownBy.map NSNumber.doubleValue
  bitratePriority : native.bitratePriority = encoding.bitratePriority
  networkPriority : native.networkPriority = encoding.networkPriority
  adaptiveAudioPacketTime : native.adaptivePtime = encoding.adaptiveAudioPacketTime
  scalabilityMode : native.scalabilityMode = scalabilityMode.map utf8Bytes

/-- The integers of an encoding that are in range arrive. -/
theorem heldBy_of_inRange {number : Option NSNumber}
    (inRange : ∀ given ∈ number, ∃ value, given.HoldsInteger value ∧ InInt32Range value) :
    NSNumber.HeldBy number (number.map NSNumber.intValue) := by
  apply (NSNumber.heldBy_map_intValue_iff number).mpr
  intro given present value holds
  obtain ⟨other, holdsOther, inside⟩ := inRange given present
  rw [holds.unique holdsOther]
  exact inside

private theorem encodingCarried_iff {scalabilityMode : Option String}
    {encoding : RTCRtpEncodingParameters} (inRange : encoding.InRange) :
    EncodingCarried scalabilityMode encoding (nativeEncoding scalabilityMode encoding) ↔
      encoding.UnreadDefault ∧ ∀ mode ∈ scalabilityMode, 0 ∉ utf8Bytes mode := by
  have noRid : utf8Bytes "" = [] := rfl
  constructor
  · intro carried
    have rid : utf8Bytes (encoding.rid.getD "") = utf8Bytes "" := carried.rid.symm.trans noRid.symm
    refine ⟨?_, (map_stdString_eq_iff scalabilityMode).mp carried.scalabilityMode⟩
    exact
      { rid := utf8Bytes_inj.mp rid
        bitratePriority := carried.bitratePriority.symm
        networkPriority := carried.networkPriority.symm
        adaptiveAudioPacketTime := carried.adaptiveAudioPacketTime.symm }
  · rintro ⟨unread, nulFree⟩
    exact
      { rid := by rw [unread.rid, noRid]; rfl
        isActive := rfl
        maxBitrateBps := heldBy_of_inRange inRange.maxBitrateBps
        minBitrateBps := heldBy_of_inRange inRange.minBitrateBps
        maxFramerate := rfl
        numTemporalLayers := heldBy_of_inRange inRange.numTemporalLayers
        scaleResolutionDownBy := rfl
        bitratePriority := unread.bitratePriority.symm
        networkPriority := unread.networkPriority.symm
        adaptiveAudioPacketTime := unread.adaptiveAudioPacketTime.symm
        scalabilityMode := (map_stdString_eq_iff scalabilityMode).mpr nulFree }

/-- The list that reaches `Produce` carries every encoding whole exactly when the
settings the loop does not read have their native defaults and the mode has no
NUL; and one encoding with a mode is the list of that encoding with that mode. -/
theorem encodings_carried_iff (self : Address) (mediaTrack : MediaStreamTrack)
    (texts : ProducerTexts) (process : Process World) (arguments : ProduceArguments)
    (inRange : ∀ encoding ∈ texts.encodings.getD [], encoding.InRange)
    (hands : SendTransportWrapper.Hands library self mediaTrack texts process arguments) :
    (List.Forall₂ (EncodingCarried texts.scalabilityMode) (texts.encodings.getD [])
        arguments.encodings ↔
      ∀ encoding ∈ texts.encodings.getD [],
        encoding.UnreadDefault ∧ ∀ mode ∈ texts.scalabilityMode, 0 ∉ utf8Bytes mode) ∧
      ∀ (facade : TransportFacade) (encoding : RTCRtpEncodingParameters) (scalabilityMode : String)
        (codecOptions codec appData : Option String),
        SendTransport.createScalableProducer library facade mediaTrack encoding scalabilityMode
            codecOptions codec appData =
          SendTransport.createProducerWith mediaTrack
            (SendTransportWrapper.createProducerForTrack library facade.transport mediaTrack
              { encodings := some [encoding], scalabilityMode := some scalabilityMode,
                codecOptions := codecOptions, codec := codec, appData := appData }) := by
  constructor
  · rw [SendTransportWrapper.encodings_of_hands hands, List.forall₂_map_right_iff,
      List.forall₂_same]
    exact forall₂_congr fun encoding member => encodingCarried_iff (inRange encoding member)
  · intro facade encoding scalabilityMode codecOptions codec appData
    rfl

def givenEncoding (rid : Option String) : RTCRtpEncodingParameters where
  rid := rid
  isActive := true
  maxBitrateBps := some (.integer 500000)
  minBitrateBps := none
  maxFramerate := none
  numTemporalLayers := some (.unsigned 2)
  scaleResolutionDownBy := none
  bitratePriority := Double.ofInt 1
  networkPriority := .kLow
  adaptiveAudioPacketTime := false

private theorem inRange_givenEncoding (rid : Option String) : (givenEncoding rid).InRange := by
  constructor
  case maxBitrateBps =>
    intro number present
    obtain rfl := Option.some.inj present
    exact ⟨500000, by rfl, by decide⟩
  case minBitrateBps => exact fun number present => by cases present
  case numTemporalLayers =>
    intro number present
    obtain rfl := Option.some.inj present
    exact ⟨2, by rfl, by decide⟩

def sampleTrack : MediaStreamTrack := { hash := 9, kind := "video" }

def givenTexts (rid : Option String) : ProducerTexts where
  encodings := some [givenEncoding rid]
  scalabilityMode := some "L1T3"
  codecOptions := none
  codec := none
  appData := none

/-- The arguments they are converted to. -/
def givenArguments (rid : Option String) : ProduceArguments where
  track := 9
  encodings := [nativeEncoding (some "L1T3") (givenEncoding rid)]
  codecOptions := .object []
  codec := none
  appData := .object []

private theorem hands_givenArguments (rid : Option String) :
    SendTransportWrapper.Hands sampleLibrary 0 sampleTrack (givenTexts rid)
      (sampleProcess true false) (givenArguments rid) :=
  ⟨1, sampleProcess true false, rfl⟩

/-- One encoding without a rid. -/
theorem encodings_carried_iff_sample :
    (List.Forall₂ (EncodingCarried (some "L1T3")) [givenEncoding none]
        (givenArguments none).encodings ↔
      ∀ encoding ∈ [givenEncoding none],
        encoding.UnreadDefault ∧ ∀ mode ∈ some "L1T3", 0 ∉ utf8Bytes mode) ∧
      ∀ (facade : TransportFacade) (encoding : RTCRtpEncodingParameters) (scalabilityMode : String)
        (codecOptions codec appData : Option String),
        SendTransport.createScalableProducer sampleLibrary facade sampleTrack encoding
            scalabilityMode codecOptions codec appData =
          SendTransport.createProducerWith sampleTrack
            (SendTransportWrapper.createProducerForTrack sampleLibrary facade.transport sampleTrack
              { encodings := some [encoding], scalabilityMode := some scalabilityMode,
                codecOptions := codecOptions, codec := codec, appData := appData }) := by
  apply encodings_carried_iff sampleLibrary 0 sampleTrack (givenTexts none)
    (sampleProcess true false) (givenArguments none) _ (hands_givenArguments none)
  intro encoding member
  obtain rfl := List.mem_singleton.mp member
  exact inRange_givenEncoding none

/-- The rid of an encoding does not arrive. -/
theorem dropped_rid_counterexample :
    (∀ encoding ∈ (givenTexts (some "h")).encodings.getD [], encoding.InRange) ∧
      SendTransportWrapper.Hands sampleLibrary 0 sampleTrack (givenTexts (some "h"))
        (sampleProcess true false) (givenArguments (some "h")) ∧
      ¬ List.Forall₂ (EncodingCarried (some "L1T3")) ((givenTexts (some "h")).encodings.getD [])
        (givenArguments (some "h")).encodings := by
  refine ⟨?_, hands_givenArguments (some "h"), ?_⟩
  · intro encoding member
    obtain rfl := List.mem_singleton.mp member
    exact inRange_givenEncoding (some "h")
  · intro carried
    cases carried with
    | cons first rest =>
        have rid : ([] : Bytes) = utf8Bytes "h" := first.rid
        revert rid
        decide

end MediasoupClientSwift
