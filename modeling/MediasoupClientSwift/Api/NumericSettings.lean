import MediasoupClientSwift.Media.SenderParameters
import MediasoupClientSwift.Transport.ProducerEncodings

/-!
Owns the fate of the integer settings on their way to 32-bit native fields: in
the encodings an updater returns, in those given to `createProducer`, and in
`setMaxSpatialLayer`, the one call that checks its argument.
-/

namespace MediasoupClientSwift

open Library

variable {World : Type} (library : NativeLibrary World)

/-- The native encoding holds every integer of the given one. -/
structure IntegersHeld (encoding : RTCRtpEncodingParameters)
    (native : Webrtc.RtpEncodingParameters) : Prop where
  maxBitrateBps : NSNumber.HeldBy encoding.maxBitrateBps native.maxBitrateBps
  minBitrateBps : NSNumber.HeldBy encoding.minBitrateBps native.minBitrateBps
  numTemporalLayers : NSNumber.HeldBy encoding.numTemporalLayers native.numTemporalLayers

/-- Every integer of the encoding is an `int`. -/
structure RTCRtpEncodingParameters.IntegersFit (encoding : RTCRtpEncodingParameters) : Prop where
  maxBitrateBps : ∀ number ∈ encoding.maxBitrateBps,
    ∀ value, number.HoldsInteger value → InInt32Range value
  minBitrateBps : ∀ number ∈ encoding.minBitrateBps,
    ∀ value, number.HoldsInteger value → InInt32Range value
  numTemporalLayers : ∀ number ∈ encoding.numTemporalLayers,
    ∀ value, number.HoldsInteger value → InInt32Range value

private theorem integersHeld_iff (scalabilityMode : Option String)
    (encoding : RTCRtpEncodingParameters) :
    IntegersHeld encoding (nativeEncoding scalabilityMode encoding) ↔ encoding.IntegersFit := by
  constructor
  · intro held
    exact
      { maxBitrateBps := (NSNumber.heldBy_map_intValue_iff _).mp held.maxBitrateBps
        minBitrateBps := (NSNumber.heldBy_map_intValue_iff _).mp held.minBitrateBps
        numTemporalLayers := (NSNumber.heldBy_map_intValue_iff _).mp held.numTemporalLayers }
  · intro fit
    exact
      { maxBitrateBps := (NSNumber.heldBy_map_intValue_iff _).mpr fit.maxBitrateBps
        minBitrateBps := (NSNumber.heldBy_map_intValue_iff _).mpr fit.minBitrateBps
        numTemporalLayers := (NSNumber.heldBy_map_intValue_iff _).mpr fit.numTemporalLayers }

/-- The update reaches `SetParameters` with every integer the updater returned. -/
def Producer.SetsNumbers (self : Producer) (updater : ProducerWrapper.Updater World RTPParameters)
    (process : Process World) : Prop :=
  ∃ written, self.Sets library updater process written ∧
    AtReturned NumbersHeld (self.returnedParameters library updater process) written

/-- If `createProducer` reaches `Produce`, it does so with every integer it was
given. -/
def SendTransportWrapper.HandsNumbers (self : Address) (mediaTrack : MediaStreamTrack)
    (texts : ProducerTexts) (process : Process World) : Prop :=
  ∀ arguments, Hands library self mediaTrack texts process arguments →
    List.Forall₂ IntegersHeld (texts.encodings.getD []) arguments.encodings

/-- The call passes on the layer it was given, or throws before it passes any. -/
def Producer.PassesLayer (self : Producer) (layer : Int64) : Prop :=
  (∃ typedLayer : UInt8, (typedLayer.toNat : Int) = layer.toInt ∧
    self.setMaxSpatialLayer library layer =
      nonnullErrorCall (ProducerWrapper.setMaxSpatialLayer library self.producer typedLayer)) ∨
  ∃ error, self.setMaxSpatialLayer library layer = swiftThrow error

private theorem setsNumbers_iff (self : Producer)
    (updater : ProducerWrapper.Updater World RTPParameters) (process : Process World) :
    self.SetsNumbers library updater process ↔
      (self.returnedParameters library updater process).returnedEncodings.length ≤
          (self.oldParameters library process).encodings.length ∧
        ∀ encoding ∈ (self.returnedParameters library updater process).returnedEncodings,
          encoding.NumbersKept := by
  unfold Producer.SetsNumbers
  simp only [Producer.sets_iff]
  rw [atReturned_iff updatedNativeEncoding_numbersHeld_iff]
  exact and_congr_right forall_index_iff

private theorem handsNumbers_iff (self : Address) (mediaTrack : MediaStreamTrack)
    (texts : ProducerTexts) (process : Process World) :
    SendTransportWrapper.HandsNumbers library self mediaTrack texts process ↔
      ((∃ arguments, SendTransportWrapper.Hands library self mediaTrack texts process arguments) →
        ∀ encoding ∈ texts.encodings.getD [], encoding.IntegersFit) := by
  have held : ∀ arguments,
      SendTransportWrapper.Hands library self mediaTrack texts process arguments →
        (List.Forall₂ IntegersHeld (texts.encodings.getD []) arguments.encodings ↔
          ∀ encoding ∈ texts.encodings.getD [], encoding.IntegersFit) := by
    intro arguments hands
    rw [SendTransportWrapper.encodings_of_hands hands, List.forall₂_map_right_iff,
      List.forall₂_same]
    exact forall₂_congr fun encoding _ => integersHeld_iff texts.scalabilityMode encoding
  constructor
  · rintro all ⟨arguments, hands⟩
    exact (held arguments hands).mp (all arguments hands)
  · intro fit arguments hands
    exact (held arguments hands).mpr (fit ⟨arguments, hands⟩)

private theorem passesLayer (self : Producer) (layer : Int64) : self.PassesLayer library layer := by
  unfold Producer.PassesLayer Producer.setMaxSpatialLayer Producer.typedLayer
  by_cases inside : 0 ≤ layer.toInt ∧ layer.toInt < 256
  · rw [if_pos inside]
    refine Or.inl ⟨UInt8.ofNat layer.toInt.toNat, ?_, rfl⟩
    rw [UInt8.toNat_ofNat']
    omega
  · rw [if_neg inside]
    exact Or.inr ⟨_, rfl⟩

/-- The integer settings reach the native side as they are exactly when those an
updater returns are kept and those given to `createProducer` are `int`s, if the
call gets that far; a spatial layer always does or the call throws. -/
theorem numeric_settings_kept_iff (producer : Producer)
    (updater : ProducerWrapper.Updater World RTPParameters) (self : Address)
    (mediaTrack : MediaStreamTrack) (texts : ProducerTexts) (layer : Int64)
    (process : Process World) :
    (producer.SetsNumbers library updater process ↔
      (producer.returnedParameters library updater process).returnedEncodings.length ≤
          (producer.oldParameters library process).encodings.length ∧
        ∀ encoding ∈ (producer.returnedParameters library updater process).returnedEncodings,
          encoding.NumbersKept) ∧
    (SendTransportWrapper.HandsNumbers library self mediaTrack texts process ↔
      ((∃ arguments, SendTransportWrapper.Hands library self mediaTrack texts process arguments) →
        ∀ encoding ∈ texts.encodings.getD [], encoding.IntegersFit)) ∧
    producer.PassesLayer library layer :=
  ⟨setsNumbers_iff library producer updater process,
    handsNumbers_iff library self mediaTrack texts process,
    passesLayer library producer layer⟩

def wideUpdater : ProducerWrapper.Updater SampleWorld RTPParameters :=
  returningEncodings [{ returnedEncoding true none with maxBitrateBps := some 4294967297 }]

/-- A maximum bitrate of 2^32 + 1 is written as 1, and a resolution of 65536 by
65536 is discarded. -/
theorem wrapped_numbers_counterexample :
    ¬ sampleProducer.SetsNumbers sampleLibrary wideUpdater (senderProcess [{}] none) ∧
      ¬ sampleProducer.SetsNumbers sampleLibrary
        (returningEncodings [returnedEncoding true (some ⟨65536, 65536⟩)]) (senderProcess [{}] none) := by
  constructor
  · intro held
    have kept := ((setsNumbers_iff sampleLibrary sampleProducer _ _).mp held).2 _
      (List.mem_singleton.mpr rfl)
    have inRange := kept.maxBitrateBps 4294967297 rfl
    revert inRange
    decide
  · intro held
    have kept := ((setsNumbers_iff sampleLibrary sampleProducer _ _).mp held).2 _
      (List.mem_singleton.mpr rfl)
    have product := (kept.scaleResolutionDownTo ⟨65536, 65536⟩ rfl).product
    revert product
    decide

end MediasoupClientSwift
