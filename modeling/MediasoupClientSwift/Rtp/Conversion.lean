import MediasoupClientSwift.Library.WriteBack
import MediasoupClientSwift.Rtp.Parameters

/-!
Owns the conversions between the representations of the sender parameters and
the write-back loop of `updateRTPParameters:`, which is undefined where it
indexes past the native encodings or casts a size that is no `int`. The results
say when the loop is defined and that it writes each encoding at its own index.
-/

namespace MediasoupClientSwift

open Library

/-! ### Native to Objective-C -/

/-- `initWithValue:`. -/
def RTPEncodingParameters.initWithValue (value : Webrtc.RtpEncodingParameters) :
    RTPEncodingParameters where
  isActive := value.active
  minBitrateBps := value.minBitrateBps.map NSNumber.numberWithInt
  maxBitrateBps := value.maxBitrateBps.map NSNumber.numberWithInt
  maxFramerate := value.maxFramerate.map NSNumber.double
  scaleResolutionDownBy := value.scaleResolutionDownBy.map NSNumber.double
  scaleResolutionDownTo :=
    match value.scaleResolutionDownTo with
    | some resolution => ⟨CGFloat.ofInt32 resolution.width, CGFloat.ofInt32 resolution.height⟩
    | none => CGSize.zero
  scalabilityMode := value.scalabilityMode.bind stringWithUTF8String
  numTemporalLayers := value.numTemporalLayers.map NSNumber.numberWithInt
  bitratePriority := value.bitratePriority
  adaptiveAudioPacketTime := value.adaptivePtime

/-- The `switch` of `initWithEncodings:degradationPreference:`. Its cases have no
`break`, so each falls through to the last assignment. -/
def wrappedDegradationPreferenceAfterSwitch :
    Webrtc.DegradationPreference → WrappedDegradationPreference
  | .disabled => .balanced
  | .maintainFramerate => .balanced
  | .maintainResolution => .balanced
  | .balanced => .balanced

/-- `initWithEncodings:degradationPreference:`. -/
def WrappedRTPParameters.initWithEncodings (encodings : List Webrtc.RtpEncodingParameters)
    (degradationPreference : Option Webrtc.DegradationPreference) : WrappedRTPParameters where
  wrappedDegradationPreference :=
    match degradationPreference with
    | some preference => wrappedDegradationPreferenceAfterSwitch preference
    | none => .none
  wrappedEncodings := some (encodings.map RTPEncodingParameters.initWithValue)

/-- `-[WrappedRTPParameters degradationPreference]`. -/
def WrappedRTPParameters.degradationPreference (parameters : WrappedRTPParameters) :
    Option Webrtc.DegradationPreference :=
  match parameters.wrappedDegradationPreference with
  | .none => none
  | .disabled => some .disabled
  | .maintainFramerate => some .maintainFramerate
  | .maintainResolution => some .maintainResolution
  | .balanced => some .balanced

/-! ### Objective-C to Swift and back -/

namespace RTPParameters

def DegradationPreference.wrappedValue : DegradationPreference → WrappedDegradationPreference
  | .disabled => .disabled
  | .maintainFramerate => .maintainFramerate
  | .maintainResolution => .maintainResolution
  | .balanced => .balanced

/-- `init?(from: WrappedDegradationPreference)`. -/
def DegradationPreference.initFrom : WrappedDegradationPreference → Option DegradationPreference
  | .none => none
  | .disabled => some .disabled
  | .maintainFramerate => some .maintainFramerate
  | .maintainResolution => some .maintainResolution
  | .balanced => some .balanced

def Resolution.cgSizeValue (resolution : Resolution) : CGSize :=
  ⟨CGFloat.ofInt64 resolution.width, CGFloat.ofInt64 resolution.height⟩

/-- `init(from: CGSize)`. -/
def Resolution.initFrom (cgSize : CGSize) : Resolution where
  width := cgSize.width.toInt64
  height := cgSize.height.toInt64

def RTPEncodingParameters.wrappedValue (parameters : RTPEncodingParameters) :
    MediasoupClientSwift.RTPEncodingParameters where
  isActive := parameters.isActive
  minBitrateBps := parameters.minBitrateBps.map NSNumber.integer
  maxBitrateBps := parameters.maxBitrateBps.map NSNumber.integer
  maxFramerate := parameters.maxFramerate.map NSNumber.double
  adaptiveAudioPacketTime := parameters.adaptiveAudioPacketTime
  bitratePriority := parameters.bitratePriority
  numTemporalLayers := parameters.numTemporalLayers.map NSNumber.integer
  scaleResolutionDownTo :=
    (parameters.scaleResolutionDownTo.map Resolution.cgSizeValue).getD CGSize.zero
  scalabilityMode := parameters.scalabilityMode
  scaleResolutionDownBy := parameters.scaleResolutionDownBy.map NSNumber.double

/-- `init(from: Mediasoup_Private.RTPEncodingParameters)`. -/
def RTPEncodingParameters.initFrom (value : MediasoupClientSwift.RTPEncodingParameters) :
    RTPEncodingParameters where
  isActive := value.isActive
  minBitrateBps := value.minBitrateBps.map NSNumber.integerValue
  maxBitrateBps := value.maxBitrateBps.map NSNumber.integerValue
  maxFramerate := value.maxFramerate.map NSNumber.doubleValue
  adaptiveAudioPacketTime := value.adaptiveAudioPacketTime
  bitratePriority := value.bitratePriority
  numTemporalLayers := value.numTemporalLayers.map NSNumber.integerValue
  scaleResolutionDownTo :=
    if value.scaleResolutionDownTo = CGSize.zero then none
    else some (Resolution.initFrom value.scaleResolutionDownTo)
  scalabilityMode := value.scalabilityMode
  scaleResolutionDownBy := value.scaleResolutionDownBy.map NSNumber.doubleValue

def wrappedValue (parameters : RTPParameters) : WrappedRTPParameters where
  wrappedDegradationPreference :=
    (parameters.degradationPreference.map DegradationPreference.wrappedValue).getD .none
  wrappedEncodings := parameters.encodings.map (List.map RTPEncodingParameters.wrappedValue)

/-- `init(from: WrappedRTPParameters)`. -/
def initFrom (value : WrappedRTPParameters) : RTPParameters where
  degradationPreference := DegradationPreference.initFrom value.wrappedDegradationPreference
  encodings := value.wrappedEncodings.map (List.map RTPEncodingParameters.initFrom)

end RTPParameters

/-! ### The write-back loop -/

/-- The loop body of `updateRTPParameters:` on one native encoding; `none` where
a `static_cast<int>` is undefined. -/
def updatedNativeEncoding (encoding : Webrtc.RtpEncodingParameters)
    (updatedEncoding : RTPEncodingParameters) : Option Webrtc.RtpEncodingParameters := do
  let width ← updatedEncoding.scaleResolutionDownTo.width.toInt32
  let height ← updatedEncoding.scaleResolutionDownTo.height.toInt32
  let resolution : Webrtc.Resolution := { width := width, height := height }
  pure { encoding with
    minBitrateBps := updatedEncoding.minBitrateBps.map NSNumber.intValue
    maxBitrateBps := updatedEncoding.maxBitrateBps.map NSNumber.intValue
    maxFramerate := updatedEncoding.maxFramerate.map NSNumber.doubleValue
    scaleResolutionDownBy := updatedEncoding.scaleResolutionDownBy.map NSNumber.doubleValue
    scaleResolutionDownTo := if resolution.pixelCount > 0 then some resolution else none
    scalabilityMode := updatedEncoding.scalabilityMode.map stdString
    numTemporalLayers := updatedEncoding.numTemporalLayers.map NSNumber.intValue
    bitratePriority := updatedEncoding.bitratePriority
    adaptivePtime := updatedEncoding.adaptiveAudioPacketTime }

/-- The `for` loop from index `i` on, over the encodings the updater returned;
`none` where it indexes past the end of the native vector. -/
def updateNativeEncodings : Nat → List RTPEncodingParameters →
    List Webrtc.RtpEncodingParameters → Option (List Webrtc.RtpEncodingParameters)
  | _, [], encodings => some encodings
  | i, updatedEncoding :: rest, encodings => do
      let encoding ← encodings[i]?
      let written ← updatedNativeEncoding encoding updatedEncoding
      updateNativeEncodings (i + 1) rest (encodings.set i written)

/-- The parameters `updateRTPParameters:` hands to `SetParameters`. -/
def updatedNativeParameters (parameters : Webrtc.RtpParameters)
    (wrappedNewParameters : WrappedRTPParameters) : Option Webrtc.RtpParameters := do
  let encodings ← updateNativeEncodings 0 (wrappedNewParameters.wrappedEncodings.getD [])
    parameters.encodings
  pure { parameters with
    degradationPreference := wrappedNewParameters.degradationPreference
    encodings := encodings }

/-- A size both of whose sides are representable as `int`. -/
def CGSize.FitsInt32 (size : CGSize) : Prop := size.width.FitsInt32 ∧ size.height.FitsInt32

instance (size : CGSize) : Decidable size.FitsInt32 := inferInstanceAs (Decidable (_ ∧ _))

private theorem isSome_updatedNativeEncoding_iff (encoding : Webrtc.RtpEncodingParameters)
    (updatedEncoding : RTPEncodingParameters) :
    (updatedNativeEncoding encoding updatedEncoding).isSome ↔
      updatedEncoding.scaleResolutionDownTo.FitsInt32 := by
  unfold CGSize.FitsInt32
  rw [← CGFloat.isSome_toInt32_iff, ← CGFloat.isSome_toInt32_iff]
  unfold updatedNativeEncoding
  cases updatedEncoding.scaleResolutionDownTo.width.toInt32 <;>
    cases updatedEncoding.scaleResolutionDownTo.height.toInt32 <;> simp

private theorem updateNativeEncodings_eq_writeBack (i : Nat) (updated : List RTPEncodingParameters)
    (encodings : List Webrtc.RtpEncodingParameters) :
    updateNativeEncodings i updated encodings =
      writeBack updatedNativeEncoding i updated encodings := by
  induction updated generalizing i encodings with
  | nil => rfl
  | cons head rest inductionHypothesis =>
      simp only [updateNativeEncodings, writeBack, inductionHypothesis]

theorem updatedNativeParameters_eq_some_iff {parameters written : Webrtc.RtpParameters}
    {wrapped : WrappedRTPParameters} :
    updatedNativeParameters parameters wrapped = some written ↔
      ∃ encodings,
        writeBack updatedNativeEncoding 0 (wrapped.wrappedEncodings.getD []) parameters.encodings =
          some encodings ∧
        written = { parameters with
                      degradationPreference := wrapped.degradationPreference
                      encodings := encodings } := by
  rw [← updateNativeEncodings_eq_writeBack, updatedNativeParameters, Option.bind_eq_bind,
    Option.bind_eq_some_iff]
  constructor
  · rintro ⟨encodings, defined, same⟩
    exact ⟨encodings, defined, (Option.some.inj same).symm⟩
  · rintro ⟨encodings, defined, rfl⟩
    exact ⟨encodings, defined, rfl⟩

/-- The updater's result can be written back to these native parameters. -/
structure WrappedRTPParameters.Writable (wrapped : WrappedRTPParameters)
    (parameters : Webrtc.RtpParameters) : Prop where
  bounded : (wrapped.wrappedEncodings.getD []).length ≤ parameters.encodings.length
  sizes : ∀ encoding ∈ wrapped.wrappedEncodings.getD [], encoding.scaleResolutionDownTo.FitsInt32

theorem isSome_updatedNativeParameters_iff (parameters : Webrtc.RtpParameters)
    (wrapped : WrappedRTPParameters) :
    (updatedNativeParameters parameters wrapped).isSome ↔ wrapped.Writable parameters := by
  have loop := isSome_writeBack_iff isSome_updatedNativeEncoding_iff
    (wrapped.wrappedEncodings.getD []) parameters.encodings
  rw [Option.isSome_iff_exists] at loop ⊢
  constructor
  · rintro ⟨written, defined⟩
    obtain ⟨encodings, looped, -⟩ := updatedNativeParameters_eq_some_iff.mp defined
    obtain ⟨bounded, sizes⟩ := loop.mp ⟨encodings, looped⟩
    exact { bounded := bounded, sizes := sizes }
  · intro writable
    obtain ⟨encodings, looped⟩ := loop.mpr ⟨writable.bounded, writable.sizes⟩
    exact ⟨_, updatedNativeParameters_eq_some_iff.mpr ⟨encodings, looped, rfl⟩⟩

/-- The write-back keeps the transaction id that `GetParameters` issued. -/
theorem transactionId_of_updatedNativeParameters {parameters written : Webrtc.RtpParameters}
    {wrapped : WrappedRTPParameters}
    (defined : updatedNativeParameters parameters wrapped = some written) :
    written.transactionId = parameters.transactionId := by
  obtain ⟨encodings, -, rfl⟩ := updatedNativeParameters_eq_some_iff.mp defined
  rfl

end MediasoupClientSwift
