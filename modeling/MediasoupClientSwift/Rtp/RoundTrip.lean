import MediasoupClientSwift.Rtp.Written

/-!
Owns the conversions of the sender parameters there and back: what was read from
the native structs, passed through the Swift ones unchanged, and is written back.
The main result says for which native parameters nothing changes.
-/

namespace MediasoupClientSwift

open Library

/-- The sides are positive and their product is an `int`. -/
structure Webrtc.Resolution.Sized (resolution : Webrtc.Resolution) : Prop where
  width : 0 < resolution.width.toInt
  height : 0 < resolution.height.toInt
  product : resolution.width.toInt * resolution.height.toInt < 2 ^ 31

private theorem pixelCount_pos_of_sized {resolution : Webrtc.Resolution}
    (sized : resolution.Sized) :
    resolution.pixelCount > 0 := by
  have positive := Int.mul_pos sized.width sized.height
  have product := Int.bmod_eq_of_le (n := resolution.width.toInt * resolution.height.toInt)
    (m := 2 ^ 32) (by omega) (by have := sized.product; omega)
  apply Int32.lt_iff_toInt_lt.mpr
  rw [Webrtc.Resolution.pixelCount, Int32.toInt_mul, product]
  exact positive

/-- The resolution of an encoding that an updater gets and returns is written
back as it was. -/
theorem nativeResolution_of_sized {encoding : Webrtc.RtpEncodingParameters}
    (sized : ∀ resolution ∈ encoding.scaleResolutionDownTo, resolution.Sized) :
    nativeResolution (RTPParameters.RTPEncodingParameters.initFrom
        (RTPEncodingParameters.initWithValue encoding)).scaleResolutionDownTo =
      some encoding.scaleResolutionDownTo := by
  unfold RTPParameters.RTPEncodingParameters.initFrom RTPEncodingParameters.initWithValue
  cases native : encoding.scaleResolutionDownTo with
  | none => rfl
  | some resolution =>
      have positive := sized resolution native
      have nonzero : (⟨CGFloat.ofInt32 resolution.width, CGFloat.ofInt32 resolution.height⟩ : CGSize) ≠
          CGSize.zero := by
        intro same
        have zero : roundToDouble resolution.width.toInt = 0 :=
          congrArg (fun size => size.width.value) same
        rw [roundToDouble_of_inInt32Range (inInt32Range_toInt _)] at zero
        have width := positive.width
        omega
      simp only [if_neg nonzero, nativeResolution_eq_some_iff, RTPParameters.Resolution.initFrom,
        CGFloat.toInt64_ofInt32, Int32.toInt_toInt64]
      refine ⟨resolution.width, resolution.height, rfl, rfl, ?_⟩
      rw [if_pos (pixelCount_pos_of_sized positive)]

/-- An encoding that an updater gets and returns is written back as it was,
except that its scalability mode went through a text. -/
theorem updatedNativeEncoding_of_read {encoding : Webrtc.RtpEncodingParameters}
    (sized : ∀ resolution ∈ encoding.scaleResolutionDownTo, resolution.Sized) :
    updatedNativeEncoding encoding (RTPParameters.RTPEncodingParameters.initFrom
        (RTPEncodingParameters.initWithValue encoding)).wrappedValue =
      some { encoding with
        scalabilityMode := (encoding.scalabilityMode.bind stringWithUTF8String).map stdString } := by
  have integers (number : Option Int32) :
      ((number.map NSNumber.numberWithInt).map NSNumber.integerValue).map Int64.toInt32 =
        number := by
    cases number with
    | none => rfl
    | some value => exact congrArg some (Int32.toInt32_toInt64 value)
  have doubles (number : Option Double) :
      (number.map NSNumber.double).map NSNumber.doubleValue = number := by
    cases number <;> rfl
  rw [updatedNativeEncoding_wrappedValue, nativeResolution_of_sized sized, Option.map_some]
  unfold RTPParameters.RTPEncodingParameters.initFrom RTPEncodingParameters.initWithValue
  simp only [integers, doubles]

private theorem updatedNativeEncoding_of_read_iff {encoding : Webrtc.RtpEncodingParameters}
    (sized : ∀ resolution ∈ encoding.scaleResolutionDownTo, resolution.Sized) :
    updatedNativeEncoding encoding (RTPParameters.RTPEncodingParameters.initFrom
        (RTPEncodingParameters.initWithValue encoding)).wrappedValue = some encoding ↔
      ∀ mode ∈ encoding.scalabilityMode, IsPlainText mode := by
  rw [updatedNativeEncoding_of_read sized, Option.some.injEq]
  have modes : { encoding with
        scalabilityMode := (encoding.scalabilityMode.bind stringWithUTF8String).map stdString } =
      encoding ↔ (encoding.scalabilityMode.bind stringWithUTF8String).map stdString =
        encoding.scalabilityMode :=
    ⟨fun same => congrArg Webrtc.RtpEncodingParameters.scalabilityMode same,
      fun same => by rw [same]⟩
  rw [modes]
  cases encoding.scalabilityMode with
  | none => simp
  | some mode =>
      rw [Option.bind_some, map_stdString_stringWithUTF8String_iff]
      simp

/-- Whatever preference was read, the updater gets `balanced`. -/
theorem degradationPreference_of_read (encodings : List Webrtc.RtpEncodingParameters)
    (preference : Option Webrtc.DegradationPreference) :
    (RTPParameters.initFrom
        (WrappedRTPParameters.initWithEncodings encodings preference)).wrappedValue.degradationPreference =
      preference.map fun _ => .balanced := by
  cases preference with
  | none => rfl
  | some preference => cases preference <;> rfl

/-- The parameters an updater gets and returns are written back as they were
exactly when the preference is absent or balanced and the modes are texts. -/
theorem updatedNativeParameters_of_read_iff {parameters : Webrtc.RtpParameters}
    (sized : ∀ encoding ∈ parameters.encodings,
      ∀ resolution ∈ encoding.scaleResolutionDownTo, resolution.Sized) :
    updatedNativeParameters parameters (RTPParameters.initFrom
        (WrappedRTPParameters.initWithEncodings parameters.encodings
          parameters.degradationPreference)).wrappedValue = some parameters ↔
      (∀ preference ∈ parameters.degradationPreference, preference = .balanced) ∧
        ∀ encoding ∈ parameters.encodings, ∀ mode ∈ encoding.scalabilityMode, IsPlainText mode := by
  let read (encoding : Webrtc.RtpEncodingParameters) : RTPEncodingParameters :=
    (RTPParameters.RTPEncodingParameters.initFrom
      (RTPEncodingParameters.initWithValue encoding)).wrappedValue
  have updates : (RTPParameters.initFrom (WrappedRTPParameters.initWithEncodings
      parameters.encodings parameters.degradationPreference)).wrappedValue.wrappedEncodings.getD [] =
        parameters.encodings.map read := by
    simp only [RTPParameters.wrappedValue, RTPParameters.initFrom,
      WrappedRTPParameters.initWithEncodings, Option.map_some, Option.getD_some, List.map_map]
    rfl
  have preferences : parameters.degradationPreference.map (fun _ => .balanced) =
      parameters.degradationPreference ↔
        ∀ preference ∈ parameters.degradationPreference, preference = .balanced := by
    cases parameters.degradationPreference with
    | none => simp
    | some preference => simp [eq_comm]
  have encodings : writeBack updatedNativeEncoding 0 (parameters.encodings.map read)
      parameters.encodings = some parameters.encodings ↔
        ∀ encoding ∈ parameters.encodings, ∀ mode ∈ encoding.scalabilityMode, IsPlainText mode :=
    (writeBack_map_eq_self_iff read parameters.encodings).trans
      (forall₂_congr fun encoding member => updatedNativeEncoding_of_read_iff (sized encoding member))
  rw [updatedNativeParameters_eq_some_iff, updates, degradationPreference_of_read, ← preferences,
    ← encodings]
  constructor
  · rintro ⟨written, defined, same⟩
    have sameEncodings := congrArg Webrtc.RtpParameters.encodings same
    have samePreference := congrArg Webrtc.RtpParameters.degradationPreference same
    dsimp only at sameEncodings samePreference
    subst sameEncodings
    exact ⟨samePreference.symm, defined⟩
  · rintro ⟨samePreference, defined⟩
    exact ⟨parameters.encodings, defined, by rw [samePreference]⟩

end MediasoupClientSwift
