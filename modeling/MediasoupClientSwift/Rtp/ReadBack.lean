import MediasoupClientSwift.Library.WriteBackLaws
import MediasoupClientSwift.Rtp.Written

/-!
Owns what is read from native parameters that an update has written: when it is
what the updater returned, and that an update that returns at least as many
encodings as the one before it leaves nothing of it.
-/

namespace MediasoupClientSwift

open Library

/-! ### One encoding -/

/-- An encoding as an updater gets it. -/
def RTPParameters.RTPEncodingParameters.ofNative (encoding : Webrtc.RtpEncodingParameters) :
    RTPParameters.RTPEncodingParameters :=
  .initFrom (.initWithValue encoding)

private theorem narrowed_readsBack_iff (number : Option Int64) :
    ((number.map Int64.toInt32).map NSNumber.numberWithInt).map NSNumber.integerValue = number ↔
      ∀ value ∈ number, InInt32Range value.toInt := by
  cases number with
  | none => simp
  | some value =>
      have widened : value.toInt32.toInt64 = value ↔ InInt32Range value.toInt := by
        rw [← Int64.toInt_inj, Int32.toInt_toInt64, Int64.toInt_toInt32]
        exact bmod_eq_self_iff value.toInt
      simpa [NSNumber.numberWithInt, NSNumber.integerValue] using widened

private theorem mode_readsBack_iff (mode : Option String) :
    (mode.map stdString).bind stringWithUTF8String = mode ↔
      ∀ text ∈ mode, 0 ∉ utf8Bytes text := by
  cases mode with
  | none => simp
  | some text =>
      simp only [Option.map_some, Option.bind_some, Option.mem_def, Option.some.injEq, forall_eq']
      constructor
      · intro decoded
        unfold stringWithUTF8String at decoded
        rw [utf8Bytes_of_stringWithBytes decoded]
        exact nulFree_cString _
      · intro nulFree
        rw [(stdString_eq_utf8Bytes_iff text).mpr nulFree]
        exact stringWithUTF8String_utf8Bytes nulFree

/-- A resolution whose sides are not both zero is read as it is. -/
theorem readResolution_of_positive {resolution : Webrtc.Resolution}
    (positive : resolution.pixelCount > 0) :
    (⟨CGFloat.ofInt32 resolution.width, CGFloat.ofInt32 resolution.height⟩ : CGSize) ≠
      CGSize.zero := by
  intro same
  have zero : roundToDouble resolution.width.toInt = 0 :=
    congrArg (fun size => size.width.value) same
  rw [roundToDouble_of_inInt32Range (inInt32Range_toInt _)] at zero
  rw [pixelCount_pos_iff, zero, Int.zero_mul] at positive
  simp at positive

private theorem resolution_readsBack_iff {returned : Option RTPParameters.Resolution}
    {encoding : Webrtc.RtpEncodingParameters}
    (native : nativeResolution returned = some encoding.scaleResolutionDownTo) :
    (RTPParameters.RTPEncodingParameters.ofNative encoding).scaleResolutionDownTo = returned ↔
      ∀ resolution ∈ returned, resolution.Kept := by
  unfold RTPParameters.RTPEncodingParameters.ofNative RTPParameters.RTPEncodingParameters.initFrom
    RTPEncodingParameters.initWithValue
  cases returned with
  | none =>
      obtain absent := (Option.some.inj native).symm
      simp [absent]
  | some resolution =>
      obtain ⟨width, height, sameWidth, sameHeight, written⟩ :=
        (nativeResolution_eq_some_iff resolution _).mp native
      have keptIff : resolution.Kept ↔
          (⟨width, height⟩ : Webrtc.Resolution).pixelCount > 0 := by
        rw [pixelCount_pos_iff, sameWidth, sameHeight]
        constructor
        · exact fun kept => kept.product
        · intro positive
          exact
            { width := sameWidth ▸ inInt32Range_toInt width
              height := sameHeight ▸ inInt32Range_toInt height
              product := positive }
      simp only [Option.mem_def, Option.some.injEq, forall_eq', keptIff]
      by_cases positive : (⟨width, height⟩ : Webrtc.Resolution).pixelCount > 0
      · rw [if_pos positive] at written
        have width64 : width.toInt64 = resolution.width := by
          rw [← Int64.toInt_inj, Int32.toInt_toInt64, sameWidth]
        have height64 : height.toInt64 = resolution.height := by
          rw [← Int64.toInt_inj, Int32.toInt_toInt64, sameHeight]
        have nonzero := readResolution_of_positive positive
        simp only [written, if_neg nonzero, RTPParameters.Resolution.initFrom,
          CGFloat.toInt64_ofInt32, width64, height64, positive]
      · rw [if_neg positive] at written
        simp [written, positive]

/-- An encoding that was written reads back as it was returned exactly when the
native one could take it. -/
theorem encoding_readsBack_iff (encoding : Webrtc.RtpEncodingParameters)
    (returned : RTPParameters.RTPEncodingParameters) (written : Webrtc.RtpEncodingParameters)
    (defined : updatedNativeEncoding encoding returned.wrappedValue = some written) :
    RTPParameters.RTPEncodingParameters.ofNative written = returned ↔
      EncodingWritable encoding returned := by
  rw [updatedNativeEncoding_wrappedValue] at defined
  obtain ⟨native, resolution, same⟩ := Option.map_eq_some_iff.mp defined
  have held : nativeResolution returned.scaleResolutionDownTo =
      some written.scaleResolutionDownTo := by
    rw [← same]
    exact resolution
  subst same
  constructor
  · intro same
    constructor
    case isActive => exact congrArg RTPParameters.RTPEncodingParameters.isActive same
    case numbers =>
      exact
        { minBitrateBps := (narrowed_readsBack_iff _).mp
            (congrArg RTPParameters.RTPEncodingParameters.minBitrateBps same)
          maxBitrateBps := (narrowed_readsBack_iff _).mp
            (congrArg RTPParameters.RTPEncodingParameters.maxBitrateBps same)
          numTemporalLayers := (narrowed_readsBack_iff _).mp
            (congrArg RTPParameters.RTPEncodingParameters.numTemporalLayers same)
          scaleResolutionDownTo := (resolution_readsBack_iff held).mp
            (congrArg RTPParameters.RTPEncodingParameters.scaleResolutionDownTo same) }
    case scalabilityMode =>
      exact (mode_readsBack_iff _).mp
        (congrArg RTPParameters.RTPEncodingParameters.scalabilityMode same)
  · intro writable
    have minBitrateBps := (narrowed_readsBack_iff _).mpr writable.numbers.minBitrateBps
    have maxBitrateBps := (narrowed_readsBack_iff _).mpr writable.numbers.maxBitrateBps
    have numTemporalLayers := (narrowed_readsBack_iff _).mpr writable.numbers.numTemporalLayers
    have mode := (mode_readsBack_iff _).mpr writable.scalabilityMode
    have doubles (number : Option Double) :
        (number.map NSNumber.double).map NSNumber.doubleValue = number := by
      cases number <;> rfl
    have size := (resolution_readsBack_iff held).mpr writable.numbers.scaleResolutionDownTo
    unfold RTPParameters.RTPEncodingParameters.ofNative RTPParameters.RTPEncodingParameters.initFrom
      RTPEncodingParameters.initWithValue at size ⊢
    dsimp only at size ⊢
    simp only [size, doubles, minBitrateBps, maxBitrateBps, numTemporalLayers, mode,
      writable.isActive]

/-! ### Whole parameters -/

/-- What an update hands to its updater for these native parameters. -/
def RTPParameters.ofNative (parameters : Webrtc.RtpParameters) : RTPParameters :=
  .initFrom (.initWithEncodings parameters.encodings parameters.degradationPreference)

theorem RTPParameters.encodings_ofNative (parameters : Webrtc.RtpParameters) :
    (RTPParameters.ofNative parameters).encodings =
      some (parameters.encodings.map RTPEncodingParameters.ofNative) := by
  simp only [ofNative, initFrom, WrappedRTPParameters.initWithEncodings, Option.map_some,
    List.map_map]
  rfl

/-- Any preference is read as `balanced`. -/
theorem RTPParameters.degradationPreference_ofNative (parameters : Webrtc.RtpParameters) :
    (RTPParameters.ofNative parameters).degradationPreference =
      parameters.degradationPreference.map fun _ => .balanced := by
  unfold ofNative initFrom WrappedRTPParameters.initWithEncodings
  cases parameters.degradationPreference with
  | none => rfl
  | some preference => cases preference <;> rfl

theorem RTPParameters.eq_of_fields {first second : RTPParameters}
    (degradationPreference : first.degradationPreference = second.degradationPreference)
    (encodings : first.encodings = second.encodings) : first = second := by
  cases first
  cases second
  obtain rfl := degradationPreference
  obtain rfl := encodings
  rfl

/-- These native parameters can take all of what an updater returned, and give it
back. -/
structure RTPParameters.ReadsBack (parameters : Webrtc.RtpParameters) (returned : RTPParameters) :
    Prop where
  notNil : returned.encodings.isSome = true
  count : returned.returnedEncodings.length = parameters.encodings.length
  degradationPreference : ∀ preference ∈ returned.degradationPreference, preference = .balanced
  encodings : ∀ (k : Nat) (updated : RTPEncodingParameters)
    (encoding : Webrtc.RtpEncodingParameters), returned.returnedEncodings[k]? = some updated →
      parameters.encodings[k]? = some encoding → EncodingWritable encoding updated

/-- After an update, the parameters are read as its updater returned them exactly
when they could take all of it. -/
theorem parameters_readBack_iff {parameters written : Webrtc.RtpParameters}
    {returned : RTPParameters}
    (defined : updatedNativeParameters parameters returned.wrappedValue = some written) :
    RTPParameters.ofNative written = returned ↔ returned.ReadsBack parameters := by
  obtain ⟨encodings, loop, rfl⟩ := updatedNativeParameters_wrappedValue_eq_some_iff.mp defined
  have readBack := map_eq_of_writeBack_iff encoding_readsBack_iff loop
  have preference :
      ((returned.degradationPreference.map RTPParameters.DegradationPreference.native).map
        fun _ => RTPParameters.DegradationPreference.balanced) = returned.degradationPreference ↔
        ∀ preference ∈ returned.degradationPreference, preference = .balanced := by
    cases returned.degradationPreference with
    | none => simp
    | some preference => simp [eq_comm]
  constructor
  · intro same
    have sameEncodings := congrArg RTPParameters.encodings same
    have samePreference := congrArg RTPParameters.degradationPreference same
    rw [RTPParameters.encodings_ofNative] at sameEncodings
    rw [RTPParameters.degradationPreference_ofNative] at samePreference
    have returnedSame :
        encodings.map RTPParameters.RTPEncodingParameters.ofNative =
          returned.returnedEncodings := by
      rw [RTPParameters.returnedEncodings, ← sameEncodings]
      rfl
    obtain ⟨count, writable⟩ := readBack.mp returnedSame
    exact
      { notNil := by rw [← sameEncodings]; rfl
        count := count
        degradationPreference := preference.mp samePreference
        encodings := writable }
  · intro readsBack
    have returnedSame := readBack.mpr ⟨readsBack.count, readsBack.encodings⟩
    obtain ⟨list, present⟩ := Option.isSome_iff_exists.mp readsBack.notNil
    have sameEncodings : (RTPParameters.ofNative
        { parameters with
          degradationPreference :=
            returned.degradationPreference.map RTPParameters.DegradationPreference.native
          encodings := encodings }).encodings = returned.encodings := by
      rw [RTPParameters.encodings_ofNative, present]
      unfold RTPParameters.returnedEncodings at returnedSame
      rw [present] at returnedSame
      exact congrArg some returnedSame
    have samePreference := preference.mpr readsBack.degradationPreference
    rw [← RTPParameters.degradationPreference_ofNative
      { parameters with
        degradationPreference :=
          returned.degradationPreference.map RTPParameters.DegradationPreference.native
        encodings := encodings }] at samePreference
    exact RTPParameters.eq_of_fields samePreference sameEncodings

/-! ### One update after another -/

/-- The loop body keeps only fields that it never writes. -/
theorem overwrites_updatedNativeEncoding :
    Overwrites fun encoding (updated : RTPParameters.RTPEncodingParameters) =>
      updatedNativeEncoding encoding updated.wrappedValue := by
  intro encoding earlier written defined later
  simp only [updatedNativeEncoding_wrappedValue] at defined ⊢
  obtain ⟨native, -, rfl⟩ := Option.map_eq_some_iff.mp defined
  rfl

private theorem updatedNativeParameters_wrappedValue (parameters : Webrtc.RtpParameters)
    (returned : RTPParameters) :
    updatedNativeParameters parameters returned.wrappedValue =
      (writeBack (fun encoding updated => updatedNativeEncoding encoding updated.wrappedValue) 0
        returned.returnedEncodings parameters.encodings).map fun encodings =>
          { parameters with
            degradationPreference :=
              returned.degradationPreference.map RTPParameters.DegradationPreference.native
            encodings := encodings } := by
  apply Option.ext
  intro written
  rw [Option.map_eq_some_iff]
  exact updatedNativeParameters_wrappedValue_eq_some_iff.trans
    (exists_congr fun encodings => and_congr_right fun _ => eq_comm)

/-- An update that returns at least as many encodings as the one before it writes
what it would have written without that one. -/
theorem later_update_overwrites {parameters written : Webrtc.RtpParameters}
    {earlier later : RTPParameters}
    (defined : updatedNativeParameters parameters earlier.wrappedValue = some written)
    (reaches : earlier.returnedEncodings.length ≤ later.returnedEncodings.length) :
    updatedNativeParameters written later.wrappedValue =
      updatedNativeParameters parameters later.wrappedValue := by
  obtain ⟨encodings, loop, rfl⟩ := updatedNativeParameters_wrappedValue_eq_some_iff.mp defined
  rw [updatedNativeParameters_wrappedValue, updatedNativeParameters_wrappedValue]
  dsimp only
  rw [writeBack_overwrites overwrites_updatedNativeEncoding reaches loop]

/-- The transaction id goes through an update. -/
theorem updatedNativeParameters_withTransactionId (parameters : Webrtc.RtpParameters)
    (transactionId : Nat) (returned : RTPParameters) :
    updatedNativeParameters { parameters with transactionId := transactionId }
        returned.wrappedValue =
      (updatedNativeParameters parameters returned.wrappedValue).map fun written =>
        { written with transactionId := transactionId } := by
  rw [updatedNativeParameters_wrappedValue, updatedNativeParameters_wrappedValue, Option.map_map]
  rfl

end MediasoupClientSwift
