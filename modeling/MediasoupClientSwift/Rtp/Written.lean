import MediasoupClientSwift.Rtp.Conversion

/-!
Owns what an update writes: the way of an encoding from the Swift struct to the
native one, which of its fields and integers arrive, and what the write-back
keeps of the native parameters. The results are equivalences over any encodings,
for the statements about whole updates.
-/

namespace MediasoupClientSwift

open Library

/-! ### From Swift to the native encoding -/

/-- The native resolution written for the one an updater returned; undefined
(`none`) where a side is no `int`. -/
def nativeResolution (returned : Option RTPParameters.Resolution) :
    Option (Option Webrtc.Resolution) :=
  match returned with
  | none => some none
  | some resolution => do
      let width ← (CGFloat.ofInt64 resolution.width).toInt32
      let height ← (CGFloat.ofInt64 resolution.height).toInt32
      let native : Webrtc.Resolution := { width := width, height := height }
      pure (if native.pixelCount > 0 then some native else none)

theorem nativeResolution_eq_some_iff (resolution : RTPParameters.Resolution)
    (native : Option Webrtc.Resolution) :
    nativeResolution (some resolution) = some native ↔
      ∃ width height : Int32, width.toInt = resolution.width.toInt ∧
        height.toInt = resolution.height.toInt ∧
        native = if (⟨width, height⟩ : Webrtc.Resolution).pixelCount > 0 then some ⟨width, height⟩
          else none := by
  unfold nativeResolution
  simp only [Option.bind_eq_bind, Option.bind_eq_some_iff, Option.pure_def, Option.some.injEq,
    CGFloat.toInt32_ofInt64_eq_some_iff]
  constructor
  · rintro ⟨width, sameWidth, height, sameHeight, rfl⟩
    exact ⟨width, height, sameWidth, sameHeight, rfl⟩
  · rintro ⟨width, height, sameWidth, sameHeight, rfl⟩
    exact ⟨width, sameWidth, height, sameHeight, rfl⟩

/-- The loop body on an encoding an updater returned. It writes every exposed
field but `active`. -/
theorem updatedNativeEncoding_wrappedValue (encoding : Webrtc.RtpEncodingParameters)
    (returned : RTPParameters.RTPEncodingParameters) :
    updatedNativeEncoding encoding returned.wrappedValue =
      (nativeResolution returned.scaleResolutionDownTo).map fun resolution =>
        { encoding with
          minBitrateBps := returned.minBitrateBps.map Int64.toInt32
          maxBitrateBps := returned.maxBitrateBps.map Int64.toInt32
          maxFramerate := returned.maxFramerate
          scaleResolutionDownBy := returned.scaleResolutionDownBy
          scaleResolutionDownTo := resolution
          scalabilityMode := returned.scalabilityMode.map stdString
          numTemporalLayers := returned.numTemporalLayers.map Int64.toInt32
          bitratePriority := returned.bitratePriority
          adaptivePtime := returned.adaptiveAudioPacketTime } := by
  have integers (number : Option Int64) :
      (number.map NSNumber.integer).map NSNumber.intValue = number.map Int64.toInt32 := by
    rw [Option.map_map]
    rfl
  have doubles (number : Option Double) :
      (number.map NSNumber.double).map NSNumber.doubleValue = number := by
    cases number <;> rfl
  unfold updatedNativeEncoding RTPParameters.RTPEncodingParameters.wrappedValue
  simp only [integers, doubles]
  cases returned.scaleResolutionDownTo with
  | none => rfl
  | some resolution =>
      simp only [nativeResolution, Option.map_some, Option.getD_some,
        RTPParameters.Resolution.cgSizeValue]
      cases (CGFloat.ofInt64 resolution.width).toInt32 with
      | none => rfl
      | some width =>
          cases (CGFloat.ofInt64 resolution.height).toInt32 with
          | none => rfl
          | some height => rfl

/-! ### Numbers -/

def Webrtc.Resolution.sides (resolution : Webrtc.Resolution) : Int × Int :=
  (resolution.width.toInt, resolution.height.toInt)

def RTPParameters.Resolution.sides (resolution : RTPParameters.Resolution) : Int × Int :=
  (resolution.width.toInt, resolution.height.toInt)

/-- The sides are `int`s, and so is their product wrapped to 32 bits, which is
positive. -/
structure RTPParameters.Resolution.Kept (resolution : RTPParameters.Resolution) : Prop where
  width : InInt32Range resolution.width.toInt
  height : InInt32Range resolution.height.toInt
  product : 0 < (resolution.width.toInt * resolution.height.toInt).bmod (2 ^ 32)

theorem pixelCount_pos_iff (resolution : Webrtc.Resolution) :
    resolution.pixelCount > 0 ↔
      0 < (resolution.width.toInt * resolution.height.toInt).bmod (2 ^ 32) := by
  rw [← Int32.toInt_mul]
  exact Int32.lt_iff_toInt_lt

/-- A returned resolution reaches the native encoding with its own sides exactly
when it is kept. -/
theorem nativeResolution_sides_iff (returned : Option RTPParameters.Resolution) :
    (∃ native, nativeResolution returned = some native ∧
        native.map Webrtc.Resolution.sides = returned.map RTPParameters.Resolution.sides) ↔
      ∀ resolution ∈ returned, resolution.Kept := by
  cases returned with
  | none => simp [nativeResolution]
  | some resolution =>
      simp only [nativeResolution_eq_some_iff, Option.map_some, Option.mem_def, Option.some.injEq,
        forall_eq']
      constructor
      · rintro ⟨_, ⟨width, height, sameWidth, sameHeight, rfl⟩, same⟩
        split at same
        next positive =>
          rw [pixelCount_pos_iff, sameWidth, sameHeight] at positive
          exact
            { width := sameWidth ▸ inInt32Range_toInt width
              height := sameHeight ▸ inInt32Range_toInt height
              product := positive }
        next => cases same
      · intro kept
        have width : (Int32.ofInt resolution.width.toInt).toInt = resolution.width.toInt :=
          Int32.toInt_ofInt_of_le kept.width.1 kept.width.2
        have height : (Int32.ofInt resolution.height.toInt).toInt = resolution.height.toInt :=
          Int32.toInt_ofInt_of_le kept.height.1 kept.height.2
        refine ⟨_, ⟨_, _, width, height, rfl⟩, ?_⟩
        have positive := kept.product
        rw [← width, ← height, ← pixelCount_pos_iff ⟨_, _⟩] at positive
        rw [if_pos positive, Option.map_some, Webrtc.Resolution.sides, width, height]
        rfl

/-- The native encoding holds the integers of the returned one. -/
structure NumbersHeld (returned : RTPParameters.RTPEncodingParameters)
    (native : Webrtc.RtpEncodingParameters) : Prop where
  minBitrateBps : native.minBitrateBps.map Int32.toInt = returned.minBitrateBps.map Int64.toInt
  maxBitrateBps : native.maxBitrateBps.map Int32.toInt = returned.maxBitrateBps.map Int64.toInt
  numTemporalLayers :
    native.numTemporalLayers.map Int32.toInt = returned.numTemporalLayers.map Int64.toInt
  scaleResolutionDownTo :
    native.scaleResolutionDownTo.map Webrtc.Resolution.sides =
      returned.scaleResolutionDownTo.map RTPParameters.Resolution.sides

/-- The integers of an encoding that its native fields can hold, with a
resolution that is not taken for an absent one. -/
structure RTPParameters.RTPEncodingParameters.NumbersKept
    (returned : RTPParameters.RTPEncodingParameters) : Prop where
  minBitrateBps : ∀ value ∈ returned.minBitrateBps, InInt32Range value.toInt
  maxBitrateBps : ∀ value ∈ returned.maxBitrateBps, InInt32Range value.toInt
  numTemporalLayers : ∀ value ∈ returned.numTemporalLayers, InInt32Range value.toInt
  scaleResolutionDownTo : ∀ resolution ∈ returned.scaleResolutionDownTo, resolution.Kept

/-- The integers are `int`s, and the resolution is nil or has positive sides whose
product is an `int`. -/
structure RTPParameters.RTPEncodingParameters.Admissible
    (returned : RTPParameters.RTPEncodingParameters) : Prop where
  minBitrateBps : ∀ value ∈ returned.minBitrateBps, InInt32Range value.toInt
  maxBitrateBps : ∀ value ∈ returned.maxBitrateBps, InInt32Range value.toInt
  numTemporalLayers : ∀ value ∈ returned.numTemporalLayers, InInt32Range value.toInt
  width : ∀ resolution ∈ returned.scaleResolutionDownTo, 0 < resolution.width.toInt
  height : ∀ resolution ∈ returned.scaleResolutionDownTo, 0 < resolution.height.toInt
  product : ∀ resolution ∈ returned.scaleResolutionDownTo,
    resolution.width.toInt * resolution.height.toInt < 2 ^ 31

theorem numbersKept_of_admissible {returned : RTPParameters.RTPEncodingParameters}
    (admissible : returned.Admissible) : returned.NumbersKept := by
  constructor
  case minBitrateBps => exact admissible.minBitrateBps
  case maxBitrateBps => exact admissible.maxBitrateBps
  case numTemporalLayers => exact admissible.numTemporalLayers
  case scaleResolutionDownTo =>
    intro resolution present
    have width := admissible.width resolution present
    have height := admissible.height resolution present
    have product := admissible.product resolution present
    have widthBelow : resolution.width.toInt ≤ resolution.width.toInt * resolution.height.toInt :=
      le_mul_of_one_le_right (by omega) (by omega)
    have heightBelow : resolution.height.toInt ≤ resolution.width.toInt * resolution.height.toInt :=
      le_mul_of_one_le_left (by omega) (by omega)
    constructor
    case width => exact ⟨by omega, by omega⟩
    case height => exact ⟨by omega, by omega⟩
    case product =>
      rw [Int.bmod_eq_of_le (by omega) (by omega)]
      omega

/-- Narrowing keeps an optional integer exactly when an `int` can hold it. -/
theorem map_toInt32_iff (number : Option Int64) :
    (number.map Int64.toInt32).map Int32.toInt = number.map Int64.toInt ↔
      ∀ value ∈ number, InInt32Range value.toInt := by
  cases number with
  | none => simp
  | some value =>
      simp only [Option.map_some, Option.some.injEq, Option.mem_def, forall_eq',
        Int64.toInt_toInt32]
      exact bmod_eq_self_iff value.toInt

theorem updatedNativeEncoding_numbersHeld_iff (encoding : Webrtc.RtpEncodingParameters)
    (returned : RTPParameters.RTPEncodingParameters) :
    (∃ written, updatedNativeEncoding encoding returned.wrappedValue = some written ∧
        NumbersHeld returned written) ↔ returned.NumbersKept := by
  rw [updatedNativeEncoding_wrappedValue]
  constructor
  · rintro ⟨written, defined, held⟩
    obtain ⟨native, resolution, rfl⟩ := Option.map_eq_some_iff.mp defined
    exact
      { minBitrateBps := (map_toInt32_iff _).mp held.minBitrateBps
        maxBitrateBps := (map_toInt32_iff _).mp held.maxBitrateBps
        numTemporalLayers := (map_toInt32_iff _).mp held.numTemporalLayers
        scaleResolutionDownTo := (nativeResolution_sides_iff _).mp
          ⟨native, resolution, held.scaleResolutionDownTo⟩ }
  · intro kept
    obtain ⟨native, resolution, sides⟩ :=
      (nativeResolution_sides_iff _).mpr kept.scaleResolutionDownTo
    rw [resolution, Option.map_some]
    exact ⟨_, rfl,
      { minBitrateBps := (map_toInt32_iff _).mpr kept.minBitrateBps
        maxBitrateBps := (map_toInt32_iff _).mpr kept.maxBitrateBps
        numTemporalLayers := (map_toInt32_iff _).mpr kept.numTemporalLayers
        scaleResolutionDownTo := sides }⟩

/-! ### Everything an updater returns -/

/-- The native encoding has every exposed field of the returned one, absent
where it is nil. -/
structure EncodingWritten (returned : RTPParameters.RTPEncodingParameters)
    (native : Webrtc.RtpEncodingParameters) : Prop where
  isActive : native.active = returned.isActive
  numbers : NumbersHeld returned native
  maxFramerate : native.maxFramerate = returned.maxFramerate
  scaleResolutionDownBy : native.scaleResolutionDownBy = returned.scaleResolutionDownBy
  scalabilityMode : native.scalabilityMode = returned.scalabilityMode.map utf8Bytes
  bitratePriority : native.bitratePriority = returned.bitratePriority
  adaptiveAudioPacketTime : native.adaptivePtime = returned.adaptiveAudioPacketTime

/-- What the loop cannot write into this native encoding is as returned
already. -/
structure EncodingWritable (encoding : Webrtc.RtpEncodingParameters)
    (returned : RTPParameters.RTPEncodingParameters) : Prop where
  isActive : encoding.active = returned.isActive
  numbers : returned.NumbersKept
  scalabilityMode : ∀ mode ∈ returned.scalabilityMode, 0 ∉ utf8Bytes mode

theorem updatedNativeEncoding_written_iff (encoding : Webrtc.RtpEncodingParameters)
    (returned : RTPParameters.RTPEncodingParameters) :
    (∃ written, updatedNativeEncoding encoding returned.wrappedValue = some written ∧
        EncodingWritten returned written) ↔ EncodingWritable encoding returned := by
  rw [updatedNativeEncoding_wrappedValue]
  constructor
  · rintro ⟨written, defined, holds⟩
    have numbers := (updatedNativeEncoding_numbersHeld_iff encoding returned).mp
      ⟨written, (updatedNativeEncoding_wrappedValue encoding returned).trans defined, holds.numbers⟩
    obtain ⟨native, -, rfl⟩ := Option.map_eq_some_iff.mp defined
    exact
      { isActive := holds.isActive
        numbers := numbers
        scalabilityMode := (map_stdString_eq_iff _).mp holds.scalabilityMode }
  · intro writable
    obtain ⟨written, defined, numbers⟩ :=
      (updatedNativeEncoding_numbersHeld_iff encoding returned).mpr writable.numbers
    rw [updatedNativeEncoding_wrappedValue] at defined
    refine ⟨written, defined, ?_⟩
    obtain ⟨native, -, rfl⟩ := Option.map_eq_some_iff.mp defined
    exact
      { isActive := writable.isActive
        numbers := numbers
        maxFramerate := rfl
        scaleResolutionDownBy := rfl
        scalabilityMode := (map_stdString_eq_iff _).mpr writable.scalabilityMode
        bitratePriority := rfl
        adaptiveAudioPacketTime := rfl }

def RTPParameters.DegradationPreference.native :
    RTPParameters.DegradationPreference → Webrtc.DegradationPreference
  | .disabled => .disabled
  | .maintainFramerate => .maintainFramerate
  | .maintainResolution => .maintainResolution
  | .balanced => .balanced

private theorem degradationPreference_wrappedValue (returned : RTPParameters) :
    returned.wrappedValue.degradationPreference =
      returned.degradationPreference.map RTPParameters.DegradationPreference.native := by
  unfold RTPParameters.wrappedValue WrappedRTPParameters.degradationPreference
  cases returned.degradationPreference with
  | none => rfl
  | some preference => cases preference <;> rfl

/-- The encodings an updater returned; nil counts as none. -/
def RTPParameters.returnedEncodings (returned : RTPParameters) :
    List RTPParameters.RTPEncodingParameters :=
  returned.encodings.getD []

theorem wrappedEncodings_wrappedValue (returned : RTPParameters) :
    returned.wrappedValue.wrappedEncodings.getD [] =
      returned.returnedEncodings.map RTPParameters.RTPEncodingParameters.wrappedValue := by
  unfold RTPParameters.wrappedValue RTPParameters.returnedEncodings
  cases returned.encodings <;> rfl

/-- The write-back of what an updater returned. -/
theorem updatedNativeParameters_wrappedValue_eq_some_iff {parameters written : Webrtc.RtpParameters}
    {returned : RTPParameters} :
    updatedNativeParameters parameters returned.wrappedValue = some written ↔
      ∃ encodings,
        writeBack (fun encoding updated => updatedNativeEncoding encoding updated.wrappedValue) 0
          returned.returnedEncodings parameters.encodings = some encodings ∧
        written = { parameters with
                      degradationPreference :=
                        returned.degradationPreference.map RTPParameters.DegradationPreference.native
                      encodings := encodings } := by
  rw [updatedNativeParameters_eq_some_iff, wrappedEncodings_wrappedValue, writeBack_map,
    degradationPreference_wrappedValue]

/-- A size an updater returned can be cast exactly when its sides are `int`s. -/
theorem fitsInt32_wrappedValue_iff (returned : RTPParameters.RTPEncodingParameters) :
    returned.wrappedValue.scaleResolutionDownTo.FitsInt32 ↔
      ∀ resolution ∈ returned.scaleResolutionDownTo,
        InInt32Range resolution.width.toInt ∧ InInt32Range resolution.height.toInt := by
  unfold RTPParameters.RTPEncodingParameters.wrappedValue
  cases returned.scaleResolutionDownTo with
  | none =>
      have zeroFits : CGSize.zero.FitsInt32 := by decide
      apply iff_of_true zeroFits
      intro resolution present
      cases present
  | some resolution =>
      simp only [Option.map_some, Option.getD_some, Option.mem_def, Option.some.injEq, forall_eq']
      exact and_congr (CGFloat.fitsInt32_ofInt64_iff _) (CGFloat.fitsInt32_ofInt64_iff _)

/-- The write-back of what an updater returned is defined exactly when there are
no more encodings than native ones and the sizes are `int`s. -/
theorem exists_updatedNativeParameters_iff (parameters : Webrtc.RtpParameters)
    (returned : RTPParameters) :
    (∃ written, updatedNativeParameters parameters returned.wrappedValue = some written) ↔
      returned.returnedEncodings.length ≤ parameters.encodings.length ∧
        ∀ encoding ∈ returned.returnedEncodings,
          ∀ resolution ∈ encoding.scaleResolutionDownTo,
            InInt32Range resolution.width.toInt ∧ InInt32Range resolution.height.toInt := by
  rw [← Option.isSome_iff_exists, isSome_updatedNativeParameters_iff]
  have updates := wrappedEncodings_wrappedValue returned
  constructor
  · rintro ⟨bounded, sizes⟩
    rw [updates, List.length_map] at bounded
    rw [updates, List.forall_mem_map] at sizes
    exact ⟨bounded, fun encoding member =>
      (fitsInt32_wrappedValue_iff encoding).mp (sizes encoding member)⟩
  · rintro ⟨bounded, sides⟩
    constructor
    case bounded =>
      rw [updates, List.length_map]
      exact bounded
    case sizes =>
      rw [updates, List.forall_mem_map]
      exact fun encoding member => (fitsInt32_wrappedValue_iff encoding).mpr (sides encoding member)

/-- The native parameters have a property at the index of each returned encoding. -/
def AtReturned (Good : RTPParameters.RTPEncodingParameters → Webrtc.RtpEncodingParameters → Prop)
    (returned : RTPParameters) (written : Webrtc.RtpParameters) : Prop :=
  ∀ (k : Nat) (encoding : RTPParameters.RTPEncodingParameters),
    returned.returnedEncodings[k]? = some encoding →
      ∃ native, written.encodings[k]? = some native ∧ Good encoding native

/-- The write-back is defined and gives the property at each returned index
exactly when it stays inside the vector and each of its passes does so. -/
theorem atReturned_iff
    {Good : RTPParameters.RTPEncodingParameters → Webrtc.RtpEncodingParameters → Prop}
    {GoodAt : Webrtc.RtpEncodingParameters → RTPParameters.RTPEncodingParameters → Prop}
    (goodIff : ∀ encoding returned,
      (∃ written, updatedNativeEncoding encoding returned.wrappedValue = some written ∧
        Good returned written) ↔ GoodAt encoding returned)
    (parameters : Webrtc.RtpParameters) (returned : RTPParameters) :
    (∃ written, updatedNativeParameters parameters returned.wrappedValue = some written ∧
        AtReturned Good returned written) ↔
      returned.returnedEncodings.length ≤ parameters.encodings.length ∧
        ∀ (k : Nat) (updated : RTPParameters.RTPEncodingParameters)
          (encoding : Webrtc.RtpEncodingParameters), returned.returnedEncodings[k]? = some updated →
            parameters.encodings[k]? = some encoding → GoodAt encoding updated := by
  rw [← writeBack_good_iff goodIff]
  constructor
  · rintro ⟨written, defined, good⟩
    obtain ⟨encodings, loop, rfl⟩ := updatedNativeParameters_wrappedValue_eq_some_iff.mp defined
    exact ⟨encodings, loop, good⟩
  · rintro ⟨encodings, loop, good⟩
    exact ⟨_, updatedNativeParameters_wrappedValue_eq_some_iff.mpr ⟨encodings, loop, rfl⟩, good⟩

/-! ### What the write-back keeps -/

/-- The fields of an encoding that the wrapped class does not expose. -/
structure Webrtc.RtpEncodingParameters.SameHidden (old new : Webrtc.RtpEncodingParameters) :
    Prop where
  rid : new.rid = old.rid
  ssrc : new.ssrc = old.ssrc
  networkPriority : new.networkPriority = old.networkPriority

/-- The new parameters differ from the old ones in the degradation preference and
in the exposed fields of the first `count` encodings at most. -/
structure Webrtc.RtpParameters.Untouched (count : Nat) (old new : Webrtc.RtpParameters) :
    Prop where
  transactionId : new.transactionId = old.transactionId
  mid : new.mid = old.mid
  codecs : new.codecs = old.codecs
  headerExtensions : new.headerExtensions = old.headerExtensions
  length : new.encodings.length = old.encodings.length
  tail : ∀ k, count ≤ k → new.encodings[k]? = old.encodings[k]?
  hidden : ∀ (k : Nat) (encoding : Webrtc.RtpEncodingParameters), old.encodings[k]? = some encoding →
    ∃ written, new.encodings[k]? = some written ∧ encoding.SameHidden written

private theorem sameHidden_of_updatedNativeEncoding
    {encoding written : Webrtc.RtpEncodingParameters} {updatedEncoding : RTPEncodingParameters}
    (defined : updatedNativeEncoding encoding updatedEncoding = some written) :
    encoding.SameHidden written := by
  unfold updatedNativeEncoding at defined
  obtain ⟨width, -, rest⟩ := Option.bind_eq_some_iff.mp defined
  obtain ⟨height, -, same⟩ := Option.bind_eq_some_iff.mp rest
  obtain rfl := Option.some.inj same
  exact { rid := rfl, ssrc := rfl, networkPriority := rfl }

theorem untouched_of_updatedNativeParameters {parameters written : Webrtc.RtpParameters}
    {wrapped : WrappedRTPParameters}
    (defined : updatedNativeParameters parameters wrapped = some written) :
    parameters.Untouched (wrapped.wrappedEncodings.getD []).length written := by
  obtain ⟨encodings, loop, rfl⟩ := updatedNativeParameters_eq_some_iff.mp defined
  have back := writtenBack_of_defined loop
  constructor
  case transactionId => rfl
  case mid => rfl
  case codecs => rfl
  case headerExtensions => rfl
  case length => exact back.length
  case tail =>
    intro k above
    exact back.outside k (Or.inr (by omega))
  case hidden =>
    intro k encoding found
    apply exists_kept_of_writeBack loop _ _ found
    · exact fun encoding => { rid := rfl, ssrc := rfl, networkPriority := rfl }
    · exact fun _ _ _ => sameHidden_of_updatedNativeEncoding

end MediasoupClientSwift
