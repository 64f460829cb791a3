import MediasoupClientSwift.Foundation.Number
import MediasoupClientSwift.Foundation.Text

/-!
Owns the RTP parameters of a sender in their three representations: the native
`webrtc` structs, the Objective-C objects that wrap them, and the Swift structs
the application edits; and `RTCRtpEncodingParameters`, which the application
hands to a new producer. The conversions between them stand in `Rtp.Conversion`.
-/

namespace MediasoupClientSwift

/-! ### Native structs -/

namespace Webrtc

inductive Priority where
  | kVeryLow
  | kLow
  | kMedium
  | kHigh
deriving DecidableEq, Repr

inductive DegradationPreference where
  | disabled
  | maintainFramerate
  | maintainResolution
  | balanced
deriving DecidableEq, Repr

structure Resolution where
  width : Int32
  height : Int32
deriving DecidableEq, Repr

/-- The product of 32-bit `int`s, wrapping. -/
def Resolution.pixelCount (resolution : Resolution) : Int32 := resolution.width * resolution.height

/-- `webrtc::RtpEncodingParameters`, with the defaults of its constructor. -/
structure RtpEncodingParameters where
  ssrc : Option UInt32 := none
  bitratePriority : Double := Double.ofInt 1
  networkPriority : Priority := .kLow
  maxBitrateBps : Option Int32 := none
  minBitrateBps : Option Int32 := none
  maxFramerate : Option Double := none
  numTemporalLayers : Option Int32 := none
  scaleResolutionDownBy : Option Double := none
  scalabilityMode : Option Bytes := none
  scaleResolutionDownTo : Option Resolution := none
  active : Bool := true
  rid : Bytes := []
  adaptivePtime : Bool := false
deriving DecidableEq, Repr

/-- `webrtc::RtpParameters`; what the wrappers carry without reading (the mid,
the codecs, the header extensions) is kept as opaque bytes. -/
structure RtpParameters where
  transactionId : Nat
  mid : Bytes
  codecs : List Bytes
  headerExtensions : List Bytes
  encodings : List RtpEncodingParameters
  degradationPreference : Option DegradationPreference
deriving DecidableEq, Repr

end Webrtc

/-! ### Objective-C objects -/

inductive WrappedDegradationPreference where
  | none
  | disabled
  | maintainFramerate
  | maintainResolution
  | balanced
deriving DecidableEq, Repr

/-- The class of `RTPEncodingParameters.hpp`. -/
structure RTPEncodingParameters where
  isActive : Bool
  minBitrateBps : Option NSNumber
  maxBitrateBps : Option NSNumber
  maxFramerate : Option NSNumber
  scaleResolutionDownBy : Option NSNumber
  scaleResolutionDownTo : CGSize
  scalabilityMode : Option String
  numTemporalLayers : Option NSNumber
  bitratePriority : Double
  adaptiveAudioPacketTime : Bool
deriving DecidableEq, Repr

structure WrappedRTPParameters where
  wrappedDegradationPreference : WrappedDegradationPreference
  wrappedEncodings : Option (List RTPEncodingParameters)
deriving DecidableEq, Repr

/-- WebRTC's Objective-C encoding, as far as an application can set it. -/
structure RTCRtpEncodingParameters where
  rid : Option String
  isActive : Bool
  maxBitrateBps : Option NSNumber
  minBitrateBps : Option NSNumber
  maxFramerate : Option NSNumber
  numTemporalLayers : Option NSNumber
  scaleResolutionDownBy : Option NSNumber
  bitratePriority : Double
  networkPriority : Webrtc.Priority
  adaptiveAudioPacketTime : Bool
deriving DecidableEq, Repr

/-! ### Swift structs -/

namespace RTPParameters

inductive DegradationPreference where
  | disabled
  | maintainFramerate
  | maintainResolution
  | balanced
deriving DecidableEq, Repr

structure Resolution where
  width : Int64
  height : Int64
deriving DecidableEq, Repr

/-- `RTPParameters.RTPEncodingParameters`. -/
structure RTPEncodingParameters where
  scalabilityMode : Option String
  scaleResolutionDownTo : Option Resolution
  isActive : Bool
  maxBitrateBps : Option Int64
  minBitrateBps : Option Int64
  maxFramerate : Option Double
  numTemporalLayers : Option Int64
  scaleResolutionDownBy : Option Double
  bitratePriority : Double
  adaptiveAudioPacketTime : Bool
deriving DecidableEq, Repr

end RTPParameters

structure RTPParameters where
  degradationPreference : Option RTPParameters.DegradationPreference
  encodings : Option (List RTPParameters.RTPEncodingParameters)
deriving DecidableEq, Repr

end MediasoupClientSwift
