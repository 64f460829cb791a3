import MediasoupClientSwift.Rtp.Parameters

/-!
Owns the parameters of a native RTP sender: `GetParameters` issues a transaction
id that replaces the one before, and `SetParameters` takes only parameters that
carry the latest id, which it spends, and that pass the native check.
-/

namespace MediasoupClientSwift.Webrtc

structure RtpSender where
  parameters : RtpParameters
  /-- The latest transaction id, until a write spends it. -/
  latest : Option Nat
  /-- Ids below this one have been issued. -/
  issued : Nat
deriving DecidableEq, Repr

namespace RtpSender

def getParameters (sender : RtpSender) : RtpParameters × RtpSender :=
  ({ sender.parameters with transactionId := sender.issued },
    { sender with latest := some sender.issued, issued := sender.issued + 1 })

/-- `valid` is the native check of the new parameters against the current ones. -/
def setParameters (valid : RtpParameters → RtpParameters → Bool) (new : RtpParameters)
    (sender : RtpSender) : Bool × RtpSender :=
  if sender.latest = some new.transactionId ∧ valid sender.parameters new then
    (true, { sender with parameters := new, latest := none })
  else (false, sender)

end RtpSender

end MediasoupClientSwift.Webrtc
