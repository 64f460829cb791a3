import Mathlib.Tactic.SplitIfs

/-!
Owns the Swift enumerations that cross the language border as strings or as
native states: media kinds, connection states and data-channel states.
-/

namespace MediasoupClientSwift

/-- The constant that a text names, by the constants' own values. -/
def constantNamed {Constant : Type} (constants : List Constant) (value : Constant → String)
    (text : String) : Option Constant :=
  constants.find? fun constant => value constant = text

/-- A parser that inverts the values finds what the values name. -/
theorem constantNamed_eq {Constant : Type} {constants : List Constant}
    {value : Constant → String} {parse : String → Option Constant}
    (complete : ∀ constant, constant ∈ constants)
    (parses : ∀ constant, parse (value constant) = some constant)
    (exact : ∀ text constant, parse text = some constant → value constant = text)
    (text : String) : constantNamed constants value text = parse text := by
  cases parsed : parse text with
  | none =>
      apply List.find?_eq_none.mpr
      intro constant _ same
      rw [← of_decide_eq_true same, parses constant] at parsed
      cases parsed
  | some constant =>
      have named := exact text constant parsed
      cases found : constantNamed constants value text with
      | none =>
          have other := List.find?_eq_none.mp found constant (complete constant)
          exact absurd (decide_eq_true named) other
      | some first =>
          unfold constantNamed at found
          have holds := List.find?_some found
          have firstNamed : value first = text := of_decide_eq_true holds
          rw [← parses first, firstNamed, parsed]

inductive MediaKind where
  | audio
  | video
deriving DecidableEq, Repr

namespace MediaKind

def mediaClientValue : MediaKind → String
  | .audio => "audio"
  | .video => "video"

/-- `init?(stringValue:)`. -/
def initStringValue (stringValue : String) : Option MediaKind :=
  if stringValue = "audio" then some .audio
  else if stringValue = "video" then some .video
  else none

theorem initStringValue_mediaClientValue (kind : MediaKind) :
    initStringValue kind.mediaClientValue = some kind := by
  cases kind <;> rfl

theorem mediaClientValue_of_initStringValue (text : String) (kind : MediaKind)
    (parsed : initStringValue text = some kind) : kind.mediaClientValue = text := by
  unfold initStringValue at parsed
  split_ifs at parsed with isAudio isVideo <;> cases parsed
  · exact isAudio.symm
  · exact isVideo.symm

def named : String → Option MediaKind :=
  constantNamed [.audio, .video] mediaClientValue

theorem named_eq (text : String) : named text = initStringValue text :=
  constantNamed_eq (fun kind => by cases kind <;> decide) initStringValue_mediaClientValue
    mediaClientValue_of_initStringValue text

end MediaKind

inductive TransportConnectionState where
  | new
  | checking
  | connected
  | completed
  | failed
  | disconnected
  | closed
deriving DecidableEq, Repr

namespace TransportConnectionState

def mediaClientValue : TransportConnectionState → String
  | .new => "new"
  | .checking => "checking"
  | .connected => "connected"
  | .completed => "completed"
  | .failed => "failed"
  | .disconnected => "disconnected"
  | .closed => "closed"

/-- `init?(stringValue:)`. -/
def initStringValue (stringValue : String) : Option TransportConnectionState :=
  if stringValue = "new" then some .new
  else if stringValue = "checking" then some .checking
  else if stringValue = "connected" then some .connected
  else if stringValue = "completed" then some .completed
  else if stringValue = "failed" then some .failed
  else if stringValue = "disconnected" then some .disconnected
  else if stringValue = "closed" then some .closed
  else none

theorem initStringValue_mediaClientValue (state : TransportConnectionState) :
    initStringValue state.mediaClientValue = some state := by
  cases state <;> rfl

theorem mediaClientValue_of_initStringValue (text : String) (state : TransportConnectionState)
    (parsed : initStringValue text = some state) : state.mediaClientValue = text := by
  unfold initStringValue at parsed
  split_ifs at parsed <;> cases parsed <;> exact Eq.symm ‹_›

def named : String → Option TransportConnectionState :=
  constantNamed [.new, .checking, .connected, .completed, .failed, .disconnected, .closed]
    mediaClientValue

theorem named_eq (text : String) : named text = initStringValue text :=
  constantNamed_eq (fun state => by cases state <;> decide) initStringValue_mediaClientValue
    mediaClientValue_of_initStringValue text

end TransportConnectionState

inductive DataState where
  | connecting
  | open
  | closing
  | closed
deriving DecidableEq, Repr

end MediasoupClientSwift
