import MediasoupClientSwift.Foundation.Json

/-!
Owns the peer-connection options of a device and
`pcOptionsWithICEServers:iceTransportPolicy:`, which copies them, sets the
transport policy and, when a text is given, replaces the server list. The main
result says exactly for which texts the method raises.
-/

namespace MediasoupClientSwift

open Library

/-- `RTCIceTransportPolicy`, and `ICETransportPolicy` in Swift. -/
inductive IceTransportPolicy where
  | none
  | relay
  | noHost
  | all
deriving DecidableEq, Repr

/-- `PeerConnectionInterface::IceTransportsType`. -/
inductive IceTransportsType where
  | kNone
  | kRelay
  | kNoHost
  | kAll
deriving DecidableEq, Repr

structure IceServer where
  urls : List Bytes
  username : Bytes
  password : Bytes
deriving DecidableEq, Repr

/-- `RTCConfiguration`; the fields the wrappers copy without reading are kept
by name. -/
structure RtcConfiguration where
  type : IceTransportsType
  servers : List IceServer
  others : List (String × Bytes)
deriving DecidableEq, Repr

/-- `RTCPeerConnectionFactory`: one that `initCaptureAudioSession:` made, which its
device keeps to itself, or one of the application's. -/
inductive PCFactory where
  | made (number : Nat)
  | given (name : Nat)
deriving DecidableEq, Repr

/-- `PeerConnection::Options`. -/
structure PcOptions where
  config : RtcConfiguration
  factory : PCFactory
deriving DecidableEq, Repr

/-- The urls of one description, or `none` for one that is skipped. -/
def iceServerUrls (description : Json) : Except CppException (Option (List Bytes)) :=
  if description.contains "urls" then
    match description.subscript "urls" with
    | .string url => .ok (some [url])
    | .array urls => (Json.getStrings urls).map some
    | _ => .ok none
  else .ok none

/-- An optional text member: empty where the key is absent. -/
def iceServerText (description : Json) (key : String) : Except CppException Bytes :=
  if description.contains key then (description.subscript key).getString else .ok []

/-- One pass of the loop body: the server it appends, if any. -/
def iceServer (description : Json) : Except CppException (Option IceServer) := do
  match ← iceServerUrls description with
  | none => pure none
  | some urls =>
      let username ← iceServerText description "username"
      let password ← iceServerText description "credential"
      pure (some { urls := urls, username := username, password := password })

/-- The loop over the descriptions, appending to the servers so far. -/
def appendIceServers (servers : List IceServer) : List Json → Except CppException (List IceServer)
  | [] => .ok servers
  | description :: rest => do
      match ← iceServer description with
      | none => appendIceServers servers rest
      | some server => appendIceServers (servers ++ [server]) rest

/-- `pcOptionsWithICEServers:iceTransportPolicy:`, given `nlohmann::json::parse`
and `[RTCConfiguration nativeTransportsTypeForTransportPolicy:]`. -/
def pcOptionsWithICEServers (parse : Bytes → Except CppException Json)
    (nativeTransportsType : IceTransportPolicy → IceTransportsType) (base : PcOptions)
    (iceServers : Option String) (policy : IceTransportPolicy) : Except CppException PcOptions := do
  let pcOptions := { base with config := { base.config with type := nativeTransportsType policy } }
  match iceServers with
  | none => pure pcOptions
  | some text =>
      let iceServersJSON ← parse (stdString text)
      let servers ← appendIceServers [] iceServersJSON.elements
      pure { pcOptions with config := { pcOptions.config with servers := servers } }

/-! ### When the method raises -/

/-- The description is passed over: it is no object, has no `urls`, or `urls` is
neither a string nor an array. -/
def Json.SkippedServer (description : Json) : Prop :=
  match description.find "urls" with
  | some (.string _) => False
  | some (.array _) => False
  | _ => True

def Json.UrlsAreStrings (description : Json) : Prop :=
  match description.find "urls" with
  | some (.array urls) => ∀ url ∈ urls, url.isString = true
  | _ => True

def Json.TextMember (description : Json) (key : String) : Prop :=
  match description.find key with
  | some value => value.isString = true
  | none => True

/-- A description the loop accepts, skipping it or appending a server. -/
structure Json.WellTypedServer (description : Json) : Prop where
  urls : description.UrlsAreStrings
  username : description.TextMember "username"
  credential : description.TextMember "credential"

/-- The text is JSON, and every description that is not skipped is well typed. -/
def IceServersAccepted (parse : Bytes → Except CppException Json) (text : String) : Prop :=
  ∃ json, parse (stdString text) = .ok json ∧
    ∀ description ∈ json.elements, description.SkippedServer ∨ description.WellTypedServer

theorem iceServerUrls_eq (description : Json) :
    iceServerUrls description =
      match description.find "urls" with
      | some (.string url) => .ok (some [url])
      | some (.array urls) => (Json.getStrings urls).map some
      | _ => .ok none := by
  unfold iceServerUrls Json.contains Json.subscript
  cases description.find "urls" with
  | none => rfl
  | some value => cases value <;> rfl

theorem iceServerText_eq (description : Json) (key : String) :
    iceServerText description key =
      match description.find key with
      | some value => value.getString
      | none => .ok [] := by
  unfold iceServerText Json.contains Json.subscript
  cases description.find key <;> rfl

theorem iceServer_of_skipped {description : Json} (skipped : description.SkippedServer) :
    iceServer description = .ok none := by
  have urls : iceServerUrls description = .ok none := by
    rw [iceServerUrls_eq]
    unfold Json.SkippedServer at skipped
    split at skipped
    · exact skipped.elim
    · exact skipped.elim
    · rfl
  unfold iceServer
  rw [urls]
  rfl

private theorem returns_iceServerText_iff (description : Json) (key : String) :
    Returns (iceServerText description key) ↔ description.TextMember key := by
  rw [iceServerText_eq, Json.TextMember]
  cases description.find key with
  | none => exact iff_of_true (returns_ok _) trivial
  | some value => exact Json.returns_getString_iff value

/-- A description that is not skipped has urls, unless reading them raises. -/
theorem iceServerUrls_of_not_skipped {description : Json}
    (considered : ¬ description.SkippedServer) :
    (description.UrlsAreStrings ↔ Returns (iceServerUrls description)) ∧
      ∀ found, iceServerUrls description = .ok found → found.isSome = true := by
  rw [iceServerUrls_eq]
  unfold Json.SkippedServer at considered
  unfold Json.UrlsAreStrings
  generalize description.find "urls" = member at considered ⊢
  cases member with
  | none => exact absurd trivial considered
  | some value =>
      cases value with
      | string url =>
          refine ⟨iff_of_true trivial (returns_ok _), ?_⟩
          rintro found same
          cases same
          rfl
      | array urls =>
          refine ⟨((returns_map_iff some).trans (Json.returns_getStrings_iff urls)).symm, ?_⟩
          intro found same
          cases texts : Json.getStrings urls with
          | error raised => simp [texts, Except.map] at same
          | ok strings =>
              simp only [texts, Except.map, Except.ok.injEq] at same
              rw [← same]
              rfl
      | null => exact absurd trivial considered
      | boolean value => exact absurd trivial considered
      | number literal => exact absurd trivial considered
      | object members => exact absurd trivial considered

/-- The loop body raises exactly on a description that is neither skipped nor
well typed. -/
theorem returns_iceServer_iff (description : Json) :
    Returns (iceServer description) ↔
      description.SkippedServer ∨ description.WellTypedServer := by
  by_cases skipped : description.SkippedServer
  · rw [iceServer_of_skipped skipped]
    exact iff_of_true (returns_ok _) (Or.inl skipped)
  · obtain ⟨urlsIff, someUrls⟩ := iceServerUrls_of_not_skipped skipped
    unfold iceServer
    rw [returns_bind_iff]
    constructor
    · rintro ⟨found, urls, rest⟩
      obtain ⟨strings, rfl⟩ := Option.isSome_iff_exists.mp (someUrls found urls)
      obtain ⟨username, usernameOk, rest⟩ := returns_bind_iff.mp rest
      have credential := (returns_bind_of_total fun _ => returns_pure _).mp rest
      exact Or.inr
        { urls := urlsIff.mpr ⟨_, urls⟩
          username := (returns_iceServerText_iff description "username").mp ⟨username, usernameOk⟩
          credential := (returns_iceServerText_iff description "credential").mp credential }
    · rintro (isSkipped | wellTyped)
      · exact absurd isSkipped skipped
      · obtain ⟨found, urls⟩ := urlsIff.mp wellTyped.urls
        obtain ⟨strings, rfl⟩ := Option.isSome_iff_exists.mp (someUrls found urls)
        obtain ⟨username, usernameOk⟩ :=
          (returns_iceServerText_iff description "username").mpr wellTyped.username
        refine ⟨some strings, urls, returns_bind_iff.mpr ⟨username, usernameOk, ?_⟩⟩
        exact (returns_bind_of_total fun _ => returns_pure _).mpr
          ((returns_iceServerText_iff description "credential").mpr wellTyped.credential)

private theorem returns_appendIceServers_iff (servers : List IceServer) (descriptions : List Json) :
    Returns (appendIceServers servers descriptions) ↔
      ∀ description ∈ descriptions, Returns (iceServer description) := by
  induction descriptions generalizing servers with
  | nil => simp [appendIceServers]
  | cons description rest inductionHypothesis =>
      rw [List.forall_mem_cons, appendIceServers, returns_bind_iff]
      constructor
      · rintro ⟨found, returned, later⟩
        refine ⟨⟨found, returned⟩, ?_⟩
        cases found with
        | none => exact (inductionHypothesis servers).mp later
        | some server => exact (inductionHypothesis (servers ++ [server])).mp later
      · rintro ⟨⟨found, returned⟩, later⟩
        refine ⟨found, returned, ?_⟩
        cases found with
        | none => exact (inductionHypothesis servers).mpr later
        | some server => exact (inductionHypothesis (servers ++ [server])).mpr later

/-- The method raises exactly for a text that is not accepted. -/
theorem returns_pcOptionsWithICEServers_iff (parse : Bytes → Except CppException Json)
    (nativeTransportsType : IceTransportPolicy → IceTransportsType) (base : PcOptions)
    (iceServers : Option String) (policy : IceTransportPolicy) :
    Returns (pcOptionsWithICEServers parse nativeTransportsType base iceServers policy) ↔
      ∀ text ∈ iceServers, IceServersAccepted parse text := by
  cases iceServers with
  | none => simp [pcOptionsWithICEServers]
  | some text =>
      simp only [pcOptionsWithICEServers, Option.mem_def, Option.some.injEq, forall_eq',
        IceServersAccepted, returns_bind_iff]
      refine exists_congr fun json => and_congr_right fun _ => ?_
      rw [← returns_bind_iff, returns_bind_of_total fun _ => returns_pure _,
        returns_appendIceServers_iff]
      exact forall₂_congr fun description _ => returns_iceServer_iff description

end MediasoupClientSwift
