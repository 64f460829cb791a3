import MediasoupClientSwift.Device.IceServers
import MediasoupClientSwift.Library.Program
import Mathlib.Data.List.Forall2

/-!
Owns the exact result of `pcOptionsWithICEServers:iceTransportPolicy:`, stated
without its loop, and its statements over the device's own options and the local
copy. The main result says what any call returns after any others.
-/

namespace MediasoupClientSwift

open Library

/-! ### What a document asks for -/

namespace Json

/-- What a range-based `for` visits, in order: the elements of an array, the values
of an object, nothing of null, and a scalar itself. -/
inductive Visits : Json → List Json → Prop where
  | null : Visits .null []
  | boolean (value : Bool) : Visits (.boolean value) [.boolean value]
  | number (literal : Bytes) : Visits (.number literal) [.number literal]
  | string (value : Bytes) : Visits (.string value) [.string value]
  | array (elements : List Json) : Visits (.array elements) elements
  | object (members : List (Bytes × Json)) : Visits (.object members) (members.map Prod.snd)

/-- The element is an object with this value under the key. -/
def Member (element : Json) (key : String) (value : Json) : Prop :=
  ∃ before after, element = .object (before ++ (utf8Bytes key, value) :: after) ∧
    ∀ member ∈ before, member.1 ≠ utf8Bytes key

/-- The element is an object whose `urls` is a string or an array. -/
def Considered (element : Json) : Prop :=
  (∃ url, element.Member "urls" (.string url)) ∨ ∃ urls, element.Member "urls" (.array urls)

/-- The member is this text, or absent and the text is empty. -/
def MemberText (element : Json) (key : String) (text : Bytes) : Prop :=
  element.Member key (.string text) ∨ (∀ value, ¬ element.Member key value) ∧ text = []

/-- A member of the `urls` array, or a `username` or `credential`, is no string. -/
inductive IllTyped (element : Json) : Prop where
  | url (urls : List Json) (url : Json) (found : element.Member "urls" (.array urls))
      (member : url ∈ urls) (noString : ∀ text, url ≠ .string text)
  | username (value : Json) (found : element.Member "username" value)
      (noString : ∀ text, value ≠ .string text)
  | credential (value : Json) (found : element.Member "credential" value)
      (noString : ∀ text, value ≠ .string text)

end Json

/-- The server has the urls of the element, and its texts. -/
structure Describes (element : Json) (server : IceServer) : Prop where
  urls : (∃ url, element.Member "urls" (.string url) ∧ server.urls = [url]) ∨
    element.Member "urls" (.array (server.urls.map Json.string))
  username : element.MemberText "username" server.username
  password : element.MemberText "credential" server.password

/-- One server for each considered element, in order, and no other. -/
inductive DescribedServers : List Json → List IceServer → Prop where
  | nil : DescribedServers [] []
  | skipped {element : Json} {elements : List Json} {servers : List IceServer}
      (passedOver : ¬ element.Considered) (later : DescribedServers elements servers) :
      DescribedServers (element :: elements) servers
  | server {element : Json} {elements : List Json} {server : IceServer} {servers : List IceServer}
      (describes : Describes element server) (later : DescribedServers elements servers) :
      DescribedServers (element :: elements) (server :: servers)

/-! ### What the wrapper reads of it -/

private theorem visits_iff (json : Json) (elements : List Json) :
    json.Visits elements ↔ elements = json.elements := by
  constructor
  · intro visits
    cases visits <;> rfl
  · rintro rfl
    cases json <;> constructor

private theorem member_iff (element : Json) (key : String) (value : Json) :
    element.Member key value ↔ element.find key = some value := by
  cases element with
  | object members =>
      simp only [Json.Member, Json.find, Json.object.injEq, List.lookup_eq_some_iff, bne_iff_ne,
        ne_comm]
  | _ => simp [Json.Member, Json.find]

private theorem isString_eq_false_iff (value : Json) :
    value.isString = false ↔ ∀ text, value ≠ .string text := by
  cases value <;> simp [Json.isString]

private theorem memberText_iff (element : Json) (key : String) (text : Bytes) :
    element.MemberText key text ↔
      match element.find key with
      | some value => value = .string text
      | none => text = [] := by
  simp only [Json.MemberText, member_iff]
  cases element.find key <;> simp

private theorem getString_eq_ok_iff (value : Json) (text : Bytes) :
    value.getString = .ok text ↔ value = .string text := by
  cases value <;> simp [Json.getString]

private theorem getStrings_eq_ok_iff (values : List Json) (strings : List Bytes) :
    Json.getStrings values = .ok strings ↔ values = strings.map Json.string := by
  induction values generalizing strings with
  | nil => simp [Json.getStrings, eq_comm]
  | cons head rest inductionHypothesis =>
      rw [Json.getStrings, bind_eq_ok_iff]
      constructor
      · rintro ⟨first, headOk, others⟩
        obtain ⟨strings', restOk, same⟩ := bind_eq_ok_iff.mp others
        cases same
        rw [(getString_eq_ok_iff head first).mp headOk, (inductionHypothesis strings').mp restOk]
        rfl
      · intro same
        cases strings with
        | nil => cases same
        | cons first others =>
            obtain ⟨headSame, restSame⟩ := List.cons.inj same
            exact ⟨first, (getString_eq_ok_iff head first).mpr headSame,
              bind_eq_ok_iff.mpr ⟨others, (inductionHypothesis others).mpr restSame, rfl⟩⟩

private theorem iceServerText_eq_ok_iff (element : Json) (key : String) (text : Bytes) :
    iceServerText element key = .ok text ↔ element.MemberText key text := by
  rw [iceServerText_eq, memberText_iff]
  cases element.find key with
  | none => simp [eq_comm]
  | some value => exact getString_eq_ok_iff value text

private theorem iceServerUrls_eq_ok_some_iff (element : Json) (urls : List Bytes) :
    iceServerUrls element = .ok (some urls) ↔
      (∃ url, element.Member "urls" (.string url) ∧ urls = [url]) ∨
        element.Member "urls" (.array (urls.map Json.string)) := by
  simp only [iceServerUrls_eq, member_iff]
  cases element.find "urls" with
  | none => simp
  | some value =>
      cases value with
      | string url => simp [eq_comm]
      | array members =>
          simp only [Option.some.injEq, Json.array.injEq, reduceCtorEq, false_and, exists_false,
            false_or, ← getStrings_eq_ok_iff]
          cases Json.getStrings members <;> simp [Except.map]
      | null => simp
      | boolean flag => simp
      | number literal => simp
      | object members => simp

private theorem skippedServer_iff (element : Json) :
    element.SkippedServer ↔ ¬ element.Considered := by
  simp only [Json.Considered, Json.SkippedServer, member_iff]
  cases element.find "urls" with
  | none => simp
  | some value => cases value <;> simp

/-- The loop body appends a server exactly when it is the one described. -/
theorem iceServer_eq_ok_some_iff (element : Json) (server : IceServer) :
    iceServer element = .ok (some server) ↔ Describes element server := by
  unfold iceServer
  rw [bind_eq_ok_iff]
  constructor
  · rintro ⟨found, urlsOk, rest⟩
    cases found with
    | none => cases rest
    | some urls =>
        obtain ⟨username, usernameOk, rest⟩ := bind_eq_ok_iff.mp rest
        obtain ⟨password, passwordOk, same⟩ := bind_eq_ok_iff.mp rest
        cases same
        exact
          { urls := (iceServerUrls_eq_ok_some_iff element urls).mp urlsOk
            username := (iceServerText_eq_ok_iff element "username" username).mp usernameOk
            password := (iceServerText_eq_ok_iff element "credential" password).mp passwordOk }
  · intro describes
    have urls := (iceServerUrls_eq_ok_some_iff element server.urls).mpr describes.urls
    have username := (iceServerText_eq_ok_iff element "username" server.username).mpr
      describes.username
    have password := (iceServerText_eq_ok_iff element "credential" server.password).mpr
      describes.password
    exact ⟨some server.urls, urls, bind_eq_ok_iff.mpr ⟨server.username, username,
      bind_eq_ok_iff.mpr ⟨server.password, password, rfl⟩⟩⟩

/-- It appends nothing exactly for a skipped element. -/
theorem iceServer_eq_ok_none_iff (element : Json) :
    iceServer element = .ok none ↔ ¬ element.Considered := by
  rw [← skippedServer_iff]
  constructor
  · intro skips
    by_contra considered
    obtain ⟨-, someUrls⟩ := iceServerUrls_of_not_skipped considered
    unfold iceServer at skips
    obtain ⟨found, urlsOk, rest⟩ := bind_eq_ok_iff.mp skips
    obtain ⟨urls, rfl⟩ := Option.isSome_iff_exists.mp (someUrls found urlsOk)
    obtain ⟨username, -, rest⟩ := bind_eq_ok_iff.mp rest
    obtain ⟨password, -, same⟩ := bind_eq_ok_iff.mp rest
    cases same
  · exact iceServer_of_skipped

/-- The loop appends one server for each considered element, in order. -/
theorem appendIceServers_eq_ok_iff (before result : List IceServer) (elements : List Json) :
    appendIceServers before elements = .ok result ↔
      ∃ servers, result = before ++ servers ∧ DescribedServers elements servers := by
  induction elements generalizing before with
  | nil =>
      rw [appendIceServers, Except.ok.injEq]
      constructor
      · rintro rfl
        exact ⟨[], (List.append_nil before).symm, .nil⟩
      · rintro ⟨servers, rfl, described⟩
        cases described
        exact (List.append_nil before).symm
  | cons element rest inductionHypothesis =>
      rw [appendIceServers, bind_eq_ok_iff]
      constructor
      · rintro ⟨found, bodyOk, later⟩
        cases found with
        | none =>
            obtain ⟨servers, rfl, described⟩ := (inductionHypothesis before).mp later
            exact ⟨servers, rfl, .skipped ((iceServer_eq_ok_none_iff element).mp bodyOk) described⟩
        | some server =>
            obtain ⟨servers, rfl, described⟩ := (inductionHypothesis (before ++ [server])).mp later
            have first := (iceServer_eq_ok_some_iff element server).mp bodyOk
            exact ⟨server :: servers, List.append_assoc .., .server first described⟩
      · rintro ⟨servers, rfl, described⟩
        cases described with
        | skipped passedOver others =>
            exact ⟨none, (iceServer_eq_ok_none_iff element).mpr passedOver,
              (inductionHypothesis before).mpr ⟨servers, rfl, others⟩⟩
        | @server _ _ server servers first others =>
            refine ⟨some server, (iceServer_eq_ok_some_iff element server).mpr first, ?_⟩
            exact (inductionHypothesis _).mpr ⟨servers, List.append_cons .., others⟩

private theorem illTyped_iff (element : Json) : element.IllTyped ↔ ¬ element.WellTypedServer := by
  have texts (key : String) : ¬ element.TextMember key ↔
      ∃ value, element.Member key value ∧ ∀ text, value ≠ .string text := by
    simp only [Json.TextMember, member_iff, ← isString_eq_false_iff]
    cases element.find key <;> simp
  have urls : ¬ element.UrlsAreStrings ↔ ∃ urls, element.Member "urls" (.array urls) ∧
      ∃ url ∈ urls, ∀ text, url ≠ .string text := by
    simp only [Json.UrlsAreStrings, member_iff, ← isString_eq_false_iff]
    cases element.find "urls" with
    | none => simp
    | some value => cases value <;> simp
  constructor
  · intro illTyped wellTyped
    cases illTyped with
    | url members member found inside noString =>
        exact urls.mpr ⟨members, found, member, inside, noString⟩ wellTyped.urls
    | username value found noString =>
        exact (texts "username").mpr ⟨value, found, noString⟩ wellTyped.username
    | credential value found noString =>
        exact (texts "credential").mpr ⟨value, found, noString⟩ wellTyped.credential
  · intro notWellTyped
    by_cases urlsTyped : element.UrlsAreStrings
    · by_cases usernameTyped : element.TextMember "username"
      · have credential : ¬ element.TextMember "credential" := fun credentialTyped =>
          notWellTyped ⟨urlsTyped, usernameTyped, credentialTyped⟩
        obtain ⟨value, found, noString⟩ := (texts "credential").mp credential
        exact .credential value found noString
      · obtain ⟨value, found, noString⟩ := (texts "username").mp usernameTyped
        exact .username value found noString
    · obtain ⟨members, found, member, inside, noString⟩ := urls.mp urlsTyped
      exact .url members member found inside noString

/-! ### The exact result -/

structure OptionsCall where
  iceServers : Option String
  iceTransportPolicy : IceTransportPolicy
deriving DecidableEq, Repr

/-- The options with another transport policy and other servers. -/
def PcOptions.replaced (base : PcOptions) (type : IceTransportsType) (servers : List IceServer) :
    PcOptions :=
  { base with config := { base.config with type := type, servers := servers } }

/-- The text is not JSON, or describes a considered server wrongly. -/
def RejectedText (parse : Bytes → Except CppException Json) (text : String) : Prop :=
  (∃ raised, parse (utf8Bytes text) = .error raised) ∨
    ∃ json elements, parse (utf8Bytes text) = .ok json ∧ json.Visits elements ∧
      ∃ element ∈ elements, element.Considered ∧ element.IllTyped

/-- The outcome of a call: it throws exactly for a rejected text; else it has the
native form of the policy, the servers of the base where no text is given, and
where one is given the servers its elements describe. -/
structure ExactOptions (parse : Bytes → Except CppException Json)
    (nativeTransportsType : IceTransportPolicy → IceTransportsType) (base : PcOptions)
    (call : OptionsCall) (outcome : Except CppException PcOptions) : Prop where
  throws : (∃ raised, outcome = .error raised) ↔ ∃ text ∈ call.iceServers, RejectedText parse text
  kept : call.iceServers = none →
    outcome = .ok
      (base.replaced (nativeTransportsType call.iceTransportPolicy) base.config.servers)
  replaced : ∀ text ∈ call.iceServers, ∀ options, outcome = .ok options →
    ∃ json elements servers, parse (utf8Bytes text) = .ok json ∧ json.Visits elements ∧
      DescribedServers elements servers ∧
      options = base.replaced (nativeTransportsType call.iceTransportPolicy) servers

private theorem rejectedText_iff {parse : Bytes → Except CppException Json} {text : String}
    (nulFree : 0 ∉ utf8Bytes text) :
    RejectedText parse text ↔ ¬ IceServersAccepted parse text := by
  have bytes : stdString text = utf8Bytes text := (stdString_eq_utf8Bytes_iff text).mpr nulFree
  unfold RejectedText IceServersAccepted
  rw [bytes]
  cases parse (utf8Bytes text) with
  | error raised => simp
  | ok json =>
      simp [visits_iff, illTyped_iff, skippedServer_iff]

private theorem exactOptions_pcOptionsWithICEServers (parse : Bytes → Except CppException Json)
    (nativeTransportsType : IceTransportPolicy → IceTransportsType) (base : PcOptions)
    (call : OptionsCall)
    (nulFree : ∀ text ∈ call.iceServers, 0 ∉ utf8Bytes text) :
    ExactOptions parse nativeTransportsType base call
      (pcOptionsWithICEServers parse nativeTransportsType base call.iceServers
        call.iceTransportPolicy) := by
  have returnsIff := returns_pcOptionsWithICEServers_iff parse nativeTransportsType base
    call.iceServers call.iceTransportPolicy
  constructor
  case throws =>
    rw [← not_returns_iff, returnsIff, not_forall₂]
    apply exists_congr
    intro text
    constructor
    · rintro ⟨given, rejected⟩
      exact ⟨given, (rejectedText_iff (nulFree text given)).mpr rejected⟩
    · rintro ⟨given, rejected⟩
      exact ⟨given, (rejectedText_iff (nulFree text given)).mp rejected⟩
  case kept =>
    intro absent
    rw [absent]
    rfl
  case replaced =>
    intro text given options returned
    have bytes : stdString text = utf8Bytes text :=
      (stdString_eq_utf8Bytes_iff text).mpr (nulFree text given)
    rw [Option.mem_def.mp given] at returned
    simp only [pcOptionsWithICEServers, bytes] at returned
    obtain ⟨json, parsed, rest⟩ := bind_eq_ok_iff.mp returned
    obtain ⟨servers, appended, same⟩ := bind_eq_ok_iff.mp rest
    obtain ⟨found, sameServers, described⟩ := (appendIceServers_eq_ok_iff [] servers _).mp appended
    rw [List.nil_append] at sameServers
    subst sameServers
    cases same
    exact ⟨json, json.elements, servers, parsed, (visits_iff json _).mpr rfl, described, rfl⟩

/-! ### The device's own options -/

/-- The device's `*_pcOptions` and the method's local copy of it. -/
structure OptionsFrame where
  ownPcOptions : PcOptions
  pcOptions : PcOptions
deriving DecidableEq, Repr

namespace OptionsFrame

abbrev Code := Program CppException OptionsFrame

def raising {α : Type} : Except CppException α → Code α
  | .ok value => pure value
  | .error raised => Program.abort raised

/-- `Options(*_pcOptions)`. -/
def copyOptions : Code Unit :=
  Program.modify fun frame => { frame with pcOptions := frame.ownPcOptions }

def setConfig (change : RtcConfiguration → RtcConfiguration) : Code Unit :=
  Program.modify fun frame =>
    { frame with pcOptions := { frame.pcOptions with config := change frame.pcOptions.config } }

def pushServers : List Json → Code Unit
  | [] => pure ()
  | description :: rest => do
      match ← raising (iceServer description) with
      | none => pushServers rest
      | some server => do
          setConfig fun config => { config with servers := config.servers ++ [server] }
          pushServers rest

/-- The statements of `pcOptionsWithICEServers:iceTransportPolicy:`. -/
def pcOptionsWithICEServers (parse : Bytes → Except CppException Json)
    (nativeTransportsType : IceTransportPolicy → IceTransportsType) (call : OptionsCall) :
    Code PcOptions := do
  copyOptions
  setConfig fun config => { config with type := nativeTransportsType call.iceTransportPolicy }
  match call.iceServers with
  | none => pure ()
  | some text => do
      let iceServersJSON ← raising (parse (stdString text))
      setConfig fun config => { config with servers := [] }
      pushServers iceServersJSON.elements
  let frame ← Program.get
  pure frame.pcOptions

/-- The loop appends to the local copy and leaves the device's options alone. -/
theorem pushServers_apply (elements : List Json) (frame : OptionsFrame) :
    match appendIceServers frame.pcOptions.config.servers elements with
    | .ok servers => pushServers elements frame =
        (.ok (), { frame with pcOptions := { frame.pcOptions with
          config := { frame.pcOptions.config with servers := servers } } })
    | .error raised => ∃ pcOptions, pushServers elements frame =
        (.error raised, { frame with pcOptions := pcOptions }) := by
  induction elements generalizing frame with
  | nil => rfl
  | cons description rest inductionHypothesis =>
      unfold appendIceServers pushServers
      cases body : iceServer description with
      | error raised => exact ⟨frame.pcOptions, rfl⟩
      | ok found =>
          cases found with
          | none => exact inductionHypothesis frame
          | some server =>
              exact inductionHypothesis { frame with pcOptions := { frame.pcOptions with
                config := { frame.pcOptions.config with
                  servers := frame.pcOptions.config.servers ++ [server] } } }

def cleared (frame : OptionsFrame) (type : IceTransportsType) : OptionsFrame :=
  { frame with pcOptions := frame.ownPcOptions.replaced type [] }

/-- Up to the loop, a text that parses clears the servers of the copy. -/
theorem pcOptionsWithICEServers_of_parsed {parse : Bytes → Except CppException Json}
    {nativeTransportsType : IceTransportPolicy → IceTransportsType} {call : OptionsCall} {text : String}
    {json : Json} (given : call.iceServers = some text)
    (parsed : parse (stdString text) = .ok json) (frame : OptionsFrame) :
    pcOptionsWithICEServers parse nativeTransportsType call frame =
      (pushServers json.elements >>= fun _ => Program.get >>= fun frame => pure frame.pcOptions)
        (frame.cleared (nativeTransportsType call.iceTransportPolicy)) := by
  unfold pcOptionsWithICEServers
  rw [given]
  dsimp only
  rw [parsed]
  rfl

/-- The statements compute the method's result and leave the device's options
alone, also where they raise. -/
theorem pcOptionsWithICEServers_apply (parse : Bytes → Except CppException Json)
    (nativeTransportsType : IceTransportPolicy → IceTransportsType) (call : OptionsCall)
    (frame : OptionsFrame) :
    ∃ pcOptions, pcOptionsWithICEServers parse nativeTransportsType call frame =
      (MediasoupClientSwift.pcOptionsWithICEServers parse nativeTransportsType frame.ownPcOptions
          call.iceServers call.iceTransportPolicy,
        { frame with pcOptions := pcOptions }) := by
  unfold MediasoupClientSwift.pcOptionsWithICEServers
  cases given : call.iceServers with
  | none =>
      unfold pcOptionsWithICEServers
      rw [given]
      exact ⟨_, rfl⟩
  | some text =>
      cases parsed : parse (stdString text) with
      | error raised =>
          unfold pcOptionsWithICEServers
          rw [given]
          dsimp only
          rw [parsed]
          exact ⟨_, rfl⟩
      | ok json =>
          have loop := pushServers_apply json.elements
            (frame.cleared (nativeTransportsType call.iceTransportPolicy))
          rw [pcOptionsWithICEServers_of_parsed given parsed]
          cases appended : appendIceServers [] json.elements with
          | error raised =>
              simp only [cleared, PcOptions.replaced, appended] at loop
              obtain ⟨pcOptions, pushed⟩ := loop
              refine ⟨pcOptions, (Program.bind_of_error pushed).trans ?_⟩
              simp [bind, Except.bind, parsed, appended]
          | ok servers =>
              simp only [cleared, PcOptions.replaced, appended] at loop
              refine ⟨frame.ownPcOptions.replaced (nativeTransportsType call.iceTransportPolicy)
                servers, (Program.bind_of_ok loop).trans ?_⟩
              simp [bind, Except.bind, pure, Except.pure, parsed, appended, PcOptions.replaced]

def ownAfterCall (parse : Bytes → Except CppException Json)
    (nativeTransportsType : IceTransportPolicy → IceTransportsType) (own : PcOptions)
    (call : OptionsCall) : PcOptions :=
  (pcOptionsWithICEServers parse nativeTransportsType call
    { ownPcOptions := own, pcOptions := own }).2.ownPcOptions

/-- The device's own options after some calls, whether they returned or raised. -/
def ownAfterCalls (parse : Bytes → Except CppException Json)
    (nativeTransportsType : IceTransportPolicy → IceTransportsType) (own : PcOptions)
    (calls : List OptionsCall) : PcOptions :=
  calls.foldl (ownAfterCall parse nativeTransportsType) own

private theorem ownAfterCall_eq (parse : Bytes → Except CppException Json)
    (nativeTransportsType : IceTransportPolicy → IceTransportsType) (own : PcOptions)
    (call : OptionsCall) : ownAfterCall parse nativeTransportsType own call = own := by
  obtain ⟨pcOptions, applied⟩ := pcOptionsWithICEServers_apply parse nativeTransportsType call
    { ownPcOptions := own, pcOptions := own }
  rw [ownAfterCall, applied]

private theorem ownAfterCalls_eq (parse : Bytes → Except CppException Json)
    (nativeTransportsType : IceTransportPolicy → IceTransportsType) (own : PcOptions)
    (calls : List OptionsCall) : ownAfterCalls parse nativeTransportsType own calls = own := by
  induction calls with
  | nil => rfl
  | cons call rest inductionHypothesis =>
      unfold ownAfterCalls at inductionHypothesis ⊢
      rw [List.foldl_cons, ownAfterCall_eq]
      exact inductionHypothesis

end OptionsFrame

/-- A call that follows others, with whatever its local variable holds before it
is initialised. -/
def OptionsFrame.after (parse : Bytes → Except CppException Json)
    (nativeTransportsType : IceTransportPolicy → IceTransportsType) (base : PcOptions)
    (earlier : List OptionsCall) (leftover : PcOptions) : OptionsFrame where
  ownPcOptions := ownAfterCalls parse nativeTransportsType base earlier
  pcOptions := leftover

/-- After any calls the device's own options are as they were, before and after
one more call, whose outcome is exact for them. -/
theorem ice_options_exact (parse : Bytes → Except CppException Json)
    (nativeTransportsType : IceTransportPolicy → IceTransportsType) (base : PcOptions)
    (earlier : List OptionsCall) (leftover : PcOptions) (call : OptionsCall)
    (nulFree : ∀ text ∈ call.iceServers, 0 ∉ utf8Bytes text) :
    let frame := OptionsFrame.after parse nativeTransportsType base earlier leftover
    let outcome := OptionsFrame.pcOptionsWithICEServers parse nativeTransportsType call frame
    frame.ownPcOptions = base ∧ outcome.2.ownPcOptions = base ∧
      ExactOptions parse nativeTransportsType base call outcome.1 := by
  intro frame outcome
  have own : frame.ownPcOptions = base :=
    OptionsFrame.ownAfterCalls_eq parse nativeTransportsType base earlier
  obtain ⟨pcOptions, applied⟩ :=
    OptionsFrame.pcOptionsWithICEServers_apply parse nativeTransportsType call frame
  have outcomeEq : outcome = _ := applied
  rw [outcomeEq, own]
  exact ⟨rfl, rfl, exactOptions_pcOptionsWithICEServers parse nativeTransportsType base call nulFree⟩

/-- A text with four elements: one url, no urls, an url that is no string or array,
and two urls with a username and a credential. -/
def serversText : String :=
  "[\x7b\"urls\":\"stun:a\"\x7d,\x7b\"username\":\"u\"\x7d,\x7b\"urls\":null\x7d," ++
    "\x7b\"urls\":[\"turn:b\",\"turn:c\"],\"username\":\"u\",\"credential\":\"p\"\x7d]"

/-- What the parser makes of it. -/
def serversJson : Json :=
  .array [
    .object [(utf8Bytes "urls", .string (utf8Bytes "stun:a"))],
    .object [(utf8Bytes "username", .string (utf8Bytes "u"))],
    .object [(utf8Bytes "urls", .null)],
    .object [(utf8Bytes "credential", .string (utf8Bytes "p")),
      (utf8Bytes "urls", .array [.string (utf8Bytes "turn:b"), .string (utf8Bytes "turn:c")]),
      (utf8Bytes "username", .string (utf8Bytes "u"))]]

def serversParse (bytes : Bytes) : Except CppException Json :=
  if bytes = utf8Bytes serversText then .ok serversJson
  else .error { exceptionClass := .stdException, what := utf8Bytes "parse error" }

def sampleOptions : PcOptions where
  config :=
    { type := .kAll
      servers := [{ urls := [utf8Bytes "stun:own"], username := [], password := [] }]
      others := [] }
  factory := .made 0

/-- The options of a call with that text and the policy relay. -/
def sampleResult : PcOptions where
  config :=
    { type := .kRelay
      servers :=
        [{ urls := [utf8Bytes "stun:a"], username := [], password := [] },
          { urls := [utf8Bytes "turn:b", utf8Bytes "turn:c"], username := utf8Bytes "u",
            password := utf8Bytes "p" }]
      others := [] }
  factory := .made 0

/-- The call, after one that raised. -/
theorem ice_options_exact_sample :
    let policies : IceTransportPolicy → IceTransportsType := fun policy =>
      if policy = .relay then .kRelay else .kAll
    let earlier : List OptionsCall := [{ iceServers := some "[", iceTransportPolicy := .all }]
    let call : OptionsCall := { iceServers := some serversText, iceTransportPolicy := .relay }
    let frame := OptionsFrame.after serversParse policies sampleOptions earlier sampleOptions
    let outcome := OptionsFrame.pcOptionsWithICEServers serversParse policies call frame
    (frame.ownPcOptions = sampleOptions ∧ outcome.2.ownPcOptions = sampleOptions ∧
        ExactOptions serversParse policies sampleOptions call outcome.1) ∧
      outcome.1 = .ok sampleResult := by
  intro policies earlier call frame outcome
  refine ⟨?_, by decide +kernel⟩
  apply ice_options_exact
  intro text given
  obtain rfl := Option.some.inj given
  decide +kernel

end MediasoupClientSwift
