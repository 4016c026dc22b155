import Mathlib.Data.List.Basic

/-!
# The local server of the Google sign-in

For "Sign in with Google" the program opens a page in the browser and starts a server on a local
port, to which the browser is sent back with a code. `oauth_server.cc` answers the requests,
`googleflow.cc` asks Google for a token with the code, and `chromeover_login_page.cc` stops the
server when there was an error.

The server has a thread of its own. Its signals wait in the queue of the main thread, which runs
the slots of all that are waiting in one turn; a request that is answered while the slots run is one
that was answered before the turn. The requests and the turns can come in any order.

A request that does not carry the state of the session must not keep a later callback from being
served. It does: a request for `/favicon.ico` is answered with an error, and the error stops the
server (`favicon_stops_server`). The strays are without effect if and only if no turn finds the
error of one of them, unless the server is stopped for another reason by then (`straysIgnored_iff`).

## Main definitions

* `Oauth.Request`, `Oauth.answerToConnection`, `Oauth.GoogleFlow`, `Oauth.State`.
* `Oauth.step`, `Oauth.run`: the requests and the turns of the main thread.
* `Oauth.StraysIgnored`.

## Main results

* `Oauth.posted_run`: the token requests that a run leads to.
* `Oauth.daemon_run_iff`: when the server still runs.
* `Oauth.straysIgnored_iff`.
-/

namespace UsbMaker.Oauth

/-- A request, with what `MHD_lookup_connection_value` finds in its query. -/
structure Request where
  method : String
  url : String
  state : Option String
  code : Option String
  error : Option String
  deriving DecidableEq, Repr

/-- The two pages of the server. -/
inductive Page
  | gondarpage
  | errorpage
  deriving DecidableEq, Repr

/-- A response of the server, with the header `Location`. -/
structure Response where
  page : Page
  location : String
  deriving DecidableEq, Repr

/-- The signals of `OauthServer`. -/
inductive Signal
  | callbackReceived (state code : String)
  | authError (error : String)
  deriving DecidableEq, Repr

/-- `send_page`. -/
def sendPage (page : Page) (success : Bool) : Response where
  page := page
  location :=
    if success then "https://my.neverware.com/usb-maker/login-success"
    else "https://my.neverware.com/usb-maker/login-error"

/-- `handle_success`. -/
def handleSuccess (state code : String) : Signal × Response :=
  (.callbackReceived state code, sendPage .gondarpage true)

/-- `handle_fail`. -/
def handleFail (error : String) : Signal × Response := (.authError error, sendPage .errorpage false)

/-- `answer_to_connection`, for a connection that has been contacted before or not. At the first
contact nothing is answered. A null string is an empty `QString`. -/
def answerToConnection (conCls : Bool) (request : Request) : Option (Signal × Response) :=
  if !conCls then none
  else if request.method = "GET" then
    if request.url = "/" then
      let state := request.state.getD ""
      let code := request.code.getD ""
      let error := request.error.getD ""
      if state ≠ "" ∧ code ≠ "" then some (handleSuccess state code)
      else if error ≠ "" then some (handleFail error)
      else some (handleFail "unknown case error")
    else some (handleFail "non-root error")
  else some (handleFail "non-get error")

/-- The calls that microhttpd makes for a request, which stop when there is an answer. -/
def dispatch (request : Request) : Option (Signal × Response) :=
  match answerToConnection false request with
  | some answer => some answer
  | none => answerToConnection true request

/-- A `GoogleFlow`, whose `state` comes from `get_random_string`. -/
structure GoogleFlow where
  clientId : String
  clientSecret : String
  redirectUri : String
  codeVerifier : String
  state : String
  length_state : state.length = 20

/-- The JSON object of the request for a token. -/
structure TokenRequest where
  code : String
  clientId : String
  clientSecret : String
  redirectUri : String
  grantType : String
  codeVerifier : String
  deriving DecidableEq, Repr

/-- The state of the server, of the queue of the main thread and of the login page. -/
structure State where
  /-- Whether `daemon` is not null. -/
  daemon : Bool := false
  httpServerStarted : Bool := false
  /-- The addresses opened in the browser, newest first. -/
  opened : List String := []
  /-- The signals whose slots have not been run, oldest first. -/
  signals : List Signal := []
  /-- The requests for a token, oldest first. -/
  posted : List TokenRequest := []
  /-- `meanWordsLabel`, `none` while it is hidden. -/
  meanWords : Option String := none
  deriving DecidableEq, Repr

/-- `OauthServer::start`, for the result of `MHD_start_daemon`. -/
def start (starts : Bool) (s : State) : State := if s.daemon then s else { s with daemon := starts }

/-- `OauthServer::stop`. -/
def stop (s : State) : State := if s.daemon then { s with daemon := false } else s

/-- `GoogleFlow::stopServer`. -/
def stopServer (s : State) : State := { stop s with httpServerStarted := false }

section GoogleFlow

variable (flow : GoogleFlow)

/-- The address that `handleGoogleSigninPart1` opens. -/
def googleText : String :=
  "https://accounts.google.com/o/oauth2/v2/auth?client_id=" ++ flow.clientId ++
    "&redirect_uri=" ++ flow.redirectUri ++ "&response_type=code&scope=email&state=" ++
    flow.state ++ "&code_challenge_method=plain&code_challenge=" ++ flow.codeVerifier

/-- `GoogleFlow::handleGoogleSigninPart1`. -/
def handleGoogleSigninPart1 (starts : Bool) (s : State) : State :=
  let s := if s.httpServerStarted then s else start starts { s with httpServerStarted := true }
  { s with opened := googleText flow :: s.opened }

/-- The request for a token that `handleGoogleSigninPart2` posts. -/
def tokenRequest (code : String) : TokenRequest :=
  ⟨code, flow.clientId, flow.clientSecret, flow.redirectUri, "authorization_code",
    flow.codeVerifier⟩

/-- `GoogleFlow::handleGoogleSigninPart2`. -/
def handleGoogleSigninPart2 (stateIn code : String) (s : State) : State :=
  if stateIn = flow.state then { s with posted := s.posted ++ [tokenRequest flow code] } else s

/-- `ChromeoverLoginPage::handleGoogleSigninFail`. -/
def handleGoogleSigninFail (s : State) : State :=
  stopServer { s with meanWords := some "Authentication error signing in with Google" }

/-- The slot of a signal; `handleGoogleSigninError` emits `errorMiddle`, whose slot is
`handleGoogleSigninFail`. -/
def handleSignal (s : State) : Signal → State
  | .callbackReceived state code => handleGoogleSigninPart2 flow state code s
  | .authError _ => handleGoogleSigninFail s

/-- What can happen. -/
inductive Event
  /-- A request is sent to the port. -/
  | request (request : Request)
  /-- The main thread runs the slots that are waiting. -/
  | turn
  deriving DecidableEq, Repr

/-- The response to a request, `none` when there is no server, and the state after it. -/
def serve (request : Request) (s : State) : Option Response × State :=
  if s.daemon then
    match dispatch request with
    | none => (none, s)
    | some (signal, response) => (some response, { s with signals := s.signals ++ [signal] })
  else (none, s)

def step (s : State) : Event → State
  | .request request => (serve request s).2
  | .turn => s.signals.foldl (handleSignal flow) { s with signals := [] }

def run (events : List Event) (s : State) : State := events.foldl (step flow) s

/-! ### What is answered -/

/-- The requests that are answered with `handle_success`. -/
def Request.Accepted (request : Request) : Prop :=
  request.method = "GET" ∧ request.url = "/" ∧ request.state.getD "" ≠ "" ∧
    request.code.getD "" ≠ ""

instance (request : Request) : Decidable request.Accepted :=
  inferInstanceAs (Decidable (_ ∧ _))

/-- The requests that carry the state of the session, which is looked for where the browser is sent
back to. The others are strays. -/
def Request.Carries (request : Request) : Prop :=
  request.method = "GET" ∧ request.url = "/" ∧ request.state = some flow.state

instance (request : Request) : Decidable (request.Carries flow) :=
  inferInstanceAs (Decidable (_ ∧ _))

/-- The genuine callbacks of a session. -/
def Request.Genuine (request : Request) : Prop :=
  request.Carries flow ∧ request.code.getD "" ≠ ""

instance (request : Request) : Decidable (request.Genuine flow) :=
  inferInstanceAs (Decidable (_ ∧ _))

variable {flow}

theorem dispatch_of_accepted {request : Request} (h : request.Accepted) :
    dispatch request =
      some (handleSuccess (request.state.getD "") (request.code.getD "")) := by
  obtain ⟨hmethod, hurl, hstate, hcode⟩ := h
  simp [dispatch, answerToConnection, hmethod, hurl, hstate, hcode]

theorem dispatch_of_not_accepted {request : Request} (h : ¬ request.Accepted) :
    ∃ error, dispatch request = some (handleFail error) := by
  simp only [dispatch, answerToConnection, Bool.not_false, if_true, Bool.not_true,
    Bool.false_eq_true, if_false]
  split
  · rename_i hmethod
    split
    · rename_i hurl
      split
      · rename_i hargs
        exact absurd ⟨hmethod, hurl, hargs.1, hargs.2⟩ h
      · split
        · exact ⟨_, rfl⟩
        · exact ⟨_, rfl⟩
    · exact ⟨_, rfl⟩
  · exact ⟨_, rfl⟩

theorem state_ne_empty (flow : GoogleFlow) : flow.state ≠ "" := by
  intro h
  have hlen := flow.length_state
  rw [h] at hlen
  exact absurd hlen (by decide)

theorem Request.Genuine.accepted {request : Request} (h : request.Genuine flow) :
    request.Accepted := by
  obtain ⟨⟨hmethod, hurl, hstate⟩, hcode⟩ := h
  refine ⟨hmethod, hurl, ?_, hcode⟩
  rw [hstate]
  exact state_ne_empty flow

/-- An accepted request is genuine when it carries the state of the session. -/
theorem Request.Accepted.genuine_iff {request : Request} (h : request.Accepted) :
    request.Genuine flow ↔ request.state.getD "" = flow.state := by
  obtain ⟨hmethod, hurl, hstate, hcode⟩ := h
  constructor
  · rintro ⟨⟨-, -, hflow⟩, -⟩
    rw [hflow]
    rfl
  · intro hflow
    refine ⟨⟨hmethod, hurl, ?_⟩, hcode⟩
    cases hs : request.state with
    | none => exact absurd (by rw [hs]; rfl) hstate
    | some state =>
      rw [hs] at hflow
      exact congrArg some hflow

variable (flow)

/-! ### What is posted -/

/-- The request for a token that a signal leads to. -/
def Signal.token : Signal → Option TokenRequest
  | .callbackReceived state code =>
    if state = flow.state then some (tokenRequest flow code) else none
  | .authError _ => none

/-- The request for a token that a request should lead to. -/
def Request.token (request : Request) : Option TokenRequest :=
  if request.Genuine flow then some (tokenRequest flow (request.code.getD "")) else none

/-- The requests of a list of events that find the server running. -/
def served : List Event → State → List Request
  | [], _ => []
  | .request request :: events, s =>
    let rest := served events (step flow s (.request request))
    if s.daemon then request :: rest else rest
  | .turn :: events, s => served events (step flow s .turn)

/-- A request leads to the signal with the token that it should lead to. -/
theorem serve_of_daemon {s : State} (hs : s.daemon = true) (request : Request) :
    ∃ signal response, serve request s =
        (some response, { s with signals := s.signals ++ [signal] }) ∧
      signal.token flow = request.token flow ∧
      ((∃ error, signal = .authError error) ↔ ¬ request.Accepted) := by
  by_cases hacc : request.Accepted
  · refine ⟨.callbackReceived (request.state.getD "") (request.code.getD ""),
      sendPage .gondarpage true, ?_, ?_, ?_⟩
    · simp [serve, hs, dispatch_of_accepted hacc, handleSuccess]
    · simp only [Signal.token, Request.token, hacc.genuine_iff]
    · simp [hacc]
  · obtain ⟨error, herror⟩ := dispatch_of_not_accepted hacc
    refine ⟨.authError error, sendPage .errorpage false, ?_, ?_, ?_⟩
    · simp [serve, hs, herror, handleFail]
    · have hnot : ¬ request.Genuine flow := fun h => hacc h.accepted
      simp only [Signal.token, Request.token, if_neg hnot]
    · simp [hacc]

theorem serve_of_not_daemon {s : State} (hs : s.daemon = false) (request : Request) :
    serve request s = (none, s) := by
  simp [serve, hs]

/-- What the slot of one signal does. -/
theorem handleSignal_spec (s : State) (signal : Signal) :
    (handleSignal flow s signal).posted = s.posted ++ (signal.token flow).toList ∧
      (handleSignal flow s signal).signals = s.signals ∧
      ((handleSignal flow s signal).daemon = true ↔
        s.daemon = true ∧ ∀ error, .authError error ≠ signal) := by
  cases signal with
  | callbackReceived state code =>
    by_cases hstate : state = flow.state
    · simp [handleSignal, handleGoogleSigninPart2, Signal.token, hstate]
    · simp [handleSignal, handleGoogleSigninPart2, Signal.token, hstate]
  | authError error =>
    cases hs : s.daemon <;>
      simp [handleSignal, handleGoogleSigninFail, stopServer, stop, Signal.token, hs]

/-- What the slots of a list of signals do. -/
theorem foldl_handleSignal (signals : List Signal) (s : State) :
    (signals.foldl (handleSignal flow) s).posted =
        s.posted ++ signals.filterMap (Signal.token flow) ∧
      (signals.foldl (handleSignal flow) s).signals = s.signals ∧
      ((signals.foldl (handleSignal flow) s).daemon = true ↔
        s.daemon = true ∧ ∀ error, .authError error ∉ signals) := by
  induction signals generalizing s with
  | nil => simp
  | cons signal signals ih =>
    obtain ⟨hposted, hsignals, hdaemon⟩ := handleSignal_spec flow s signal
    obtain ⟨ihposted, ihsignals, ihdaemon⟩ := ih (handleSignal flow s signal)
    rw [List.foldl_cons]
    refine ⟨?_, ihsignals.trans hsignals, ?_⟩
    · rw [ihposted, hposted, List.append_assoc]
      cases htoken : signal.token flow <;> simp [htoken]
    · rw [ihdaemon, hdaemon, and_assoc, ← forall_and]
      simp only [List.mem_cons, not_or, ne_eq]

/-- A turn posts a request for a token for every signal with the state of the session. -/
theorem posted_turn (s : State) :
    (step flow s .turn).posted = s.posted ++ s.signals.filterMap (Signal.token flow) :=
  (foldl_handleSignal flow s.signals _).1

theorem signals_turn (s : State) : (step flow s .turn).signals = [] :=
  (foldl_handleSignal flow s.signals _).2.1

/-- The server still runs after a turn if there was no error among the signals. -/
theorem daemon_turn_iff (s : State) :
    (step flow s .turn).daemon = true ↔
      s.daemon = true ∧ ∀ error, .authError error ∉ s.signals :=
  (foldl_handleSignal flow s.signals _).2.2

/-- **The requests for a token.** When the slots have run, they are those of the genuine callbacks
that were served, in their order. -/
theorem posted_run (events : List Event) (s : State) :
    (step flow (run flow events s) .turn).posted =
      (step flow s .turn).posted ++ (served flow events s).filterMap (Request.token flow) := by
  induction events generalizing s with
  | nil => simp [run, served]
  | cons event events ih =>
    rw [run, List.foldl_cons, ← run, ih]
    cases event with
    | turn =>
      have hturn : (step flow (step flow s .turn) .turn).posted = (step flow s .turn).posted := by
        rw [posted_turn, signals_turn, List.filterMap_nil, List.append_nil]
      rw [hturn, served]
    | request request =>
      rw [served]
      cases hs : s.daemon with
      | false =>
        have hstep : step flow s (.request request) = s := by
          rw [step, serve_of_not_daemon hs]
        simp only [hstep, Bool.false_eq_true, if_false]
      | true =>
        obtain ⟨signal, response, hserve, htoken, -⟩ := serve_of_daemon flow hs request
        have hposted : (step flow (step flow s (.request request)) .turn).posted =
            (step flow s .turn).posted ++ (request.token flow).toList := by
          rw [posted_turn, posted_turn, step, hserve, ← htoken, List.append_assoc]
          cases hsignal : signal.token flow <;> simp [hsignal]
        rw [hposted, List.append_assoc]
        simp only [if_true]
        cases hrequest : request.token flow <;> simp [hrequest]

/-! ### Whether the server still runs -/

/-- The requests that are followed by a turn. -/
def settled : List Event → List Request
  | [] => []
  | .request request :: events =>
    if .turn ∈ events then request :: settled events else settled events
  | .turn :: events => settled events

/-- The server still runs after a list of events if and only if it ran before, no error was waiting
for a turn, and every request that is followed by a turn is accepted. -/
theorem daemon_run_iff (events : List Event) (s : State) :
    (run flow events s).daemon = true ↔
      s.daemon = true ∧ (.turn ∈ events → ∀ error, .authError error ∉ s.signals) ∧
        ∀ request ∈ settled events, request.Accepted := by
  induction events generalizing s with
  | nil => simp [run, settled]
  | cons event events ih =>
    rw [run, List.foldl_cons, ← run, ih]
    cases event with
    | turn =>
      rw [daemon_turn_iff, signals_turn, settled]
      simp [and_assoc]
    | request request =>
      cases hs : s.daemon with
      | false =>
        have hstep : step flow s (.request request) = s := by
          rw [step, serve_of_not_daemon hs]
        simp [hstep, hs]
      | true =>
        obtain ⟨signal, response, hserve, -, hsignal⟩ := serve_of_daemon flow hs request
        have hstep : step flow s (.request request) =
            { s with signals := s.signals ++ [signal] } := by
          rw [step, hserve]
        have herrors : (∀ error, .authError error ∉ s.signals ++ [signal]) ↔
            (∀ error, .authError error ∉ s.signals) ∧ request.Accepted := by
          rw [← not_not (a := request.Accepted), ← hsignal]
          simp [not_or, forall_and, eq_comm]
        rw [hstep, herrors]
        by_cases hturn : .turn ∈ events
        · simp [hs, hturn, settled, and_assoc]
        · simp [hs, hturn, settled]

/-- A genuine callback is served with the page for the success, and the turn after it posts its
request for a token last. -/
def LeadsToToken (s : State) (request : Request) : Prop :=
  (serve request s).1 = some (sendPage .gondarpage true) ∧
    (step flow (serve request s).2 .turn).posted =
      (step flow s .turn).posted ++ [tokenRequest flow (request.code.getD "")]

theorem leadsToToken_iff {request : Request} (h : request.Genuine flow) (s : State) :
    LeadsToToken flow s request ↔ s.daemon = true := by
  cases hs : s.daemon with
  | false => simp [LeadsToToken, serve_of_not_daemon hs]
  | true =>
    have hserve : serve request s = (some (sendPage .gondarpage true), { s with
        signals := s.signals ++ [.callbackReceived flow.state (request.code.getD "")] }) := by
      have hstate : request.state.getD "" = flow.state := h.accepted.genuine_iff.mp h
      simp [serve, hs, dispatch_of_accepted h.accepted, handleSuccess, hstate]
    refine iff_of_true ⟨by rw [hserve], ?_⟩ rfl
    rw [hserve, posted_turn, posted_turn]
    simp [Signal.token]

/-! ### Strays -/

/-- The events that are left when there are no strays. -/
def Event.own : Event → Bool
  | .request r => r.Carries flow
  | .turn => true

theorem turn_mem_filter (events : List Event) :
    .turn ∈ events.filter (Event.own flow) ↔ .turn ∈ events := by
  simp [Event.own]

theorem settled_filter (events : List Event) :
    settled (events.filter (Event.own flow)) =
      (settled events).filter fun request => request.Carries flow := by
  induction events with
  | nil => rfl
  | cons event events ih =>
    cases event with
    | turn => exact ih
    | request request =>
      by_cases hcarries : request.Carries flow
      · have hown : Event.own flow (.request request) = true := decide_eq_true hcarries
        rw [List.filter_cons_of_pos hown, settled, settled, ih]
        simp only [turn_mem_filter]
        split
        · rw [List.filter_cons_of_pos (by simpa using hcarries)]
        · rfl
      · have hown : ¬ Event.own flow (.request request) = true := by
          simpa [Event.own] using hcarries
        rw [List.filter_cons_of_neg hown, settled, ih]
        split
        · rw [List.filter_cons_of_neg (by simpa using hcarries)]
        · rfl

/-- At every point of the run the requests for a token are those of the genuine callbacks that were
served, and a genuine callback is served and leads to its request for a token just as it does when
the strays have not been sent. -/
structure StraysIgnored (events : List Event) (s : State) : Prop where
  posted : ∀ before, before <+: events → (step flow (run flow before s) .turn).posted =
    (step flow s .turn).posted ++ (served flow before s).filterMap (Request.token flow)
  callback : ∀ before, before <+: events → ∀ request : Request, request.Genuine flow →
    (LeadsToToken flow (run flow before s) request ↔
      LeadsToToken flow (run flow (before.filter (Event.own flow)) s) request)

/-- A genuine callback. -/
def genuine : Request := ⟨"GET", "/", some flow.state, some "code", none⟩

theorem straysIgnored_iff_daemon (events : List Event) (s : State) :
    StraysIgnored flow events s ↔
      ∀ before, before <+: events → ((run flow before s).daemon = true ↔
        (run flow (before.filter (Event.own flow)) s).daemon = true) := by
  constructor
  · intro h before hbefore
    have hgenuine : (genuine flow).Genuine flow := ⟨⟨rfl, rfl, rfl⟩, by simp [genuine]⟩
    have hcallback := h.callback before hbefore (genuine flow) hgenuine
    rwa [leadsToToken_iff flow hgenuine, leadsToToken_iff flow hgenuine] at hcallback
  · intro h
    refine ⟨fun before _ => posted_run flow before s, fun before hbefore request hrequest => ?_⟩
    rw [leadsToToken_iff flow hrequest, leadsToToken_iff flow hrequest]
    exact h before hbefore

theorem daemon_handleGoogleSigninPart1 (starts : Bool) (s : State) :
    (handleGoogleSigninPart1 flow starts s).daemon = true ↔
      s.daemon = true ∨ s.httpServerStarted = false ∧ starts = true := by
  cases hstarted : s.httpServerStarted <;> cases hs : s.daemon <;>
    simp [handleGoogleSigninPart1, start, hstarted, hs]

theorem signals_handleGoogleSigninPart1 (starts : Bool) (s : State) :
    (handleGoogleSigninPart1 flow starts s).signals = s.signals := by
  cases hstarted : s.httpServerStarted <;> cases hs : s.daemon <;>
    simp [handleGoogleSigninPart1, start, hstarted, hs]

/-- The strays do not stop the server if and only if, when it runs, no error is left from before
that a turn finds, and all requests with the state of the session that are followed by a turn are
accepted, then so are the strays that are followed by a turn. -/
theorem daemon_filter_iff (s : State) (events : List Event) :
    ((run flow events s).daemon = true ↔
        (run flow (events.filter (Event.own flow)) s).daemon = true) ↔
      (s.daemon = true → (.turn ∈ events → ∀ error, .authError error ∉ s.signals) →
        (∀ request ∈ settled events, request.Carries flow → request.Accepted) →
        ∀ request ∈ settled events, ¬ request.Carries flow → request.Accepted) := by
  have hsplit : (∀ request ∈ settled events, request.Accepted) ↔
      (∀ request ∈ settled events, request.Carries flow → request.Accepted) ∧
        ∀ request ∈ settled events, ¬ request.Carries flow → request.Accepted := by
    constructor
    · exact fun h => ⟨fun request hmem _ => h request hmem, fun request hmem _ => h request hmem⟩
    · rintro ⟨hown, hstray⟩ request hmem
      by_cases hcarries : request.Carries flow
      · exact hown request hmem hcarries
      · exact hstray request hmem hcarries
  rw [daemon_run_iff, daemon_run_iff, turn_mem_filter, settled_filter, hsplit]
  simp only [List.mem_filter, decide_eq_true_eq, and_imp]
  tauto

/-- **The condition under which strays are ignored.** For every session and every sequence of
requests and turns after `handleGoogleSigninPart1`, at every point of it: if the server was started,
no error was left from before that a turn has found, and all requests with the state of the session
that have been followed by a turn are accepted, then so are the strays that have been. -/
theorem straysIgnored_iff (starts : Bool) (s : State) (events : List Event) :
    StraysIgnored flow events (handleGoogleSigninPart1 flow starts s) ↔
      ((s.daemon = true ∨ s.httpServerStarted = false ∧ starts = true) →
        ∀ before, before <+: events → (.turn ∈ before → ∀ error, .authError error ∉ s.signals) →
          (∀ request ∈ settled before, request.Carries flow → request.Accepted) →
          ∀ request ∈ settled before, ¬ request.Carries flow → request.Accepted) := by
  rw [straysIgnored_iff_daemon]
  simp only [daemon_filter_iff, daemon_handleGoogleSigninPart1, signals_handleGoogleSigninPart1]
  exact ⟨fun h hstarted before hbefore => h before hbefore hstarted,
    fun h before hbefore hstarted => h hstarted before hbefore⟩

end GoogleFlow

/-- A session. -/
def session : GoogleFlow :=
  ⟨"id", "secret", "http://127.0.0.1:4000", "verifier", "AAAAAAAAAAAAAAAAAAAA", by decide⟩

/-- A request of the browser for an icon. -/
def favicon : Request := ⟨"GET", "/favicon.ico", none, none, none⟩

/-- The state after `handleGoogleSigninPart1` has started the server. -/
def started : State := handleGoogleSigninPart1 session true {}

/-- After a request for an icon the genuine callback is no longer served. -/
theorem favicon_stops_server :
    (serve (genuine session) (run session [.request favicon, .turn] started)).1 = none ∧
      (serve (genuine session) (run session [.turn] started)).1 =
        some (sendPage .gondarpage true) ∧
      ¬ StraysIgnored session [.request favicon, .turn] started := by
  have hwithout : LeadsToToken session (run session [.turn] started) (genuine session) := by
    constructor <;> decide +kernel
  have hwith : (serve (genuine session) (run session [.request favicon, .turn] started)).1 =
      none := by
    decide +kernel
  refine ⟨hwith, hwithout.1, fun h => ?_⟩
  have hserved :=
    ((h.callback _ List.prefix_rfl (genuine session) (by decide)).mpr hwithout).1
  rw [hwith] at hserved
  cases hserved

end UsbMaker.Oauth
