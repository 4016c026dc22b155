import UsbMaker.Data
import UsbMaker.Run.Machine

/-!
# Logging in and collecting sites: `Meepo` and the login page

`Meepo` (`meepo.cc`) logs a user in, asks for the pages of the user's sites one after the other
and, for the sites it knows, for their download links. All of this is asynchronous: a handler posts
requests on one `QNetworkAccessManager` and returns, and `dispatchReply` is called for each reply
when it arrives, in whatever order. The replies carry the URL of their request and nothing else.

The model is in two parts. `Meepo` has the members of the class, and its handlers return an
`Outcome`: the members after the call, the requests posted and the signals emitted, in order. A
`Session` adds the network and the login page (`ChromeoverLoginPage`): the requests in flight, the
page's flags, and a history of what was posted, answered and emitted.

What the server answers is a `Server`. The pages of an account are numbered from one and the
pagination of a reply is correct. A request is identified by its path and token; that `path()`
leads `dispatchReply` to the handler of the request is part of the model. Each request in flight is
tagged with the login attempt from which it descends; no handler reads the tag.

## Main definitions

* `Server`, `Request`, `Signal`.
* `Meepo` and its handlers `handleAuthReply`, `handleSitesReply`, `handleDownloadsReply`,
  `handleMetricsReply`, `dispatchReply`, `fail`.
* `Session`, `Session.machine`: the login page, the network and `Meepo`.
-/

namespace UsbMaker

/-- What a login attempt is started with: `start(auth)` or `startGoogle(id_token)`. -/
inductive Credentials
  | password (user password : String)
  | google (idToken : String)
  deriving DecidableEq, Repr

/-- An element of the array `sites` of a sites reply. -/
structure SiteEntry where
  siteId : Int
  name : String
  deriving DecidableEq, Repr

/-- The object `links` of a downloads reply: for each product, in the order of its keys, the title
and the URL of each image. -/
abbrev Links := List (String × List (String × Url))

/-- The images of a downloads reply, in the order in which they are added. -/
def Links.images (links : Links) : List GondarImage :=
  links.flatMap fun product =>
    product.2.map fun image => ⟨product.1, image.1, image.2⟩

/-- What the server answers. -/
structure Server where
  /-- The `api_token` of an auth reply. -/
  apiToken : Credentials → String
  /-- The pages of sites of the account behind a token. -/
  pages : String → List (List SiteEntry)
  /-- The `links` of a site. -/
  links : String → Int → Links

/-- The page of sites with the given number, counted from one. -/
def Server.page (S : Server) (token : String) (page : Nat) : List SiteEntry :=
  ((S.pages token)[page - 1]?).getD []

/-- A request, by its path and the token in its query. -/
inductive Request
  | auth (credentials : Credentials)
  | sites (token : String) (page : Nat)
  | downloads (token : String) (siteId : Int)
  | activity (token : String)
  deriving DecidableEq, Repr

/-- The signals of `Meepo`. -/
inductive Signal
  | finished
  | failed (googleMode : Bool)
  deriving DecidableEq, Repr

/-- The members of `Meepo`. -/
structure Meepo where
  apiToken : String := ""
  sites : List GondarSite := []
  error : String := ""
  sitesRemaining : Int := 0
  googleMode : Bool := false
  deriving DecidableEq, Repr

/-- What a handler does: the members after it, the requests posted and the signals emitted. -/
structure Outcome where
  meepo : Meepo
  posts : List Request := []
  signals : List Signal := []
  deriving DecidableEq, Repr

/-- `Meepo::no_sites_error`. -/
def noSitesError : String :=
  "User has no sites.  Please visit <a href=\"https://try.neverware.com\">" ++
    "try.neverware.com</a> for a trial."

namespace Meepo

/-- `Meepo::clear`. -/
def clear (m : Meepo) : Meepo :=
  { m with apiToken := "", sites := [], error := "", sitesRemaining := 0 }

/-- `Meepo::start` and `Meepo::startGoogle`. -/
def start (m : Meepo) (credentials : Credentials) : Outcome :=
  let googleMode := match credentials with
    | .password _ _ => false
    | .google _ => true
  { meepo := clear { m with googleMode := googleMode }, posts := [.auth credentials] }

/-- `Meepo::fail`. -/
def fail (m : Meepo) (error : String) : Outcome :=
  { meepo := { m with error := error }, signals := [.failed m.googleMode] }

/-- `Meepo::handleAuthReply`. -/
def handleAuthReply (m : Meepo) (apiToken : String) : Outcome :=
  let m := { m with apiToken := apiToken }
  if apiToken = "" then m.fail "invalid API token"
  else { meepo := m, posts := [.sites apiToken 1] }

/-- `sitesFromReply`. -/
def sitesFromReply (rawSites : List SiteEntry) : List GondarSite :=
  rawSites.map fun entry => { siteId := entry.siteId, siteName := entry.name }

/-- `getNextPage`: the number of the next page, zero on the last one. -/
def getNextPage (current total : Nat) : Nat :=
  if current < total then current + 1 else 0

/-- `Meepo::handleSitesReply`. The sites of the reply are added to those of earlier pages, and
downloads are requested for all of them. -/
def handleSitesReply (m : Meepo) (rawSites : List SiteEntry) (current total : Nat) : Outcome :=
  let sites := m.sites ++ sitesFromReply rawSites
  let m := { m with sites := sites, sitesRemaining := m.sitesRemaining + sites.length }
  if m.sitesRemaining = 0 then m.fail noSitesError
  else
    let nextPage := getNextPage current total
    { meepo := m
      posts := sites.map (fun site => .downloads m.apiToken site.siteId) ++
        if 0 < nextPage then [.sites m.apiToken nextPage] else [] }

/-- `Meepo::siteFromSiteId`: the position of the first site with the id. -/
def siteFromSiteId (m : Meepo) (siteId : Int) : Option Nat :=
  m.sites.findIdx? fun site => site.siteId = siteId

/-- `Meepo::handleDownloadsReply`, for the site id found in the URL of the reply; `-1` stands for
a missing id. -/
def handleDownloadsReply (m : Meepo) (siteId : Int) (links : Links) : Outcome :=
  if siteId = -1 then m.fail "missing site ID"
  else
    match m.siteFromSiteId siteId with
    | none => m.fail "site not found"
    | some i =>
      let m := { m with
        sites := m.sites.modify i fun site => links.images.foldl GondarSite.addImage site
        sitesRemaining := m.sitesRemaining - 1 }
      { meepo := m, signals := if m.sitesRemaining = 0 then [.finished] else [] }

/-- `Meepo::handleMetricsReply` only logs. -/
def handleMetricsReply (m : Meepo) : Outcome := { meepo := m }

/-- `Meepo::dispatchReply` on the server's reply to a request, which may be a network error. -/
def dispatchReply (S : Server) (m : Meepo) (request : Request) (ok : Bool) : Outcome :=
  if !ok then m.fail "network error"
  else
    match request with
    | .auth credentials => m.handleAuthReply (S.apiToken credentials)
    | .sites token page =>
      m.handleSitesReply (S.page token page) page (S.pages token).length
    | .downloads token siteId => m.handleDownloadsReply siteId (S.links token siteId)
    | .activity _ => m.handleMetricsReply

/-- `Meepo::sendMetric`. -/
def sendMetric (m : Meepo) : Outcome := { meepo := m, posts := [.activity m.apiToken] }

end Meepo

/-- A request in flight, with the login attempt from which it descends. -/
structure Pending where
  request : Request
  attempt : Nat
  deriving DecidableEq, Repr

/-- The login page, `Meepo` and the network. -/
structure Session where
  meepo : Meepo := {}
  /-- `ChromeoverLoginPage::started`. -/
  started : Bool := false
  /-- `ChromeoverLoginPage::finished`. -/
  finished : Bool := false
  /-- The number of login attempts so far. -/
  attempt : Nat := 0
  pending : List Pending := []
  /-- Every request posted, oldest first. -/
  posted : List Request := []
  /-- Every request whose reply has been dispatched, oldest first. -/
  answered : List Request := []
  /-- Every signal emitted, oldest first. -/
  signals : List Signal := []
  deriving DecidableEq, Repr

namespace Session

/-- The slots of the login page, `handleMeepoFinished` and `handleMeepoFailed`, as far as they
change its flags. -/
def handleSignal (s : Session) : Signal → Session
  | .finished => { s with finished := true }
  | .failed _ =>
    if s.meepo.error = noSitesError then { s with finished := true }
    else { s with started := false }

/-- What remains after a handler of `Meepo` has run on behalf of an attempt. -/
def apply (s : Session) (attempt : Nat) (o : Outcome) : Session :=
  o.signals.foldl handleSignal
    { s with
      meepo := o.meepo
      pending := s.pending ++ o.posts.map fun request => ⟨request, attempt⟩
      posted := s.posted ++ o.posts
      signals := s.signals ++ o.signals }

/-- A login attempt starts. -/
def begin (s : Session) (credentials : Credentials) : Session :=
  { s with attempt := s.attempt + 1 }.apply (s.attempt + 1) (s.meepo.start credentials)

/-- `ChromeoverLoginPage::validatePage` and `ChromeoverLoginPage::handleGoogleSigninFinished`: an
attempt starts unless one is under way. A login that has finished lets `validatePage` return before
it starts another. -/
def login (s : Session) (credentials : Credentials) : Session :=
  match credentials with
  | .password _ _ =>
    if s.finished then s
    else if s.started then s
    else { s.begin credentials with started := true }
  | .google _ => if s.started then s else { s.begin credentials with started := true }

/-- The reply to a request in flight arrives. -/
def deliver (S : Server) (s : Session) (p : Pending) (ok : Bool) : Session :=
  { s with pending := s.pending.erase p, answered := s.answered ++ [p.request] }.apply p.attempt
    (s.meepo.dispatchReply S p.request ok)

/-- What can happen on the login page. -/
inductive Event
  | login (credentials : Credentials)
  /-- The reply to a request in flight arrives, possibly as a network error. -/
  | reply (p : Pending) (ok : Bool)
  | sendMetric
  deriving DecidableEq, Repr

/-- The state after an event. -/
def step (S : Server) (s : Session) : Event → Option Session
  | .login credentials => some (s.login credentials)
  | .reply p ok => if p ∈ s.pending then some (s.deliver S p ok) else none
  | .sendMetric => some (s.apply s.attempt s.meepo.sendMetric)

/-- The login page from the start of the program. -/
def machine (S : Server) : Machine Session Event where
  init s := s = {}
  step := step S

end Session

end UsbMaker
