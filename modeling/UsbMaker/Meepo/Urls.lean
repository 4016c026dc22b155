import Mathlib.Data.Bool.AllAny
import Mathlib.Data.List.TakeWhile
import UsbMaker.Meepo.Session

/-!
# The URLs of the requests

A reply is recognised by the URL of its request. `dispatchReply` compares the end of the path with
one text after the other, and `siteIdFromUrl` looks for the site id in the path. The URLs are built
elsewhere: `createDownloadsRequest` puts the site id into a path with `QString::arg`.

This file shows that the two sides agree (`requests_routed`): for all tokens and all site ids that
fit an `int`, the path of a request has exactly one of the endings, the ending leads to the handler
of the request, and the id that is found is the one that was put in. So a reply does what
`Meepo.dispatchReply` says of its request (`dispatch_url`).

## Main definitions

* `QUrl`, `QString.arg`, `QString.toInt`.
* `createAuthRequest`, `createGoogleAuthRequest`, `createSitesRequest`, `createDownloadsRequest`,
  `getMetricRequest`, `siteIdFromUrl`.
* `handlerOf`: the handler that `dispatchReply` takes for a URL.
-/

namespace UsbMaker

/-! ### Texts -/

namespace QString

/-- The number of the place marker with which a text begins, and the length of the marker. -/
def placeMarker : List Char → Option (Nat × Nat)
  | '%' :: c :: d :: _ =>
    if c.isDigit then
      if d.isDigit then some (Nat.ofDigitChars 10 [c, d] 0, 3)
      else some (Nat.ofDigitChars 10 [c] 0, 2)
    else none
  | ['%', c] => if c.isDigit then some (Nat.ofDigitChars 10 [c] 0, 2) else none
  | _ => none

/-- The numbers of the place markers in a text. -/
def markers : List Char → List Nat
  | [] => []
  | c :: text => ((placeMarker (c :: text)).map Prod.fst).toList ++ markers text

/-- The text with `a` for the place markers of a number; the first `skip` characters are left
out. -/
def substitute (number : Nat) (a : List Char) : Nat → List Char → List Char
  | _, [] => []
  | skip + 1, _ :: text => substitute number a skip text
  | 0, c :: text =>
    match placeMarker (c :: text) with
    | some (n, length) =>
      if n = number then a ++ substitute number a (length - 1) text
      else c :: substitute number a 0 text
    | none => c :: substitute number a 0 text

/-- `QString::arg`: the place markers with the lowest number are replaced. -/
def arg (text a : List Char) : List Char :=
  match (markers text).min? with
  | none => text
  | some number => substitute number a 0 text

/-- `QString::number`. -/
def number : Int → List Char
  | .ofNat n => Nat.toDigits 10 n
  | .negSucc n => '-' :: Nat.toDigits 10 (n + 1)

/-- The value of a text of digits. -/
def digitsValue (text : List Char) : Option Nat :=
  if text ≠ [] ∧ text.all Char.isDigit = true then some (Nat.ofDigitChars 10 text 0) else none

/-- `QString::trimmed`. -/
def trimmed (text : List Char) : List Char :=
  ((text.dropWhile Char.isWhitespace).reverse.dropWhile Char.isWhitespace).reverse

/-- The value of a text with a sign or without. -/
def signedValue : List Char → Option Int
  | '-' :: digits => (digitsValue digits).map fun n => -(n : Int)
  | '+' :: digits => (digitsValue digits).map Int.ofNat
  | digits => (digitsValue digits).map Int.ofNat

/-- Whether a number fits an `int`. -/
def FitsInt (n : Int) : Prop := -2147483648 ≤ n ∧ n < 2147483648

instance (n : Int) : Decidable (FitsInt n) := inferInstanceAs (Decidable (_ ∧ _))

/-- `QString::toInt`, `none` when it is not ok. -/
def toInt (text : List Char) : Option Int :=
  (signedValue (trimmed text)).filter fun n => FitsInt n

/-- `QStringList::lastIndexOf`. -/
def lastIndexOf (parts : List (List Char)) (part : List Char) : Option Nat :=
  (parts.reverse.idxOf? part).map fun i => parts.length - 1 - i

end QString

/-! ### The URLs -/

/-- A `QUrl`. -/
structure QUrl where
  scheme : List Char
  host : List Char
  path : List Char
  query : List (String × String) := []
  deriving DecidableEq, Repr

/-- `QUrl::QUrl`, for a text that begins with a scheme and a host and has no query. -/
def QUrl.ofText (text : List Char) : QUrl :=
  let scheme := text.takeWhile fun c => c ≠ ':'
  -- the scheme is followed by `://`
  let rest := text.drop (scheme.length + 3)
  let host := rest.takeWhile fun c => c ∉ ['/', '?', '#']
  { scheme := scheme
    host := host
    path := (rest.drop host.length).takeWhile fun c => c ∉ ['?', '#'] }

/-- `gondar::getDomain`. -/
def getDomain (isRelease : Bool) : List Char :=
  if isRelease then "neverware.com".toList else "grv.neverware.com".toList

def pathActivity : List Char := "/activity".toList

def pathAuth : List Char := "/auth".toList

def pathGoogleAuth : List Char := "/google-auth".toList

def pathSites : List Char := "/sites".toList

def pathDownloads : List Char := "/downloads".toList

section Requests

variable (isRelease : Bool)

/-- `createUrl`. -/
def createUrl (path : List Char) : QUrl :=
  .ofText ("https://api.".toList ++ getDomain isRelease ++ "/poof".toList ++ path)

/-- The URL of `createAuthRequest`. -/
def createAuthRequest : QUrl := createUrl isRelease pathAuth

/-- The URL of `createGoogleAuthRequest`. -/
def createGoogleAuthRequest : QUrl := createUrl isRelease pathGoogleAuth

/-- The URL of `createSitesRequest`. -/
def createSitesRequest (apiToken : String) (page : Int) : QUrl :=
  { createUrl isRelease pathSites with
    query := [("token", apiToken), ("page", String.ofList (QString.number page))] }

/-- The URL of `createDownloadsRequest`. -/
def createDownloadsRequest (apiToken : String) (siteId : Int) : QUrl :=
  let path := QString.arg (QString.arg (QString.arg "%1/%2%3".toList pathSites)
    (QString.number siteId)) pathDownloads
  { createUrl isRelease path with query := [("token", apiToken)] }

/-- The URL of `Meepo::getMetricRequest`. -/
def getMetricRequest (apiToken : String) : QUrl :=
  { createUrl isRelease pathActivity with query := [("token", apiToken)] }

/-- The URL of a request. -/
def Request.url : Request → QUrl
  | .auth (.password _ _) => createAuthRequest isRelease
  | .auth (.google _) => createGoogleAuthRequest isRelease
  | .sites token page => createSitesRequest isRelease token page
  | .downloads token siteId => createDownloadsRequest isRelease token siteId
  | .activity token => getMetricRequest isRelease token

end Requests

/-- `siteIdFromUrl`. -/
def siteIdFromUrl (url : QUrl) : Int :=
  let parts := url.path.splitOn '/'
  match QString.lastIndexOf parts "sites".toList with
  | none => -1
  | some sitesIndex =>
    match parts[sitesIndex + 1]? with
    | none => -1
    | some siteIdStr => (QString.toInt siteIdStr).getD (-1)

/-! ### Reading a number -/

namespace QString

theorem isDigit_of_mem_toDigits {n : Nat} {c : Char} (h : c ∈ Nat.toDigits 10 n) :
    c.isDigit = true :=
  Nat.isDigit_of_mem_toDigits (by decide) (Nat.le_refl 10) h

theorem digitsValue_toDigits (n : Nat) : digitsValue (Nat.toDigits 10 n) = some n := by
  have hall : (Nat.toDigits 10 n).all Char.isDigit = true :=
    List.all_eq_true.mpr fun _ hc => isDigit_of_mem_toDigits hc
  rw [digitsValue, if_pos ⟨Nat.toDigits_ne_nil, hall⟩,
    Nat.ofDigitChars_toDigits (by decide) (Nat.le_refl 10)]

theorem mem_number {n : Int} {c : Char} (h : c ∈ number n) : c = '-' ∨ c.isDigit = true := by
  cases n with
  | ofNat n => exact Or.inr (isDigit_of_mem_toDigits h)
  | negSucc n =>
    rcases List.mem_cons.mp h with rfl | h
    · exact Or.inl rfl
    · exact Or.inr (isDigit_of_mem_toDigits h)

theorem not_mem_number {n : Int} {c : Char} (hminus : c ≠ '-') (hdigit : c.isDigit = false) :
    c ∉ number n := by
  intro h
  rcases mem_number h with rfl | h
  · exact hminus rfl
  · rw [hdigit] at h
    cases h

theorem signedValue_number (n : Int) : signedValue (number n) = some n := by
  cases n with
  | negSucc n =>
    have hminus : signedValue ('-' :: Nat.toDigits 10 (n + 1)) =
        (digitsValue (Nat.toDigits 10 (n + 1))).map fun n => -(n : Int) := rfl
    exact hminus.trans (by rw [digitsValue_toDigits]; rfl)
  | ofNat n =>
    have hdigits : signedValue (Nat.toDigits 10 n) =
        (digitsValue (Nat.toDigits 10 n)).map Int.ofNat := by
      rw [signedValue.eq_def]
      split
      · next heq =>
        exact absurd (isDigit_of_mem_toDigits (heq ▸ List.mem_cons_self)) (by decide)
      · next heq =>
        exact absurd (isDigit_of_mem_toDigits (heq ▸ List.mem_cons_self)) (by decide)
      · rfl
    exact hdigits.trans (by rw [digitsValue_toDigits]; rfl)

theorem trimmed_of_forall {text : List Char} (h : ∀ c ∈ text, c.isWhitespace = false) :
    trimmed text = text := by
  have hsame (text : List Char) (h : ∀ c ∈ text, c.isWhitespace = false) :
      text.dropWhile Char.isWhitespace = text := by
    cases text with
    | nil => rfl
    | cons c text => rw [List.dropWhile_cons_of_neg (by simp [h c])]
  rw [trimmed, hsame text h, hsame _ fun c hc => h c (List.mem_reverse.mp hc),
    List.reverse_reverse]

/-- The decimal notation of an `int` is read back. -/
theorem toInt_number {n : Int} (h : FitsInt n) : toInt (number n) = some n := by
  have hspace : ∀ c ∈ number n, c.isWhitespace = false := by
    intro c hc
    rw [← Bool.not_eq_true]
    intro hwhite
    have hcases : c = ' ' ∨ c = '\t' ∨ c = '\r' ∨ c = '\n' := by
      simpa [Char.isWhitespace, or_assoc] using hwhite
    rcases hcases with rfl | rfl | rfl | rfl <;> exact not_mem_number (by decide) (by decide) hc
  rw [toInt, trimmed_of_forall hspace, signedValue_number, Option.filter_some]
  exact if_pos (decide_eq_true h)

/-! ### Replacing a place marker -/

variable {text rest a : List Char}

theorem placeMarker_eq_none {c : Char} (h : c ≠ '%') : placeMarker (c :: text) = none := by
  rw [placeMarker.eq_def]
  split <;> simp_all

theorem markers_append (h : '%' ∉ text) : markers (text ++ rest) = markers rest := by
  induction text with
  | nil => rfl
  | cons c text ih =>
    rw [List.mem_cons, not_or] at h
    obtain ⟨hc, htext⟩ := h
    rw [List.cons_append, markers, placeMarker_eq_none (Ne.symm hc), ih htext]
    rfl

theorem substitute_append {number : Nat} (h : '%' ∉ text) :
    substitute number a 0 (text ++ rest) = text ++ substitute number a 0 rest := by
  induction text with
  | nil => rfl
  | cons c text ih =>
    rw [List.mem_cons, not_or] at h
    obtain ⟨hc, htext⟩ := h
    rw [List.cons_append, substitute, placeMarker_eq_none (Ne.symm hc), ih htext]
    rfl

/-- A text without a percent sign is left as it is. -/
theorem arg_append (h : '%' ∉ text) : arg (text ++ rest) a = text ++ arg rest a := by
  rw [arg, markers_append h, arg]
  cases (markers rest).min? with
  | none => rfl
  | some number => exact substitute_append h

end QString

/-! ### The paths of the requests -/

section Paths

variable (isRelease : Bool)

theorem createUrl_path {path : List Char} (h : ∀ c ∈ path, c ≠ '?' ∧ c ≠ '#') :
    (createUrl isRelease path).path = "/poof".toList ++ path := by
  have hpath : path.takeWhile (fun c => c ∉ ['?', '#']) = path := by
    rw [List.takeWhile_eq_self_iff]
    intro c hc
    simp [h c hc]
  have hparse : (createUrl isRelease path).path =
      "/poof".toList ++ path.takeWhile fun c => c ∉ ['?', '#'] := by
    cases isRelease <;> rfl
  rw [hparse, hpath]

/-- The path that `createDownloadsRequest` puts together. -/
theorem arg_downloads (siteId : Int) :
    QString.arg (QString.arg (QString.arg "%1/%2%3".toList pathSites) (QString.number siteId))
        pathDownloads =
      "/sites/".toList ++ QString.number siteId ++ "/downloads".toList := by
  have hfirst : QString.arg "%1/%2%3".toList pathSites = "/sites/%2%3".toList := by decide
  have hsecond : QString.arg "/sites/%2%3".toList (QString.number siteId) =
      "/sites/".toList ++ QString.number siteId ++ "%3".toList := by
    change "/sites/".toList ++ (QString.number siteId ++ "%3".toList) = _
    rw [List.append_assoc]
  have hpercent : '%' ∉ "/sites/".toList ++ QString.number siteId := by
    rw [List.mem_append, not_or]
    exact ⟨by decide, QString.not_mem_number (by decide) (by decide)⟩
  have hthird : QString.arg "%3".toList pathDownloads = "/downloads".toList := by decide
  rw [hfirst, hsecond, QString.arg_append hpercent, hthird]

theorem createDownloadsRequest_path (apiToken : String) (siteId : Int) :
    (createDownloadsRequest isRelease apiToken siteId).path =
      "/poof/sites/".toList ++ QString.number siteId ++ "/downloads".toList := by
  have hsites : ∀ c ∈ "/sites/".toList, c ≠ '?' ∧ c ≠ '#' :=
    List.all_iff_forall_prop.mp (by decide)
  have hdownloads : ∀ c ∈ "/downloads".toList, c ≠ '?' ∧ c ≠ '#' :=
    List.all_iff_forall_prop.mp (by decide)
  change (createUrl isRelease _).path = _
  rw [arg_downloads, createUrl_path]
  · rfl
  · intro c hc
    rw [List.mem_append, List.mem_append] at hc
    rcases hc with (hc | hc) | hc
    · exact hsites c hc
    · exact ⟨fun h => QString.not_mem_number (by decide) (by decide) (h ▸ hc),
        fun h => QString.not_mem_number (by decide) (by decide) (h ▸ hc)⟩
    · exact hdownloads c hc

end Paths

/-- **The site id comes back.** -/
theorem siteIdFromUrl_createDownloadsRequest (isRelease : Bool) (apiToken : String) {siteId : Int}
    (h : QString.FitsInt siteId) :
    siteIdFromUrl (createDownloadsRequest isRelease apiToken siteId) = siteId := by
  have hslash : '/' ∉ QString.number siteId := QString.not_mem_number (by decide) (by decide)
  have hsites : QString.number siteId ≠ ['s', 'i', 't', 'e', 's'] := by
    intro heq
    have hs : 's' ∈ QString.number siteId := heq ▸ List.mem_cons_self
    exact QString.not_mem_number (by decide) (by decide) hs
  have hparts : (createDownloadsRequest isRelease apiToken siteId).path.splitOn '/' =
      [[], "poof".toList, "sites".toList, QString.number siteId, "downloads".toList] := by
    rw [createDownloadsRequest_path]
    have hjoin : "/poof/sites/".toList ++ QString.number siteId ++ "/downloads".toList =
        ['/'].intercalate
          [[], "poof".toList, "sites".toList, QString.number siteId, "downloads".toList] := by
      simp [List.intercalate]
    rw [hjoin, List.splitOn_intercalate '/' _ (by simp)]
    simp [hslash]
  have hindex : QString.lastIndexOf
      [[], "poof".toList, "sites".toList, QString.number siteId, "downloads".toList]
      "sites".toList = some 2 := by
    simp [QString.lastIndexOf, List.idxOf?, List.findIdx?_cons, hsites]
  rw [siteIdFromUrl, hparts, hindex]
  change (QString.toInt (QString.number siteId)).getD (-1) = siteId
  rw [QString.toInt_number h]
  rfl

/-! ### The handlers -/

/-- The handlers of `dispatchReply`. -/
inductive Handler
  | handleAuthReply
  | handleSitesReply
  | handleDownloadsReply
  | handleMetricsReply
  deriving DecidableEq, Repr

/-- The handler that `Meepo::dispatchReply` takes for a URL. -/
def handlerOf (url : QUrl) : Option Handler :=
  if "/auth".toList <:+ url.path then some .handleAuthReply
  else if "/google-auth".toList <:+ url.path then some .handleAuthReply
  else if "/sites".toList <:+ url.path then some .handleSitesReply
  else if "/downloads".toList <:+ url.path then some .handleDownloadsReply
  else if "/activity".toList <:+ url.path then some .handleMetricsReply
  else none

/-- The texts with which `Meepo::dispatchReply` compares the end of a path. -/
def endings : List (List Char) :=
  ["/auth".toList, "/google-auth".toList, "/sites".toList, "/downloads".toList,
    "/activity".toList]

/-- What the handlers read in a reply; a member that a reply does not have is read as empty. -/
structure Reply where
  apiToken : String := ""
  sites : List SiteEntry := []
  /-- The members `current` and `total` of `pagination`. -/
  current : Nat := 0
  total : Nat := 0
  links : Links := []

/-- The reply to a request. -/
def Server.reply (S : Server) : Request → Reply
  | .auth credentials => { apiToken := S.apiToken credentials }
  | .sites token page =>
    { sites := S.page token page, current := page, total := (S.pages token).length }
  | .downloads token siteId => { links := S.links token siteId }
  | .activity _ => {}

namespace Meepo

/-- A handler on a reply. -/
def handle (m : Meepo) (url : QUrl) (reply : Reply) : Handler → Outcome
  | .handleAuthReply => m.handleAuthReply reply.apiToken
  | .handleSitesReply => m.handleSitesReply reply.sites reply.current reply.total
  | .handleDownloadsReply => m.handleDownloadsReply (siteIdFromUrl url) reply.links
  | .handleMetricsReply => m.handleMetricsReply

/-- `Meepo::dispatchReply`, on the URL of a reply. -/
def dispatch (m : Meepo) (url : QUrl) (ok : Bool) (reply : Reply) : Outcome :=
  if !ok then m.fail "network error"
  else
    match handlerOf url with
    | none => { meepo := m }
    | some handler => m.handle url reply handler

end Meepo

/-- The path of a URL has exactly one of the endings, and `dispatchReply` takes the handler. -/
structure RoutedTo (url : QUrl) (handler : Handler) : Prop where
  ending : ∃! ending, ending ∈ endings ∧ ending <:+ url.path
  handler_eq : handlerOf url = some handler

theorem handlerOf_congr {url url' : QUrl}
    (h : ∀ ending ∈ endings, ending <:+ url.path ↔ ending <:+ url'.path) :
    handlerOf url = handlerOf url' := by
  simp only [endings, List.forall_mem_cons] at h
  obtain ⟨hauth, hgoogle, hsites, hdownloads, hactivity, -⟩ := h
  simp only [handlerOf, hauth, hgoogle, hsites, hdownloads, hactivity]

section Endings

variable {dir name : List Char}

/-- A text that begins with its only slash ends a path if and only if it is what the path has from
its last slash on. -/
theorem suffix_iff_eq (hname : '/' ∉ name) {ending : List Char} (hending : '/' ∉ ending) :
    '/' :: ending <:+ dir ++ '/' :: name ↔ '/' :: ending = '/' :: name := by
  have hself : '/' :: name <:+ dir ++ '/' :: name := List.suffix_append dir _
  constructor
  · intro h
    rcases List.suffix_or_suffix_of_suffix h hself with hin | hin
    · rcases List.suffix_cons_iff.mp hin with heq | hin
      · exact heq
      · exact absurd (hin.subset List.mem_cons_self) hname
    · rcases List.suffix_cons_iff.mp hin with heq | hin
      · exact heq.symm
      · exact absurd (hin.subset List.mem_cons_self) hending
  · intro h
    rw [h]
    exact hself

variable {url : QUrl} (hpath : url.path = dir ++ '/' :: name) (hname : '/' ∉ name)

include hpath hname

theorem suffix_endings {ending : List Char} (h : ending ∈ endings) :
    ending <:+ url.path ↔ ending = '/' :: name := by
  obtain ⟨rest, rfl, hrest⟩ : ∃ rest, ending = '/' :: rest ∧ '/' ∉ rest := by
    have hall : ∀ ending ∈ endings, ending = '/' :: ending.tail ∧ '/' ∉ ending.tail := by decide
    exact ⟨ending.tail, hall ending h⟩
  rw [hpath]
  exact suffix_iff_eq hname hrest

/-- The endings are compared in turn, but only one of them can be there. -/
theorem routedTo_of_path {handler : Handler} (hmem : '/' :: name ∈ endings)
    (hhandler : handlerOf { url with path := '/' :: name } = some handler) :
    RoutedTo url handler := by
  have hlast : ({ url with path := '/' :: name } : QUrl).path = [] ++ '/' :: name := rfl
  refine ⟨⟨'/' :: name, ⟨hmem, (suffix_endings hpath hname hmem).mpr rfl⟩,
    fun other h => (suffix_endings hpath hname h.1).mp h.2⟩, ?_⟩
  rw [← hhandler]
  refine handlerOf_congr fun ending h => ?_
  rw [suffix_endings hpath hname h, suffix_endings hlast hname h]

end Endings

section Routes

variable (isRelease : Bool)

theorem routedTo_createAuthRequest : RoutedTo (createAuthRequest isRelease) .handleAuthReply := by
  have hpath : (createAuthRequest isRelease).path = "/poof".toList ++ '/' :: "auth".toList :=
    createUrl_path isRelease (List.all_iff_forall_prop.mp (by decide))
  exact routedTo_of_path hpath (by decide) (by decide) rfl

theorem routedTo_createGoogleAuthRequest :
    RoutedTo (createGoogleAuthRequest isRelease) .handleAuthReply := by
  have hpath : (createGoogleAuthRequest isRelease).path =
      "/poof".toList ++ '/' :: "google-auth".toList :=
    createUrl_path isRelease (List.all_iff_forall_prop.mp (by decide))
  exact routedTo_of_path hpath (by decide) (by decide) rfl

theorem routedTo_createSitesRequest (apiToken : String) (page : Int) :
    RoutedTo (createSitesRequest isRelease apiToken page) .handleSitesReply := by
  have hpath : (createSitesRequest isRelease apiToken page).path =
      "/poof".toList ++ '/' :: "sites".toList :=
    createUrl_path isRelease (List.all_iff_forall_prop.mp (by decide))
  exact routedTo_of_path hpath (by decide) (by decide) rfl

theorem routedTo_createDownloadsRequest (apiToken : String) (siteId : Int) :
    RoutedTo (createDownloadsRequest isRelease apiToken siteId) .handleDownloadsReply :=
  routedTo_of_path (createDownloadsRequest_path isRelease apiToken siteId) (by decide) (by decide)
    rfl

theorem routedTo_getMetricRequest (apiToken : String) :
    RoutedTo (getMetricRequest isRelease apiToken) .handleMetricsReply := by
  have hpath : (getMetricRequest isRelease apiToken).path =
      "/poof".toList ++ '/' :: "activity".toList :=
    createUrl_path isRelease (List.all_iff_forall_prop.mp (by decide))
  exact routedTo_of_path hpath (by decide) (by decide) rfl

/-- **The reply to a request.** For a site id that fits an `int`, what `dispatchReply` does on the
URL of a request is what it does on the request. -/
theorem dispatch_url (S : Server) (m : Meepo) (request : Request) (ok : Bool)
    (h : ∀ token siteId, request = .downloads token siteId → QString.FitsInt siteId) :
    m.dispatch (request.url isRelease) ok (S.reply request) = m.dispatchReply S request ok := by
  cases ok with
  | false => rfl
  | true =>
    cases request with
    | auth credentials =>
      cases credentials with
      | password user password =>
        have hroute : handlerOf (createAuthRequest isRelease) = _ :=
          (routedTo_createAuthRequest isRelease).handler_eq
        simp only [Meepo.dispatch, Request.url, hroute]
        rfl
      | google idToken =>
        have hroute : handlerOf (createGoogleAuthRequest isRelease) = _ :=
          (routedTo_createGoogleAuthRequest isRelease).handler_eq
        simp only [Meepo.dispatch, Request.url, hroute]
        rfl
    | sites token page =>
      simp only [Meepo.dispatch, Request.url,
        (routedTo_createSitesRequest isRelease token page).handler_eq]
      rfl
    | downloads token siteId =>
      simp only [Meepo.dispatch, Request.url,
        (routedTo_createDownloadsRequest isRelease token siteId).handler_eq, Meepo.handle,
        siteIdFromUrl_createDownloadsRequest isRelease token (h token siteId rfl)]
      rfl
    | activity token =>
      simp only [Meepo.dispatch, Request.url,
        (routedTo_getMetricRequest isRelease token).handler_eq]
      rfl

end Routes

/-- **Every request finds its handler.** For all tokens, the URL of a request for the downloads of a
site leads to `handleDownloadsReply`, which reads the site id from it, and the URLs of the other
requests lead to their handlers. -/
theorem requests_routed (isRelease : Bool) (apiToken : String) (siteId : Int)
    (h : 0 ≤ siteId ∧ QString.FitsInt siteId) :
    RoutedTo (createDownloadsRequest isRelease apiToken siteId) .handleDownloadsReply ∧
      siteIdFromUrl (createDownloadsRequest isRelease apiToken siteId) = siteId ∧
      RoutedTo (createAuthRequest isRelease) .handleAuthReply ∧
      RoutedTo (createGoogleAuthRequest isRelease) .handleAuthReply ∧
      (∀ page, RoutedTo (createSitesRequest isRelease apiToken page) .handleSitesReply) ∧
      RoutedTo (getMetricRequest isRelease apiToken) .handleMetricsReply :=
  ⟨routedTo_createDownloadsRequest isRelease apiToken siteId,
    siteIdFromUrl_createDownloadsRequest isRelease apiToken h.2,
    routedTo_createAuthRequest isRelease, routedTo_createGoogleAuthRequest isRelease,
    routedTo_createSitesRequest isRelease apiToken, routedTo_getMetricRequest isRelease apiToken⟩

theorem requests_routed_sites :
    RoutedTo (createDownloadsRequest true "/sites" 0) .handleDownloadsReply ∧
      siteIdFromUrl (createDownloadsRequest true "/sites" 0) = 0 :=
  have h := requests_routed true "/sites" 0 (by decide)
  ⟨h.1, h.2.1⟩

end UsbMaker
