import UsbMaker.Meepo.Urls
import UsbMaker.Wizard.Pages

/-!
# The messages of the program

The program sends metrics to a server of its own and, once `Meepo` has a token, to that of `Meepo`,
and it sends the feedback of the user. Each of the three messages is a JSON object that may have a
site id: the metrics leave it out when it is zero, and the first one also in a build that is not for
logging in. The feedback always has it. The object for `Meepo` has it in the object of the activity.

The fields of a JSON object are a list here, whose order does not matter.

## Main definitions

* `QJsonObject`: a JSON object, and `carriedSite`: the site id in it.
* `sendMetricGondar`, `getMetricJson`, `sendMetric`, `submit`: the messages.
* `Message`: the messages that are built for a site id.

## Main results

* `carriedSite_eq_of_message`: the site id of a message.
-/

namespace UsbMaker

/-! ### JSON objects -/

/-- A value in a JSON object. -/
inductive JsonValue
  | text (s : List Char)
  | int (n : Int)
  | object (fields : List (String × JsonValue))

/-- A `QJsonObject`. -/
abbrev QJsonObject := List (String × JsonValue)

namespace QJsonObject

/-- `QJsonObject::insert`, which replaces a field. -/
def insert (json : QJsonObject) (key : String) (value : JsonValue) : QJsonObject :=
  (key, value) :: json.filter fun field => field.1 ≠ key

/-- The number in a field. -/
def intAt (json : QJsonObject) (key : String) : Option Int :=
  match json.lookup key with
  | some (.int n) => some n
  | _ => none

/-- The object in a field. -/
def objectAt (json : QJsonObject) (key : String) : Option QJsonObject :=
  match json.lookup key with
  | some (.object fields) => some fields
  | _ => none

theorem lookup_filter {json : QJsonObject} {key key' : String} (hne : key' ≠ key) :
    (json.filter fun field => field.1 ≠ key).lookup key' = json.lookup key' := by
  induction json with
  | nil => rfl
  | cons field json ih =>
    obtain ⟨name, value⟩ := field
    by_cases hname : name = key
    · rw [List.filter_cons_of_neg (by simpa using hname), ih, List.lookup_cons, hname,
        beq_eq_false_iff_ne.2 hne]
    · rw [List.filter_cons_of_pos (by simpa using hname), List.lookup_cons, List.lookup_cons, ih]

theorem lookup_insert (json : QJsonObject) (key key' : String) (value : JsonValue) :
    (insert json key value).lookup key' = if key' = key then some value else json.lookup key' := by
  rw [insert, List.lookup_cons]
  split_ifs with h
  · rw [beq_iff_eq.2 h]
  · rw [beq_eq_false_iff_ne.2 h]
    exact lookup_filter h

end QJsonObject

open QJsonObject (insert)

/-- The site id that a message carries. -/
def carriedSite (json : QJsonObject) : Option Int :=
  match json.intAt "site" with
  | some siteId => some siteId
  | none => (json.objectAt "activity").bind fun activity => activity.intAt "site_id"

/-! ### Metrics -/

/-- `gondar::Metric`. -/
inductive Metric
  | beeroverUse
  | chromeoverUse
  | downloadAttempt
  | downloadFailure
  | downloadSuccess
  | error
  | formatAttempt
  | formatSuccess
  | successDuration
  | usbAttempt
  | usbSuccess
  | use
  deriving DecidableEq, Repr

/-- `getMetricString`. -/
def getMetricString : Metric → String
  | .beeroverUse => "beerover-use"
  | .chromeoverUse => "chromeover-use"
  | .downloadAttempt => "download-attempt"
  | .downloadSuccess => "download-success"
  | .downloadFailure => "download-failure"
  | .error => "error"
  | .formatAttempt => "format-attempt"
  | .formatSuccess => "format-success"
  | .usbAttempt => "usb-attempt"
  | .usbSuccess => "usb-success"
  | .use => "use"
  | .successDuration => "success-duration"

/-- What a build and an installation say of themselves. -/
structure Build where
  /-- `getMetricsApiKey`. -/
  metricsApiKey : String
  /-- `gondar::GetUuid`. -/
  uuid : List Char

/-- `gondar::getGondarVersion`. -/
def getGondarVersion : List Char := []

/-- `shouldSendMetrics`. -/
def shouldSendMetrics (build : Build) : Bool := build.metricsApiKey ≠ ""

/-- The product that a message is about. -/
def product (env : Environment) : JsonValue :=
  .text (if env.isChromeover then "chromeover" else "beerover").toList

/-- `gondar::SendMetricGondar`. -/
def sendMetricGondar (env : Environment) (build : Build) (metric : Metric) (value : List Char)
    (siteId : Int) : Option QJsonObject :=
  if !shouldSendMetrics build then none
  else
    let json := insert [] "identifier" (.text build.uuid)
    let json := insert json "metric" (.text (getMetricString metric).toList)
    let json := if value ≠ [] then insert json "value" (.text value) else json
    let json :=
      if getGondarVersion ≠ [] then insert json "version" (.text getGondarVersion) else json
    let json := insert json "product" (product env)
    some (if env.isChromeover ∧ siteId ≠ 0 then insert json "site" (.int siteId) else json)

/-- `Meepo::getMetricJson`. -/
def getMetricJson (siteId : Int) (metric value : List Char) : QJsonObject :=
  let activityString := QString.arg "usb-maker-%1".toList metric
  let innerJson := insert [] "activity" (.text activityString)
  let versionString := if getGondarVersion = [] then "none".toList else getGondarVersion
  let valueString := if value = [] then "none".toList else value
  let descriptionString :=
    QString.arg (QString.arg "version=%1,value=%2".toList versionString) valueString
  let innerJson := insert innerJson "description" (.text descriptionString)
  let innerJson := if siteId ≠ 0 then insert innerJson "site_id" (.int siteId) else innerJson
  insert [] "activity" (.object innerJson)

/-- `gondar::SendMetric`, with `SendMetricMeepo`. -/
def sendMetric (env : Environment) (build : Build) (hasToken : Bool) (siteId : Int)
    (metric : Metric) (value : List Char) : List QJsonObject :=
  (sendMetricGondar env build metric value siteId).toList ++
    if hasToken ∧ shouldSendMetrics build then
      [getMetricJson siteId (getMetricString metric).toList value]
    else []

/-- `FeedbackDialog::submit`, with the site id of the wizard when it has been set. -/
def submit (env : Environment) (build : Build) (wizard : Option Int) (feedback : List Char) :
    QJsonObject :=
  let json := insert [] "feedback" (.text feedback)
  let json := insert json "uuid" (.text build.uuid)
  let json :=
    match wizard with
    | none => json
    | some siteId => insert json "site" (.int siteId)
  insert json "product" (product env)

/-- The messages that are built while `Meepo` has a site id. -/
inductive Message (env : Environment) (build : Build) (siteId : Int) : QJsonObject → Prop
  | metric (hasToken : Bool) (metric : Metric) (value : List Char) {json : QJsonObject}
      (h : json ∈ sendMetric env build hasToken siteId metric value) : Message env build siteId json
  | feedback (feedback : List Char) :
      Message env build siteId (submit env build (some siteId) feedback)

/-! ### The site id of a message -/

section Site

variable {env : Environment} {build : Build} {siteId : Int}

theorem carriedSite_sendMetricGondar {metric : Metric} {value : List Char} {json : QJsonObject}
    (h : sendMetricGondar env build metric value siteId = some json) :
    carriedSite json = if env.isChromeover ∧ siteId ≠ 0 then some siteId else none := by
  rw [sendMetricGondar, Option.ite_none_left_eq_some, Option.some.injEq] at h
  obtain ⟨-, rfl⟩ := h
  split_ifs <;>
    simp [carriedSite, QJsonObject.intAt, QJsonObject.objectAt, QJsonObject.lookup_insert]

theorem carriedSite_getMetricJson (metric value : List Char) :
    carriedSite (getMetricJson siteId metric value) = if siteId ≠ 0 then some siteId else none := by
  rw [getMetricJson]
  split_ifs <;>
    simp [carriedSite, QJsonObject.intAt, QJsonObject.objectAt, QJsonObject.lookup_insert]

example :
    getMetricJson 3 "kewlmetric".toList "kewlvalue".toList =
      [("activity", .object
        [("site_id", .int 3), ("description", .text "version=none,value=kewlvalue".toList),
          ("activity", .text "usb-maker-kewlmetric".toList)])] := rfl

theorem carriedSite_submit (feedback : List Char) :
    carriedSite (submit env build (some siteId) feedback) = some siteId := by
  simp [submit, carriedSite, QJsonObject.intAt, QJsonObject.lookup_insert]

/-- **The site id of a message** is that of `Meepo`, or there is none because it is zero or the
build is not for logging in. -/
theorem carriedSite_eq_of_message {json : QJsonObject} (h : Message env build siteId json) :
    carriedSite json = some siteId ∨
      carriedSite json = none ∧ (siteId = 0 ∨ env.isChromeover = false) := by
  cases h with
  | metric hasToken metric value h =>
    rcases List.mem_append.1 h with h | h
    · rw [carriedSite_sendMetricGondar (Option.mem_toList.1 h)]
      split_ifs with hsite
      · exact Or.inl rfl
      · refine Or.inr ⟨rfl, ?_⟩
        rw [not_and_or, not_not, Bool.not_eq_true] at hsite
        exact hsite.symm
    · split_ifs at h
      · rw [List.mem_singleton.1 h, carriedSite_getMetricJson]
        split_ifs with hsite
        · exact Or.inl rfl
        · exact Or.inr ⟨rfl, Or.inl (not_not.1 hsite)⟩
      · cases h
  | feedback feedback => exact Or.inl (carriedSite_submit feedback)

end Site

end UsbMaker
