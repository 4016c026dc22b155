import UsbMaker.Data
import UsbMaker.Run.Machine

/-!
# The download manager

`DownloadManager` (`downloader.cc`) fetches a queue of URLs, one file each. Its slots run on the
event loop: a zero timer posted by `append` starts the first download, the signals of the current
`QNetworkReply` drive it, and the end of one download starts the next.

The manager keeps one pointer `currentDownload` and one `QFile output`, whereas every reply it has
asked for stays connected to its slots. A slot therefore looks at the *current* reply and not at
the one whose signal it answers, and this file models it so: a URL taken from the queue is a
`Fetch` with its own reply and its own file, and `currentDownload` is an index into the fetches.

Whether the `n`-th output file can be opened is `opens n`; how many bytes a call of
`QFile::write` takes is part of the event that leads to it. Logging and metrics are left out.

## Main definitions

* `Fetch`, `DownloadManager` and its slots `append`, `appendList`, `startNextDownload`,
  `downloadReadyRead`, `downloadFinished`.
* `DownloadManager.machine`: the manager with the event loop and the network.
-/

namespace UsbMaker

/-- The state of a `QNetworkReply`. -/
inductive ReplyState
  | pending
  | ok
  | failed
  deriving DecidableEq, Repr

/-- A URL taken from the queue, with the reply and the output file that belong to it. -/
structure Fetch where
  url : Url
  /-- Whether `output.open` succeeded; a URL whose file cannot be opened is skipped. -/
  opened : Bool
  reply : ReplyState := .pending
  /-- Bytes that have arrived and have not been read from the reply. -/
  unread : List UInt8 := []
  /-- All bytes the network has delivered. -/
  received : List UInt8 := []
  /-- The bytes stored in the output file. -/
  written : List UInt8 := []
  /-- Whether `deleteLater` has been called on the reply. -/
  deleted : Bool := false
  deriving DecidableEq, Repr

/-- A call deferred with `QTimer::singleShot(0, ..)`. -/
inductive DeferredCall
  | startNextDownload
  | finished
  deriving DecidableEq, Repr

/-- The members of `DownloadManager`, the calls it has deferred, and what it has done so far. -/
structure DownloadManager where
  downloadQueue : List Url := []
  /-- The reply last asked for, as an index into `fetches`; unset at first. -/
  currentDownload : Option Nat := none
  /-- `output.fileName()`. -/
  outputName : String := ""
  /-- `output.isOpen()`. -/
  outputOpen : Bool := false
  error : Bool := false
  downloadedCount : Nat := 0
  totalCount : Nat := 0
  deferred : List DeferredCall := []
  /-- Every URL ever appended. -/
  appended : List Url := []
  /-- Every URL ever taken from the queue. -/
  fetches : List Fetch := []
  /-- How often `finished()` has been emitted. -/
  emitted : Nat := 0
  /-- Whether a slot has used a reply that is already deleted. -/
  dangling : Bool := false
  deriving DecidableEq, Repr

namespace DownloadManager

/-- `DownloadManager::append(const QUrl&)`. -/
def append (m : DownloadManager) (url : Url) : DownloadManager :=
  { m with
    deferred := if m.downloadQueue = [] then m.deferred ++ [.startNextDownload] else m.deferred
    downloadQueue := m.downloadQueue ++ [url]
    totalCount := m.totalCount + 1
    appended := m.appended ++ [url] }

/-- `DownloadManager::append(const QStringList&)`. -/
def appendList (m : DownloadManager) (urlList : List Url) : DownloadManager :=
  let m' := urlList.foldl append m
  if m'.downloadQueue = [] then { m' with deferred := m'.deferred ++ [.finished] } else m'

/-- `DownloadManager::saveFileName`. -/
def saveFileName (url : Url) : String := url.fileName

/-- The body of `startNextDownload` on the URLs still queued. A file that cannot be opened leads
to the next URL at once; an empty queue ends in `emit finished()`. -/
def startFrom (opens : Nat → Bool) : List Url → DownloadManager → DownloadManager
  | [], m => { m with downloadQueue := [], emitted := m.emitted + 1 }
  | url :: rest, m =>
    let m' := { m with downloadQueue := rest, outputName := saveFileName url }
    if opens m.fetches.length then
      { m' with
        outputOpen := true
        currentDownload := some m.fetches.length
        fetches := m.fetches ++ [{ url := url, opened := true }] }
    else
      startFrom opens rest
        { m' with outputOpen := false, fetches := m.fetches ++ [{ url := url, opened := false }] }

/-- `DownloadManager::startNextDownload`. -/
def startNextDownload (opens : Nat → Bool) (m : DownloadManager) : DownloadManager :=
  startFrom opens m.downloadQueue m

/-- The fetch whose reply `currentDownload` points to. -/
def current (m : DownloadManager) : Option (Nat × Fetch) :=
  m.currentDownload.bind fun c => (m.fetches[c]?).map fun f => (c, f)

/-- The manager with fetch `i` replaced. -/
def setFetch (m : DownloadManager) (i : Nat) (f : Fetch) : DownloadManager :=
  { m with fetches := m.fetches.set i f }

/-- `DownloadManager::downloadReadyRead`, where `output.write` takes at most `accepted` bytes. Its
result is dropped. -/
def downloadReadyRead (accepted : Nat) (m : DownloadManager) : DownloadManager :=
  match m.current with
  | none => { m with dangling := true }
  | some (c, f) =>
    if f.deleted then { m with dangling := true }
    else
      let stored := if m.outputOpen then f.unread.take accepted else []
      m.setFetch c { f with unread := [], written := f.written ++ stored }

/-- `DownloadManager::downloadFinished`. -/
def downloadFinished (opens : Nat → Bool) (m : DownloadManager) : DownloadManager :=
  let m := { m with outputOpen := false }
  match m.current with
  | none => { m with dangling := true }
  | some (c, f) =>
    if f.deleted then { m with dangling := true }
    else
      let m :=
        if f.reply = .failed then { m with error := true }
        else { m with downloadedCount := m.downloadedCount + 1 }
      startNextDownload opens (m.setFetch c { f with deleted := true })

/-- `DownloadManager::hasError`. -/
def hasError (m : DownloadManager) : Bool := m.error

/-- The file `DownloadProgressPage::markComplete` hands to the extraction thread, if it does. -/
def markComplete (m : DownloadManager) : Option String :=
  if m.hasError then none else some m.outputName

/-- What can happen to a download manager. -/
inductive Event
  | append (url : Url)
  | appendList (urlList : List Url)
  /-- The event loop runs the oldest deferred call. -/
  | timer
  /-- The network delivers a chunk for fetch `i`; the write that follows takes at most
  `accepted` bytes. -/
  | readyRead (i : Nat) (chunk : List UInt8) (accepted : Nat)
  /-- The reply of fetch `i` finishes, with or without a network error. -/
  | finished (i : Nat) (ok : Bool)
  deriving DecidableEq, Repr

/-- The fetch `i` when its reply can still emit signals. -/
def live (m : DownloadManager) (i : Nat) : Option Fetch :=
  (m.fetches[i]?).filter fun f => f.opened && f.reply = .pending && !f.deleted

/-- The state after an event. Nothing more is said once a deleted reply has been used. -/
def step (opens : Nat → Bool) (m : DownloadManager) (e : Event) : Option DownloadManager :=
  if m.dangling then none
  else
    match e with
    | .append url => some (m.append url)
    | .appendList urlList => some (m.appendList urlList)
    | .timer =>
      match m.deferred with
      | [] => none
      | .startNextDownload :: rest => some (startNextDownload opens { m with deferred := rest })
      | .finished :: rest => some { m with deferred := rest, emitted := m.emitted + 1 }
    | .readyRead i chunk accepted =>
      (m.live i).map fun f => downloadReadyRead accepted
        (m.setFetch i { f with unread := f.unread ++ chunk, received := f.received ++ chunk })
    | .finished i ok =>
      (m.live i).map fun f => downloadFinished opens
        (m.setFetch i { f with reply := if ok then .ok else .failed })

/-- The download manager with its event loop and the network. -/
def machine (opens : Nat → Bool) : Machine DownloadManager Event where
  init m := m = {}
  step := step opens

end DownloadManager

end UsbMaker
