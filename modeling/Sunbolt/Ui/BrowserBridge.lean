/- Module: Sunbolt/Ui/BrowserBridge
   scope: sunbolt-ui/src/browser_bridge.rs, sunbolt-ui/src/api_client.rs
   digest: The terminal page in the browser: its variables, its sockets and its event handlers. -/

import Sunbolt.Library.Machine
import Sunbolt.Library.OrderedMap
import Sunbolt.Protocol.Messages

set_option autoImplicit false
set_option relaxedAutoImplicit false

namespace Sunbolt.Ui

open Sunbolt.Library
open Sunbolt.Protocol (TerminalServerMessage TerminalTransportStatus TerminalReconnectToken NodeId)

/-- A string or null is true when it is a string that is not empty. -/
def truthy : Option String → Bool
  | some text => text ≠ ""
  | none => false

/-- `value || other`. -/
def orElse (value other : Option String) : Option String :=
  if truthy value then value else other

/-! Sockets. -/

/-- A frame that the page sends, before it is written as JSON. -/
inductive Frame where
  | start (nodeId : Option String) (cols rows : Nat)
  | reattach (sessionId reconnectToken : String)
  | resize (sessionId : String) (cols rows : Nat)
  | input (sessionId data : String)
  | detach (sessionId : String)
  | terminate (sessionId : String)
  deriving DecidableEq, Repr

inductive ReadyState where
  | connecting
  | open
  | closing
  | closed
  deriving DecidableEq, Repr

/-- A websocket with the argument of the `connect` that made it and the frames sent on it. -/
structure Socket where
  readyState : ReadyState
  reattach : Bool
  sent : List Frame
  deriving DecidableEq, Repr

def Socket.isLive (socket : Socket) : Bool :=
  socket.readyState = .connecting || socket.readyState = .open

def Socket.close (socket : Socket) : Socket :=
  if socket.isLive then { socket with readyState := .closing } else socket

/-- The variable `socket`, and the sockets it held before. -/
structure Wire where
  former : List Socket
  socket : Option Socket

/-- Events name the socket they happen on. -/
inductive SocketRef where
  | current
  | former (index : Nat)
  deriving DecidableEq, Repr

namespace Wire

def find (wire : Wire) : SocketRef → Option Socket
  | .current => wire.socket
  | .former index => wire.former[index]?

def setReady (wire : Wire) (ref : SocketRef) (readyState : ReadyState) : Wire :=
  match ref with
  | .current => { wire with socket := wire.socket.map ({ · with readyState }) }
  | .former index => { wire with former := wire.former.modify index ({ · with readyState }) }

/-- Frames go out on the socket of the variable, while it is open. -/
def send (wire : Wire) (frame : Frame) : Wire :=
  { wire with socket := wire.socket.map (fun socket =>
      if socket.readyState = .open then { socket with sent := socket.sent ++ [frame] }
      else socket) }

def close (wire : Wire) : Wire := { wire with socket := wire.socket.map Socket.close }

/-- `new WebSocket`, into the variable. -/
def construct (wire : Wire) (reattach : Bool) : Wire :=
  ⟨wire.former ++ wire.socket.toList, some ⟨.connecting, reattach, []⟩⟩

end Wire

/-! Sessions. -/

/-- What the page knows of a session. The numbers that the session lists add are read nowhere. -/
structure SessionRecord where
  sessionId : String
  nodeId : Option String
  reconnectToken : Option String
  state : String
  transportStatus : Option TerminalTransportStatus
  deriving DecidableEq, Repr

/-- An entry of the session lists of the control plane. -/
structure SessionSummary where
  sessionId : String
  nodeId : Option String
  state : String
  transportStatus : Option TerminalTransportStatus
  deriving DecidableEq, Repr

/-- What is kept in the session storage of the tab. -/
structure StoredWorkspace where
  activeSessionId : Option String
  sessions : List SessionRecord

/-- The session variables and the session storage; `writes` says whether the storage takes
    what it is given. -/
structure Workspace where
  sessionId : Option String
  reconnectToken : Option String
  activeSessions : OrderedMap String SessionRecord
  stored : Option StoredWorkspace
  writes : Bool

namespace Workspace

def persist (work : Workspace) : Workspace :=
  if work.writes then
    { work with stored := some ⟨work.sessionId, work.activeSessions.values⟩ }
  else work

/-- `{ ...existing, ...record }`; the summary has no reconnect token. -/
def merged (existing : Option SessionRecord) (summary : SessionSummary) : SessionRecord :=
  ⟨summary.sessionId, summary.nodeId, existing.bind (·.reconnectToken), summary.state,
    summary.transportStatus⟩

def merge (work : Workspace) (sessions : List SessionSummary) : Workspace :=
  { work with
    activeSessions := sessions.foldl (fun known summary =>
      known.set summary.sessionId (merged (known.get summary.sessionId) summary))
      work.activeSessions }

/-- The session is marked detached under the token that the page holds. -/
def markDetached (work : Workspace) (sessionId : String) : Workspace :=
  let stored := (work.activeSessions.get sessionId).getD ⟨sessionId, none, none, "", none⟩
  let record := { stored with state := "detached", reconnectToken := work.reconnectToken }
  { work with activeSessions := work.activeSessions.set sessionId record }.persist

def remember (work : Workspace) (sessionId : String) (nodeId reconnectToken : Option String)
    (transportStatus : Option TerminalTransportStatus) : Workspace :=
  if sessionId = "" then work
  else
    let record := ⟨sessionId, orElse nodeId none, orElse reconnectToken work.reconnectToken,
      "active", transportStatus⟩
    { work with activeSessions := work.activeSessions.set sessionId record }.persist

def remove (work : Workspace) (id : String) : Workspace :=
  if id = "" then work
  else
    let work := { work with activeSessions := work.activeSessions.delete id }
    (if work.sessionId = some id then { work with sessionId := none, reconnectToken := none }
    else work).persist

/-- The records that were stored, each under its session id. -/
def load (work : Workspace) : Workspace :=
  let records := (work.stored.map (·.sessions)).getD []
  { work with
    activeSessions := .ofValues (·.sessionId) (records.filter (·.sessionId ≠ "")) }

end Workspace

/-! The page. -/

inductive StatusState where
  | idle
  | connecting
  | connected
  | degraded
  | error
  | disconnected
  | closed
  deriving DecidableEq, Repr

/-- Which buttons are disabled; the mobile buttons follow the others. -/
structure Controls where
  mfa : Bool
  close : Bool
  detach : Bool
  new : Bool
  reconnect : Bool
  retry : Bool
  node : Bool
  deriving DecidableEq, Repr

/-- What the page shows; class names are left out. -/
structure Display where
  label : String
  state : StatusState
  error : String
  authVisible : Bool
  controls : Controls
  tabs : List SessionRecord
  detached : List SessionSummary

inductive Method where
  | get
  | post
  deriving DecidableEq, Repr

/-- A fetch; all of them send the cookies along. -/
structure Request where
  method : Method
  path : String
  csrf : Bool
  json : Bool
  deriving DecidableEq, Repr

def terminalActiveSessionsEndpoint : String := "/terminal/sessions/active"
def terminalDetachedSessionsEndpoint : String := "/terminal/sessions/detached"
def terminalSessionTerminatePrefix : String := "/terminal/sessions"
def authLoginEndpoint : String := "/auth/login"
def authMeEndpoint : String := "/auth/me"
def authTerminalAccessEndpoint : String := "/auth/terminal-access"
def stepUpMfaEndpoint : String := "/auth/mfa/step-up"

/-- Who waits for `ensureAuthenticatedSession`. -/
inductive Waiter where
  | connect (reattach : Bool)
  | login
  | stepUpMfa
  deriving DecidableEq, Repr

/-- Where an asynchronous function stands at an `await`; an `await` of a promise that is settled
    already is one of these too. -/
inductive Task where
  | currentSession (waiter : Waiter)
  | currentSessionError (waiter : Waiter)
  | checked (waiter : Waiter) (known : Bool)
  | access (reattach : Bool)
  | accessError
  | granted (reattach : Bool)
  | login
  | loginError
  | stepUpMfa
  | stepUpMfaError
  | sessionLists
  | activeSessions (detachedOk : Bool)
  | detachedSessions
  deriving DecidableEq, Repr

/-- What an `await` gives: a response by its status, a failed request, an error text from the
    body of a response, a list from a body, whether the two list requests went well. -/
inductive Reply where
  | response (status : Nat)
  | failed
  | errorBody (text : Option String)
  | sessions (parsed : Option (List SessionSummary))
  | lists (activeOk detachedOk : Bool)
  | settled

structure Page where
  ready : Bool
  cols : Nat
  rows : Nat
  wire : Wire
  work : Workspace
  display : Display
  cleanedUp : Bool
  authenticated : Bool
  loginBusy : Bool
  mobileCtrlActive : Bool
  nodeInput : String
  pending : List Task
  requests : List Request

namespace Page

/-- The page before its script runs; only the storage of the tab is older. -/
def blank (stored : Option StoredWorkspace) : Page where
  ready := false
  cols := 80
  rows := 24
  wire := ⟨[], none⟩
  work := ⟨none, none, .empty, stored, true⟩
  display := ⟨"", .idle, "", false, ⟨false, false, false, false, true, false, false⟩, [], []⟩
  cleanedUp := false
  authenticated := false
  loginBusy := false
  mobileCtrlActive := false
  nodeInput := ""
  pending := []
  requests := []

def await (page : Page) (task : Task) : Page := { page with pending := page.pending ++ [task] }

def fetch (page : Page) (method : Method) (path : String) (csrf json : Bool) : Page :=
  { page with requests := page.requests ++ [⟨method, path, csrf, json⟩] }

def setError (page : Page) (message : String) : Page :=
  { page with display := { page.display with error := message } }

def setAuthVisible (page : Page) (visible : Bool) : Page :=
  { page with display := { page.display with authVisible := visible } }

def syncControls (page : Page) : Page :=
  let state := page.display.state
  { page with display := { page.display with
      controls := {
        mfa := !page.authenticated || page.loginBusy || state = .connecting
        close := !page.authenticated || state = .idle || state = .closed || state = .disconnected
        detach := !page.authenticated || !truthy page.work.sessionId || state = .idle
        new := !page.authenticated || page.loginBusy || state = .connecting
        reconnect := !(state = .disconnected && truthy page.work.sessionId &&
          truthy page.work.reconnectToken)
        retry := page.loginBusy || state = .connecting || state = .connected || state = .degraded
        node := !page.authenticated || page.loginBusy || state = .connecting } } }

def setStatus (page : Page) (label : String) (state : StatusState) : Page :=
  { page with display := { page.display with label, state } }.syncControls

def setLoginBusy (page : Page) (busy : Bool) : Page :=
  { page with loginBusy := busy }.syncControls

def renderTabs (page : Page) : Page :=
  { page with display := { page.display with tabs := page.work.activeSessions.values } }

def send (page : Page) (frame : Frame) : Page := { page with wire := page.wire.send frame }

def closeSocket (page : Page) : Page := { page with wire := page.wire.close }

/-- The id of the current session, if there is one. -/
def current (page : Page) : Option String := page.work.sessionId.filter (· ≠ "")

def transportStatusLabel (transportStatus : TerminalTransportStatus) : Option String :=
  if transportStatus.degraded then
    match transportStatus.kind with
    | .longPollHttps => some "Degraded: Long Poll"
    | _ => some "Degraded Transport"
  else none

/-- A session that runs is shown as active, unless its transport is degraded. -/
def reportTransportStatus (page : Page) (transportStatus : Option TerminalTransportStatus) :
    Page :=
  match transportStatus.bind (fun status => (transportStatusLabel status).map (·, status)) with
  | none => page.setStatus "Active" .connected
  | some (label, status) =>
    let page := page.setStatus label .degraded
    if truthy status.message then page.setError (status.message.getD "") else page

def resize (page : Page) (width height : Nat) : Page :=
  let page := { page with cols := max 20 (width / 9), rows := max 6 (height / 18) }
  match page.current with
  | some sessionId => page.send (.resize sessionId page.cols page.rows)
  | none => page

/-! Functions that wait for the control plane. -/

def refreshSessionLists (page : Page) : Page :=
  if page.authenticated then
    ((page.fetch .get terminalActiveSessionsEndpoint false false).fetch .get
      terminalDetachedSessionsEndpoint false false).await .sessionLists
  else page

def ensureAuthenticatedSession (page : Page) (waiter : Waiter) : Page :=
  if page.authenticated then page.await (.checked waiter true)
  else
    (((page.setStatus "Checking Session" .connecting).setError "").fetch .get authMeEndpoint false
      false).await (.currentSession waiter)

def connect (page : Page) (reattach : Bool) : Page :=
  page.ensureAuthenticatedSession (.connect reattach)

/-- The end of `connect`: a live socket is closed and a new one takes its place. -/
def openSocket (page : Page) (reattach : Bool) : Page :=
  let page := (page.setStatus "Connecting" .connecting).setError ""
  { page with wire := page.wire.close.construct reattach }

def login (page : Page) (email password : String) : Page :=
  if email = "" || password = "" then
    (page.setStatus "Login Required" .error).setError "Email and password are required."
  else
    ((((page.setLoginBusy true).setStatus "Signing In" .connecting).setError "").fetch .post
      authLoginEndpoint true true).await .login

def isOk (status : Nat) : Bool := 200 ≤ status && status < 300

/-- The continuation of a task with what it waited for. -/
def resume (page : Page) : Task → Reply → Option Page
  | .currentSession waiter, .response status =>
    if isOk status then
      some (((({ page with authenticated := true }.setAuthVisible false).setStatus "Idle"
        .idle).refreshSessionLists).await (.checked waiter true))
    else
      let page := { page with authenticated := false }.setAuthVisible true
      if status = 401 then
        some (((page.setStatus "Login Required" .idle).setError
          "Sign in before opening a terminal.").await (.checked waiter false))
      else some ((page.setStatus "Error" .error).await (.currentSessionError waiter))
  | .currentSession waiter, .failed =>
    some (((({ page with authenticated := false }.setAuthVisible true).setStatus "Error"
      .error).setError "Unable to reach the control plane.").await (.checked waiter false))
  | .currentSessionError waiter, .errorBody text =>
    some ((page.setError (text.getD "Unable to verify the current session.")).await
      (.checked waiter false))
  | .checked (.connect reattach) known, .settled =>
    if known then
      some ((page.fetch .get authTerminalAccessEndpoint false false).await (.access reattach))
    else some page
  | .checked .login known, .settled =>
    some ((if known then page.connect false else page).setLoginBusy false)
  | .checked .stepUpMfa known, .settled =>
    if known then
      some ((((page.setStatus "MFA" .connecting).setError "").fetch .post stepUpMfaEndpoint true
        true).await .stepUpMfa)
    else some page
  | .access reattach, .response status =>
    if isOk status then some (page.await (.granted reattach))
    else
      let page := { page with authenticated := status ≠ 401 }
      if status = 401 then
        some (((page.setAuthVisible true).setStatus "Login Required" .idle).await .accessError)
      else if status = 403 then
        some ((page.setStatus "MFA Required" .error).await .accessError)
      else some ((page.setStatus "Error" .error).await .accessError)
  | .access _, .failed => some page
  | .accessError, .errorBody text =>
    some (page.setError (text.getD "Unable to verify terminal access."))
  | .granted reattach, .settled => some (page.openSocket reattach)
  | .login, .response status =>
    if isOk status then
      some ({ page with authenticated := false }.ensureAuthenticatedSession .login)
    else
      some ((({ page with authenticated := false }.setAuthVisible true).setStatus
        "Login Required" .error).await .loginError)
  | .login, .failed =>
    some (((({ page with authenticated := false }.setAuthVisible true).setStatus "Error"
      .error).setError "Unable to sign in to the control plane.").setLoginBusy false)
  | .loginError, .errorBody text =>
    some ((page.setError (text.getD "Login failed.")).setLoginBusy false)
  | .stepUpMfa, .response status =>
    if isOk status then some (page.connect false)
    else
      let page :=
        if status = 401 then { page with authenticated := false }.setAuthVisible true else page
      some ((page.setStatus "MFA Required" .error).await .stepUpMfaError)
  | .stepUpMfa, .failed =>
    some ((page.setStatus "Error" .error).setError "Unable to complete step-up MFA.")
  | .stepUpMfaError, .errorBody text =>
    some (page.setError (text.getD "Step-up MFA request failed."))
  | .sessionLists, .lists activeOk detachedOk =>
    if activeOk then some (page.await (.activeSessions detachedOk))
    else if detachedOk then some (page.await .detachedSessions)
    else some { page with work := page.work.persist }.renderTabs
  | .sessionLists, .failed => some page
  | .activeSessions detachedOk, .sessions (some sessions) =>
    let page := { page with work := page.work.merge sessions }
    if detachedOk then some (page.await .detachedSessions)
    else some { page with work := page.work.persist }.renderTabs
  | .activeSessions _, .sessions none => some page
  | .detachedSessions, .sessions (some sessions) =>
    let page := { page with display := { page.display with detached := sessions } }
    some { page with work := page.work.persist }.renderTabs
  | .detachedSessions, .sessions none => some page
  | _, _ => none

/-! Sockets and the messages that come in on them. -/

/-- What a message event carries: no JSON, a message of the control plane or any other value. -/
inductive Incoming where
  | invalid
  | message (message : TerminalServerMessage)
  | other

def isJsSpace (c : Char) : Bool :=
  (9 ≤ c.toNat && c.toNat ≤ 13) || (0x2000 ≤ c.toNat && c.toNat ≤ 0x200a) ||
    c.toNat ∈ [0x20, 0xa0, 0x1680, 0x2028, 0x2029, 0x202f, 0x205f, 0x3000, 0xfeff]

def trim (text : String) : String :=
  String.ofList ((text.toList.dropWhile isJsSpace).reverse.dropWhile isJsSpace).reverse

def onOpen (page : Page) (reattach : Bool) (width height : Nat) : Page :=
  let page := (page.setStatus "Connected" .connected).resize width height
  match page.current, page.work.reconnectToken with
  | some sessionId, some token =>
    if reattach && token ≠ "" then page.send (.reattach sessionId token)
    else page.send (.start (orElse (trim page.nodeInput) none) page.cols page.rows)
  | _, _ => page.send (.start (orElse (trim page.nodeInput) none) page.cols page.rows)

def removeSession (page : Page) (id : String) : Page :=
  if id = "" then page else { page with work := page.work.remove id }.renderTabs

def rememberSession (page : Page) (sessionId : String) (nodeId reconnectToken : Option String)
    (transportStatus : Option TerminalTransportStatus) : Page :=
  if sessionId = "" then page
  else
    { page with
        work := page.work.remember sessionId nodeId reconnectToken transportStatus }.renderTabs

def onMessage (page : Page) : Incoming → Page
  | .invalid => (page.setStatus "Error" .error).setError "Terminal server sent an invalid message."
  | .message (.started sessionId nodeId _ reconnectToken transportStatus) =>
    let token := reconnectToken.map TerminalReconnectToken.val
    let work := { page.work with
      sessionId := some sessionId.val
      reconnectToken := orElse token none }
    (({ page with work }.rememberSession sessionId.val (nodeId.map NodeId.val) token
      transportStatus).reportTransportStatus transportStatus)
  | .message (.reattached sessionId nodeId _ reconnectToken transportStatus) =>
    let token := reconnectToken.map TerminalReconnectToken.val
    let work := { page.work with
      sessionId := some sessionId.val
      reconnectToken := orElse token page.work.reconnectToken }
    (({ page with work }.rememberSession sessionId.val (nodeId.map NodeId.val) token
      transportStatus).reportTransportStatus transportStatus)
  | .message (.detached sessionId) =>
    (({ page with work := page.work.markDetached sessionId.val
      }.renderTabs).refreshSessionLists).setStatus "Detached" .disconnected
  | .message (.error _ error) =>
    (page.setStatus "Error" .error).setError
      (if error.message = "" then "Terminal connection failed." else error.message)
  | .message (.exited sessionId _) => (page.removeSession sessionId.val).setStatus "Closed" .closed
  | .message (.output ..) | .message (.pong _) | .other => page

/-- A socket that closes; when it failed, an error event comes first. -/
def onClose (page : Page) (failed : Bool) : Page :=
  let page :=
    if failed then
      (page.setStatus "Error" .error).setError "Unable to connect to the terminal WebSocket."
    else page
  page.setStatus "Disconnected" .disconnected

/-! The keyboard and the buttons. -/

def terminalData (data : String) : String := String.ofList (data.toList.filter (· ≠ '\x00'))

/-- A single letter gives the control character that Ctrl makes of it. -/
def controlCharacter (data : String) : Option String :=
  match data.toList with
  | [c] => if c.isAlpha then some (String.singleton (Char.ofNat (c.toUpper.toNat - 64))) else none
  | _ => none

def sendInput (page : Page) (data : String) : Page :=
  match page.current with
  | none => page
  | some sessionId =>
    match if page.mobileCtrlActive then controlCharacter (terminalData data) else none with
    | some control => { page with mobileCtrlActive := false }.send (.input sessionId control)
    | none => page.send (.input sessionId (terminalData data))

def sendMobileKey (page : Page) (data : String) : Page :=
  { page.sendInput data with mobileCtrlActive := false }

/-- What reading the clipboard comes to. -/
inductive Clipboard where
  | unavailable
  | failed
  | text (text : String)

def sendMobilePaste (page : Page) : Clipboard → Page
  | .unavailable => page.setError "Clipboard paste is not available in this browser context."
  | .failed => page.setError "Unable to read from the clipboard."
  | .text text => if text = "" then page else page.sendMobileKey text

def closeTerminal (page : Page) : Page :=
  let page :=
    match page.current with
    | some sessionId =>
      ((page.send (.terminate sessionId)).fetch .post
        (terminalSessionTerminatePrefix ++ "/" ++ sessionId ++ "/terminate") true
        false).removeSession sessionId
    | none => page
  ({ page with work := { page.work with reconnectToken := none } }.closeSocket).setStatus
    "Closed" .closed

def detachTerminal (page : Page) : Page :=
  match page.current with
  | none => page
  | some sessionId =>
    let page := page.send (.detach sessionId)
    (({ page with work := page.work.markDetached sessionId }.renderTabs).closeSocket).setStatus
      "Detached" .disconnected

def closeUiTab (page : Page) : Page :=
  page.detachTerminal.removeSession (page.current.getD "")

def openNewTerminal (page : Page) : Page :=
  let page := page.closeSocket
  { page with work := { page.work with sessionId := none, reconnectToken := none } }.connect false

def cleanupTerminal (page : Page) : Page :=
  if page.cleanedUp then page
  else
    let page := { page with cleanedUp := true }
    (match page.current with
    | some sessionId => page.send (.detach sessionId)
    | none => page).closeSocket

def reconnect (page : Page) : Page :=
  if truthy page.work.sessionId && truthy page.work.reconnectToken then
    (page.setStatus "Reconnecting" .connecting).connect true
  else page

def clickTab (page : Page) (record : SessionRecord) : Page :=
  let work := { page.work with
    sessionId := some record.sessionId
    reconnectToken := orElse record.reconnectToken none }
  ({ page with work }.setStatus "Reconnecting" .connecting).connect true

def clickDetached (page : Page) (record : SessionSummary) : Page :=
  let stored := (page.work.activeSessions.get record.sessionId).bind (·.reconnectToken)
  let work := { page.work with
    sessionId := some record.sessionId
    reconnectToken := orElse stored page.work.reconnectToken }
  let page := { page with work }
  if truthy work.reconnectToken then page.connect true
  else
    page.setError
      "This detached session requires a reconnect token from the active browser workspace."

/-- The end of the script: the stored workspace is loaded and a first connection is made. -/
def load (page : Page) : Page :=
  let page := ({ page with ready := true }.setStatus "Idle" .idle).setAuthVisible false
  let page := { page with work := page.work.load }.renderTabs
  let active := (page.work.stored.bind (·.activeSessionId)).filter (· ≠ "")
  match active.bind page.work.activeSessions.get with
  | some record =>
    let token := orElse record.reconnectToken none
    let work := { page.work with sessionId := some record.sessionId, reconnectToken := token }
    { page with work }.connect (truthy token)
  | none => page.connect false

/-! Events. -/

inductive Button where
  | close
  | new
  | detach
  | closeTab
  | mfa
  | reconnect
  | retry
  deriving DecidableEq, Repr

inductive Event where
  | loaded
  | reloaded
  | resumed (task : Nat) (reply : Reply)
  | opened (ref : SocketRef) (width height : Nat)
  | received (ref : SocketRef) (incoming : Incoming)
  | closed (ref : SocketRef) (failed : Bool)
  | resized (width height : Nat)
  | typed (data : String)
  | mobileCtrl
  | mobileKey (data : String)
  | nodeTyped (text : String)
  | login (email password : String)
  | clicked (button : Button)
  | tab (index : Nat)
  | detachedRow (index : Nat)
  | pasted (clipboard : Clipboard)
  | left

def Event.isLoaded : Event → Bool
  | .loaded => true
  | _ => false

def disabled (page : Page) : Button → Bool
  | .close => page.display.controls.close
  | .new => page.display.controls.new
  | .detach | .closeTab => page.display.controls.detach
  | .mfa => page.display.controls.mfa
  | .reconnect => page.display.controls.reconnect
  | .retry => page.display.controls.retry

def click (page : Page) : Button → Page
  | .close => page.closeTerminal
  | .new => page.openNewTerminal
  | .detach => page.detachTerminal
  | .closeTab => page.closeUiTab
  | .mfa => page.ensureAuthenticatedSession .stepUpMfa
  | .reconnect => page.reconnect
  | .retry => page.connect false

/-- An event of a socket: the browser gives it only to a socket in the states named. -/
def onSocket (page : Page) (ref : SocketRef) (enabled : Socket → Bool) (readyState : ReadyState)
    (handler : Socket → Page → Page) : Option Page :=
  match page.wire.find ref with
  | some socket =>
    if enabled socket then
      some (handler socket { page with wire := page.wire.setReady ref readyState })
    else none
  | none => none

def handle (page : Page) : Event → Option Page
  | .loaded => some page.load
  | .reloaded => some (blank page.work.stored)
  | .resumed task reply =>
    match page.pending[task]? with
    | some waiting => { page with pending := page.pending.eraseIdx task }.resume waiting reply
    | none => none
  | .opened ref width height =>
    page.onSocket ref (·.readyState = .connecting) .open
      (fun socket page => page.onOpen socket.reattach width height)
  | .received ref incoming =>
    page.onSocket ref (·.readyState = .open) .open (fun _ page => page.onMessage incoming)
  | .closed ref failed =>
    page.onSocket ref (·.readyState ≠ .closed) .closed (fun _ page => page.onClose failed)
  | .resized width height =>
    if page.cleanedUp then none else some (page.resize width height)
  | .typed data => some (page.sendInput data)
  | .mobileCtrl => some { page with mobileCtrlActive := !page.mobileCtrlActive }
  | .mobileKey data => some (page.sendMobileKey data)
  | .nodeTyped text => some { page with nodeInput := text }
  | .login email password =>
    if page.loginBusy then none else some (page.login (trim email) password)
  | .clicked button => if page.disabled button then none else some (page.click button)
  | .tab index => page.display.tabs[index]?.map page.clickTab
  | .detachedRow index => page.display.detached[index]?.map page.clickDetached
  | .pasted clipboard => some (page.sendMobilePaste clipboard)
  | .left => some page.cleanupTerminal

/-! What the functions leave alone. -/

section Untouched

variable (page : Page)

@[simp] theorem await_wire (task : Task) : (page.await task).wire = page.wire := rfl

@[simp] theorem setError_wire (message : String) : (page.setError message).wire = page.wire := rfl

@[simp] theorem setAuthVisible_wire (visible : Bool) :
    (page.setAuthVisible visible).wire = page.wire := rfl

@[simp] theorem setStatus_wire (label : String) (state : StatusState) :
    (page.setStatus label state).wire = page.wire := rfl

@[simp] theorem setLoginBusy_wire (busy : Bool) : (page.setLoginBusy busy).wire = page.wire := rfl

@[simp] theorem renderTabs_wire : page.renderTabs.wire = page.wire := rfl

@[simp] theorem fetch_wire (method : Method) (path : String) (csrf json : Bool) :
    (page.fetch method path csrf json).wire = page.wire := rfl

@[simp] theorem reportTransportStatus_wire (transportStatus : Option TerminalTransportStatus) :
    (page.reportTransportStatus transportStatus).wire = page.wire := by
  unfold reportTransportStatus
  split
  · rfl
  · split <;> rfl

@[simp] theorem refreshSessionLists_wire : page.refreshSessionLists.wire = page.wire := by
  unfold refreshSessionLists
  split <;> rfl

@[simp] theorem ensureAuthenticatedSession_wire (waiter : Waiter) :
    (page.ensureAuthenticatedSession waiter).wire = page.wire := by
  unfold ensureAuthenticatedSession
  split <;> rfl

@[simp] theorem connect_wire (reattach : Bool) : (page.connect reattach).wire = page.wire := by
  simp [connect]

@[simp] theorem login_wire (email password : String) :
    (page.login email password).wire = page.wire := by
  unfold login
  split <;> rfl

@[simp] theorem await_work (task : Task) : (page.await task).work = page.work := rfl

@[simp] theorem setError_work (message : String) : (page.setError message).work = page.work := rfl

@[simp] theorem setAuthVisible_work (visible : Bool) :
    (page.setAuthVisible visible).work = page.work := rfl

@[simp] theorem setStatus_work (label : String) (state : StatusState) :
    (page.setStatus label state).work = page.work := rfl

@[simp] theorem setLoginBusy_work (busy : Bool) : (page.setLoginBusy busy).work = page.work := rfl

@[simp] theorem renderTabs_work : page.renderTabs.work = page.work := rfl

@[simp] theorem fetch_work (method : Method) (path : String) (csrf json : Bool) :
    (page.fetch method path csrf json).work = page.work := rfl

@[simp] theorem send_work (frame : Frame) : (page.send frame).work = page.work := rfl

@[simp] theorem closeSocket_work : page.closeSocket.work = page.work := rfl

@[simp] theorem reportTransportStatus_work (transportStatus : Option TerminalTransportStatus) :
    (page.reportTransportStatus transportStatus).work = page.work := by
  unfold reportTransportStatus
  split
  · rfl
  · split <;> rfl

@[simp] theorem refreshSessionLists_work : page.refreshSessionLists.work = page.work := by
  unfold refreshSessionLists
  split <;> rfl

@[simp] theorem ensureAuthenticatedSession_work (waiter : Waiter) :
    (page.ensureAuthenticatedSession waiter).work = page.work := by
  unfold ensureAuthenticatedSession
  split <;> rfl

@[simp] theorem connect_work (reattach : Bool) : (page.connect reattach).work = page.work := by
  simp [connect]

@[simp] theorem login_work (email password : String) :
    (page.login email password).work = page.work := by
  unfold login
  split <;> rfl

@[simp] theorem await_requests (task : Task) : (page.await task).requests = page.requests := rfl

@[simp] theorem setError_requests (message : String) :
    (page.setError message).requests = page.requests := rfl

@[simp] theorem setAuthVisible_requests (visible : Bool) :
    (page.setAuthVisible visible).requests = page.requests := rfl

@[simp] theorem setStatus_requests (label : String) (state : StatusState) :
    (page.setStatus label state).requests = page.requests := rfl

@[simp] theorem setLoginBusy_requests (busy : Bool) :
    (page.setLoginBusy busy).requests = page.requests := rfl

@[simp] theorem renderTabs_requests : page.renderTabs.requests = page.requests := rfl

@[simp] theorem send_requests (frame : Frame) : (page.send frame).requests = page.requests := rfl

@[simp] theorem closeSocket_requests : page.closeSocket.requests = page.requests := rfl

@[simp] theorem reportTransportStatus_requests (transportStatus : Option TerminalTransportStatus) :
    (page.reportTransportStatus transportStatus).requests = page.requests := by
  unfold reportTransportStatus
  split
  · rfl
  · split <;> rfl

end Untouched

end Page

/-- The page of one tab. A label also says whether the session storage takes what it is given;
    what a step shows is the requests that it makes. -/
def terminalPage : Machine Page (Page.Event × Bool) Request where
  step page label :=
    if page.ready = label.1.isLoaded then none
    else
      ({ page with work := { page.work with writes := label.2 } }.handle label.1).map
        (fun (page : Page) => ({ page with requests := [] }, page.requests))

end Sunbolt.Ui
