/- Module: Sunbolt/Ui/PageOrigins
   scope: sunbolt-ui/src/browser_bridge.rs
   digest: Where the session ids and reconnect tokens come from that a page keeps and sends. -/

import Sunbolt.Ui.BridgeSockets

set_option autoImplicit false
set_option relaxedAutoImplicit false

namespace Sunbolt.Ui

open Sunbolt.Library
open Sunbolt.Protocol (TerminalTransportStatus)

section Traced

/-! Any two properties of session ids and of reconnect tokens. -/

variable (ids tokens : String → Prop)

def SessionRecord.Traced (record : SessionRecord) : Prop :=
  ids record.sessionId ∧ ∀ token ∈ record.reconnectToken, tokens token

def Frame.Traced : Frame → Prop
  | .start .. => True
  | .reattach sessionId reconnectToken => ids sessionId ∧ tokens reconnectToken
  | .resize sessionId _ _ => ids sessionId
  | .input sessionId _ => ids sessionId
  | .detach sessionId => ids sessionId
  | .terminate sessionId => ids sessionId

def terminatePath (sessionId : String) : String :=
  terminalSessionTerminatePrefix ++ "/" ++ sessionId ++ "/terminate"

/-- The requests of the page, the last one for a session that has the property. -/
inductive Request.Traced : Request → Prop
  | active : Traced ⟨.get, terminalActiveSessionsEndpoint, false, false⟩
  | detached : Traced ⟨.get, terminalDetachedSessionsEndpoint, false, false⟩
  | me : Traced ⟨.get, authMeEndpoint, false, false⟩
  | access : Traced ⟨.get, authTerminalAccessEndpoint, false, false⟩
  | login : Traced ⟨.post, authLoginEndpoint, true, true⟩
  | stepUp : Traced ⟨.post, stepUpMfaEndpoint, true, true⟩
  | terminate (sessionId : String) (known : ids sessionId) (named : sessionId ≠ "") :
    Traced ⟨.post, terminatePath sessionId, true, false⟩

structure StoredWorkspace.Traced (stored : StoredWorkspace) : Prop where
  active : ∀ id ∈ stored.activeSessionId, ids id
  sessions : ∀ record ∈ stored.sessions, record.Traced ids tokens

structure Workspace.Traced (work : Workspace) : Prop where
  sessionId : ∀ id ∈ work.sessionId, ids id
  reconnectToken : ∀ token ∈ work.reconnectToken, tokens token
  sessions : ∀ record ∈ work.activeSessions.values, record.Traced ids tokens
  stored : ∀ stored ∈ work.stored, stored.Traced ids tokens

/-- Every frame that has gone out on a socket of the page. -/
def Wire.frames (wire : Wire) : List Frame :=
  wire.former.flatMap (·.sent) ++ wire.socket.toList.flatMap (·.sent)

/-- All that a page keeps, shows and sends. -/
structure TracedParts (wire : Wire) (work : Workspace) (tabs : List SessionRecord)
    (detached : List SessionSummary) (requests : List Request) : Prop where
  frames : ∀ frame ∈ wire.frames, frame.Traced ids tokens
  work : work.Traced ids tokens
  tabs : ∀ record ∈ tabs, record.Traced ids tokens
  detached : ∀ record ∈ detached, ids record.sessionId
  requests : ∀ request ∈ requests, request.Traced ids

def Page.Traced (page : Page) : Prop :=
  TracedParts ids tokens page.wire page.work page.display.tabs page.display.detached page.requests

/-- What the control plane says in an event has the properties. -/
def Page.Event.Traced : Page.Event → Prop
  | .received _ (.message (.started sessionId _ _ reconnectToken _)) =>
    ids sessionId.val ∧ ∀ token ∈ reconnectToken, tokens token.val
  | .received _ (.message (.reattached sessionId _ _ reconnectToken _)) =>
    ids sessionId.val ∧ ∀ token ∈ reconnectToken, tokens token.val
  | .received _ (.message (.detached sessionId)) => ids sessionId.val
  | .resumed _ (.sessions (some sessions)) => ∀ record ∈ sessions, ids record.sessionId
  | _ => True

end Traced

variable {ids tokens : String → Prop}

theorem orElse_cases (value other : Option String) :
    orElse value other = value ∨ orElse value other = other := by
  unfold orElse
  split
  · exact Or.inl rfl
  · exact Or.inr rfl

theorem forall_orElse {P : String → Prop} {value other : Option String}
    (hvalue : ∀ text ∈ value, P text) (hother : ∀ text ∈ other, P text) :
    ∀ text ∈ orElse value other, P text := by
  rcases orElse_cases value other with h | h
  · rwa [h]
  · rwa [h]

namespace Wire

variable {wire : Wire}

@[simp] theorem close_frames (wire : Wire) : wire.close.frames = wire.frames := by
  have hclose : ∀ socket : Socket, socket.close.sent = socket.sent := by
    intro socket
    unfold Socket.close
    split <;> rfl
  cases hsocket : wire.socket <;> simp [close, frames, hsocket, hclose]

@[simp] theorem construct_frames (wire : Wire) (reattach : Bool) :
    (wire.construct reattach).frames = wire.frames := by
  simp [construct, frames]

@[simp] theorem setReady_frames (wire : Wire) (ref : SocketRef) (readyState : ReadyState) :
    (wire.setReady ref readyState).frames = wire.frames := by
  cases ref with
  | current => cases hsocket : wire.socket <;> simp [setReady, frames, hsocket]
  | former index =>
    have hsent : (wire.former.modify index ({ · with readyState })).map (·.sent) =
        wire.former.map (·.sent) := by
      refine List.ext_getElem (by simp) (fun i _ _ => ?_)
      simp only [List.getElem_map, List.getElem_modify]
      split <;> rfl
    simp only [setReady, frames, List.flatMap_def, hsent]

theorem mem_send_frames {frame other : Frame} (h : other ∈ (wire.send frame).frames) :
    other ∈ wire.frames ∨ other = frame := by
  cases hsocket : wire.socket with
  | none => exact Or.inl (by simpa [send, frames, hsocket] using h)
  | some socket =>
    by_cases hopen : socket.readyState = .open
    · simpa [send, frames, hsocket, hopen, or_assoc] using h
    · simpa [send, frames, hsocket, hopen] using Or.inl h

end Wire

namespace Workspace

variable {work : Workspace}

theorem Traced.persist (h : work.Traced ids tokens) : work.persist.Traced ids tokens := by
  unfold Workspace.persist
  split
  · refine { h with stored := fun stored hstored => ?_ }
    cases hstored
    exact ⟨h.sessionId, h.sessions⟩
  · exact h

theorem traced_of_get (h : work.Traced ids tokens) {id : String} {record : SessionRecord}
    (found : work.activeSessions.get id = some record) : record.Traced ids tokens :=
  h.sessions record (OrderedMap.mem_values_of_get found)

/-- A record that is set is the one given or one there was. -/
theorem Traced.set (h : work.Traced ids tokens) (id : String) {record : SessionRecord}
    (known : record.Traced ids tokens) :
    Traced ids tokens { work with activeSessions := work.activeSessions.set id record } where
  sessionId := h.sessionId
  reconnectToken := h.reconnectToken
  stored := h.stored
  sessions other hother := by
    rcases OrderedMap.mem_values_set hother with rfl | hold
    · exact known
    · exact h.sessions other hold

theorem Traced.markDetached (h : work.Traced ids tokens) {sessionId : String}
    (known : ids sessionId) : (work.markDetached sessionId).Traced ids tokens := by
  refine (h.set sessionId ⟨?_, h.reconnectToken⟩).persist
  cases hget : work.activeSessions.get sessionId with
  | none => exact known
  | some record => exact (traced_of_get h hget).1

theorem Traced.remember (h : work.Traced ids tokens) {sessionId : String} (known : ids sessionId)
    (nodeId : Option String) {reconnectToken : Option String}
    (given : ∀ token ∈ reconnectToken, tokens token)
    (transportStatus : Option TerminalTransportStatus) :
    (work.remember sessionId nodeId reconnectToken transportStatus).Traced ids tokens := by
  unfold Workspace.remember
  split
  · exact h
  · exact (h.set sessionId ⟨known, forall_orElse given h.reconnectToken⟩).persist

theorem Traced.remove (h : work.Traced ids tokens) (id : String) :
    (work.remove id).Traced ids tokens := by
  have deleted : Traced ids tokens
      { work with activeSessions := work.activeSessions.delete id } :=
    { h with sessions := fun record hrecord =>
        h.sessions record (OrderedMap.mem_values_delete hrecord) }
  unfold Workspace.remove
  split
  · exact h
  · dsimp only
    split
    · exact Traced.persist { deleted with
        sessionId := fun _ hid => (by cases hid)
        reconnectToken := fun _ htoken => (by cases htoken) }
    · exact deleted.persist

theorem Traced.merge (h : work.Traced ids tokens) {sessions : List SessionSummary}
    (known : ∀ record ∈ sessions, ids record.sessionId) :
    (work.merge sessions).Traced ids tokens := by
  refine { h with sessions := ?_ }
  unfold Workspace.merge
  dsimp only
  generalize hmap : work.activeSessions = activeSessions
  have hold : ∀ record ∈ activeSessions.values, record.Traced ids tokens := hmap ▸ h.sessions
  clear hmap
  induction sessions generalizing activeSessions with
  | nil => exact hold
  | cons summary sessions ih =>
    rw [List.foldl_cons]
    refine ih (fun record hrecord => known record (List.mem_cons_of_mem _ hrecord)) _ ?_
    intro record hrecord
    rcases OrderedMap.mem_values_set hrecord with rfl | hrecord
    · refine ⟨known summary List.mem_cons_self, fun token htoken => ?_⟩
      obtain ⟨existing, hget, htoken⟩ := Option.bind_eq_some_iff.mp htoken
      exact (hold existing (OrderedMap.mem_values_of_get hget)).2 token htoken
    · exact hold record hrecord

theorem Traced.load (h : work.Traced ids tokens) : work.load.Traced ids tokens := by
  refine { h with sessions := fun record hrecord => ?_ }
  have hmem := List.mem_of_mem_filter (OrderedMap.mem_values_ofValues hrecord)
  cases hstored : work.stored with
  | none => simp [hstored] at hmem
  | some stored =>
    rw [hstored] at hmem
    exact (h.stored stored hstored).sessions record hmem

end Workspace

namespace Page

variable {page next : Page}

theorem traced_blank {stored : Option StoredWorkspace}
    (h : ∀ workspace ∈ stored, workspace.Traced ids tokens) :
    (blank stored).Traced ids tokens where
  frames := fun _ hframe => absurd hframe List.not_mem_nil
  work := ⟨fun _ hid => (by cases hid), fun _ htoken => (by cases htoken),
    fun _ hrecord => absurd hrecord List.not_mem_nil, h⟩
  tabs := fun _ hrecord => absurd hrecord List.not_mem_nil
  detached := fun _ hrecord => absurd hrecord List.not_mem_nil
  requests := fun _ hrequest => absurd hrequest List.not_mem_nil

/-! What a page shows and waits for does not matter. -/

@[simp] theorem traced_await (task : Task) :
    (page.await task).Traced ids tokens ↔ page.Traced ids tokens := Iff.rfl

@[simp] theorem traced_setError (message : String) :
    (page.setError message).Traced ids tokens ↔ page.Traced ids tokens := Iff.rfl

@[simp] theorem traced_setAuthVisible (visible : Bool) :
    (page.setAuthVisible visible).Traced ids tokens ↔ page.Traced ids tokens := Iff.rfl

@[simp] theorem traced_setStatus (label : String) (state : StatusState) :
    (page.setStatus label state).Traced ids tokens ↔ page.Traced ids tokens := Iff.rfl

@[simp] theorem traced_setLoginBusy (busy : Bool) :
    (page.setLoginBusy busy).Traced ids tokens ↔ page.Traced ids tokens := Iff.rfl

@[simp] theorem traced_authenticated (authenticated : Bool) :
    Traced ids tokens { page with authenticated } ↔ page.Traced ids tokens := Iff.rfl

theorem Traced.fetch (h : page.Traced ids tokens) (request : Request)
    (known : request.Traced ids) :
    (page.fetch request.method request.path request.csrf request.json).Traced ids tokens := by
  refine { h with requests := fun other hother => ?_ }
  rcases List.mem_append.mp hother with hold | hnew
  · exact h.requests other hold
  · rw [List.mem_singleton] at hnew
    exact hnew ▸ known

theorem Traced.renderTabs (h : page.Traced ids tokens) : page.renderTabs.Traced ids tokens :=
  { h with tabs := h.work.sessions }

theorem Traced.send (h : page.Traced ids tokens) {frame : Frame} (known : frame.Traced ids tokens) :
    (page.send frame).Traced ids tokens := by
  refine { h with frames := fun other hother => ?_ }
  rcases Wire.mem_send_frames hother with hold | rfl
  · exact h.frames other hold
  · exact known

theorem Traced.withWork (h : page.Traced ids tokens) {work : Workspace}
    (known : work.Traced ids tokens) : Traced ids tokens { page with work } :=
  { h with work := known }

theorem traced_current (h : page.Traced ids tokens) {sessionId : String}
    (hcurrent : page.current = some sessionId) : ids sessionId ∧ sessionId ≠ "" := by
  obtain ⟨hsession, hnamed⟩ := Option.filter_eq_some_iff.mp hcurrent
  exact ⟨h.work.sessionId sessionId hsession, by simpa using hnamed⟩

theorem Traced.reportTransportStatus (h : page.Traced ids tokens)
    (transportStatus : Option TerminalTransportStatus) :
    (page.reportTransportStatus transportStatus).Traced ids tokens := by
  unfold Page.reportTransportStatus
  split
  · exact h
  · split
    · exact h
    · exact h

theorem Traced.refreshSessionLists (h : page.Traced ids tokens) :
    page.refreshSessionLists.Traced ids tokens := by
  unfold Page.refreshSessionLists
  split
  · exact (h.fetch _ .active).fetch _ .detached
  · exact h

theorem Traced.ensureAuthenticatedSession (h : page.Traced ids tokens) (waiter : Waiter) :
    (page.ensureAuthenticatedSession waiter).Traced ids tokens := by
  unfold Page.ensureAuthenticatedSession
  split
  · exact h
  · exact h.fetch _ .me

theorem Traced.connect (h : page.Traced ids tokens) (reattach : Bool) :
    (page.connect reattach).Traced ids tokens :=
  h.ensureAuthenticatedSession (.connect reattach)

theorem Traced.openSocket (h : page.Traced ids tokens) (reattach : Bool) :
    (page.openSocket reattach).Traced ids tokens := by
  refine { h with frames := fun frame hframe => ?_ }
  have hold : frame ∈ (page.wire.close.construct reattach).frames := hframe
  rw [Wire.construct_frames, Wire.close_frames] at hold
  exact h.frames frame hold

theorem Traced.login (h : page.Traced ids tokens) (email password : String) :
    (page.login email password).Traced ids tokens := by
  unfold Page.login
  split
  · exact h
  · exact h.fetch _ .login

theorem Traced.resize (h : page.Traced ids tokens) (width height : Nat) :
    (page.resize width height).Traced ids tokens := by
  unfold Page.resize
  dsimp only
  split
  · rename_i sessionId hcurrent
    exact Traced.send h (traced_current h hcurrent).1
  · exact h

theorem Traced.removeSession (h : page.Traced ids tokens) (id : String) :
    (page.removeSession id).Traced ids tokens := by
  unfold Page.removeSession
  split
  · exact h
  · exact (h.withWork (h.work.remove id)).renderTabs

theorem Traced.rememberSession (h : page.Traced ids tokens) {sessionId : String}
    (known : ids sessionId) (nodeId : Option String) {reconnectToken : Option String}
    (given : ∀ token ∈ reconnectToken, tokens token)
    (transportStatus : Option TerminalTransportStatus) :
    (page.rememberSession sessionId nodeId reconnectToken transportStatus).Traced ids tokens := by
  unfold Page.rememberSession
  split
  · exact h
  · exact (h.withWork (h.work.remember known nodeId given transportStatus)).renderTabs

theorem Traced.onOpen (h : page.Traced ids tokens) (reattach : Bool) (width height : Nat) :
    (page.onOpen reattach width height).Traced ids tokens := by
  have hstatus : (page.setStatus "Connected" .connected).Traced ids tokens := h
  have hresized := hstatus.resize width height
  unfold Page.onOpen
  dsimp only
  split
  · rename_i sessionId token hcurrent htoken
    split
    · exact hresized.send ⟨(traced_current hresized hcurrent).1,
        hresized.work.reconnectToken token htoken⟩
    · exact hresized.send trivial
  · exact hresized.send trivial

/-- A session that has been started or reattached is the current one from here on. -/
private theorem traced_entered (h : page.Traced ids tokens) {sessionId : String}
    (known : ids sessionId) (nodeId : Option String) {given other : Option String}
    (hgiven : ∀ token ∈ given, tokens token) (hother : ∀ token ∈ other, tokens token)
    (transportStatus : Option TerminalTransportStatus) :
    (({ page with work := { page.work with
        sessionId := some sessionId
        reconnectToken := orElse given other } }.rememberSession sessionId nodeId given
          transportStatus).reportTransportStatus transportStatus).Traced ids tokens := by
  have hwork : Workspace.Traced ids tokens { page.work with
      sessionId := some sessionId
      reconnectToken := orElse given other } :=
    { h.work with
      sessionId := fun id hid => Option.some.inj hid ▸ known
      reconnectToken := forall_orElse hgiven hother }
  exact ((h.withWork hwork).rememberSession known nodeId hgiven
    transportStatus).reportTransportStatus transportStatus

theorem Traced.onMessage (h : page.Traced ids tokens) {ref : SocketRef} {incoming : Incoming}
    (known : (Event.received ref incoming).Traced ids tokens) :
    (page.onMessage incoming).Traced ids tokens := by
  cases incoming with
  | message message =>
    cases message with
    | started sessionId nodeId size reconnectToken transportStatus =>
      refine traced_entered h known.1 _ (fun token htoken => ?_) (fun _ hnone => by cases hnone) _
      obtain ⟨given, hgiven, rfl⟩ := Option.map_eq_some_iff.mp htoken
      exact known.2 given hgiven
    | reattached sessionId nodeId size reconnectToken transportStatus =>
      refine traced_entered h known.1 _ (fun token htoken => ?_) h.work.reconnectToken _
      obtain ⟨given, hgiven, rfl⟩ := Option.map_eq_some_iff.mp htoken
      exact known.2 given hgiven
    | detached sessionId =>
      exact (h.withWork (h.work.markDetached known)).renderTabs.refreshSessionLists
    | exited sessionId exit => exact h.removeSession sessionId.val
    | _ => exact h
  | _ => exact h

theorem Traced.sendInput (h : page.Traced ids tokens) (data : String) :
    (page.sendInput data).Traced ids tokens := by
  unfold Page.sendInput
  split
  · exact h
  · rename_i sessionId hcurrent
    split
    · have hreleased : Traced ids tokens { page with mobileCtrlActive := false } := h
      exact hreleased.send (traced_current h hcurrent).1
    · exact h.send (traced_current h hcurrent).1

theorem Traced.sendMobilePaste (h : page.Traced ids tokens) (clipboard : Clipboard) :
    (page.sendMobilePaste clipboard).Traced ids tokens := by
  cases clipboard with
  | text text =>
    simp only [Page.sendMobilePaste]
    split
    · exact h
    · exact h.sendInput text
  | _ => exact h

theorem Traced.closeSocket (h : page.Traced ids tokens) : page.closeSocket.Traced ids tokens := by
  refine { h with frames := fun frame hframe => ?_ }
  have hold : frame ∈ page.wire.close.frames := hframe
  rw [Wire.close_frames] at hold
  exact h.frames frame hold

theorem Traced.closeTerminal (h : page.Traced ids tokens) :
    page.closeTerminal.Traced ids tokens := by
  unfold Page.closeTerminal
  dsimp only
  have gone : ∀ {page : Page}, page.Traced ids tokens →
      Traced ids tokens { page with work := { page.work with reconnectToken := none } } :=
    fun h => h.withWork { h.work with reconnectToken := fun _ htoken => (by cases htoken) }
  split
  · rename_i sessionId hcurrent
    obtain ⟨known, named⟩ := traced_current h hcurrent
    have hsent : (page.send (.terminate sessionId)).Traced ids tokens := h.send known
    have hfetched := hsent.fetch _ (.terminate sessionId known named)
    exact (gone (hfetched.removeSession sessionId)).closeSocket
  · exact (gone h).closeSocket

theorem Traced.detachTerminal (h : page.Traced ids tokens) :
    page.detachTerminal.Traced ids tokens := by
  unfold Page.detachTerminal
  split
  · exact h
  · rename_i sessionId hcurrent
    have known := (traced_current h hcurrent).1
    have hsent : (page.send (.detach sessionId)).Traced ids tokens := h.send known
    exact (hsent.withWork (hsent.work.markDetached known)).renderTabs.closeSocket

theorem Traced.openNewTerminal (h : page.Traced ids tokens) :
    page.openNewTerminal.Traced ids tokens := by
  have hwork : Workspace.Traced ids tokens { page.work with
      sessionId := none
      reconnectToken := none } :=
    { h.work with
      sessionId := fun _ hid => (by cases hid)
      reconnectToken := fun _ htoken => (by cases htoken) }
  exact (h.closeSocket.withWork hwork).connect false

theorem Traced.cleanupTerminal (h : page.Traced ids tokens) :
    page.cleanupTerminal.Traced ids tokens := by
  unfold Page.cleanupTerminal
  split
  · exact h
  · refine Traced.closeSocket ?_
    split
    · rename_i sessionId hcurrent
      have hcleaned : Traced ids tokens { page with cleanedUp := true } := h
      exact hcleaned.send (traced_current h hcurrent).1
    · exact h

theorem Traced.click (h : page.Traced ids tokens) (button : Button) :
    (page.click button).Traced ids tokens := by
  cases button with
  | close => exact h.closeTerminal
  | new => exact h.openNewTerminal
  | detach => exact h.detachTerminal
  | closeTab => exact h.detachTerminal.removeSession _
  | mfa => exact h.ensureAuthenticatedSession .stepUpMfa
  | reconnect =>
    simp only [Page.click, Page.reconnect]
    split
    · have hstatus : (page.setStatus "Reconnecting" .connecting).Traced ids tokens := h
      exact hstatus.connect true
    · exact h
  | retry => exact h.connect false

/-- A session that is selected is the current one, under a token that is known. -/
theorem Traced.select (h : page.Traced ids tokens) {sessionId : String} (known : ids sessionId)
    {reconnectToken : Option String} (given : ∀ token ∈ reconnectToken, tokens token) :
    Traced ids tokens { page with
      work := { page.work with sessionId := some sessionId, reconnectToken } } :=
  h.withWork { h.work with
    sessionId := fun _ hid => Option.some.inj hid ▸ known
    reconnectToken := given }

theorem Traced.clickTab (h : page.Traced ids tokens) {record : SessionRecord}
    (known : record.Traced ids tokens) : (page.clickTab record).Traced ids tokens := by
  have hselected := h.select known.1
    (forall_orElse known.2 (fun token (hnone : token ∈ (none : Option String)) => by cases hnone))
  have hstatus : Traced ids tokens (setStatus { page with work := { page.work with
      sessionId := some record.sessionId
      reconnectToken := orElse record.reconnectToken none } } "Reconnecting" .connecting) :=
    hselected
  exact hstatus.connect true

theorem Traced.clickDetached (h : page.Traced ids tokens) {record : SessionSummary}
    (known : ids record.sessionId) : (page.clickDetached record).Traced ids tokens := by
  have hstored : ∀ token ∈ (page.work.activeSessions.get record.sessionId).bind
      (·.reconnectToken), tokens token := by
    intro token htoken
    obtain ⟨stored, hget, htoken⟩ := Option.bind_eq_some_iff.mp htoken
    exact (Workspace.traced_of_get h.work hget).2 token htoken
  have hselected := h.select known (forall_orElse hstored h.work.reconnectToken)
  unfold Page.clickDetached
  dsimp only
  split
  · exact hselected.connect true
  · exact hselected

theorem Traced.load (h : page.Traced ids tokens) : page.load.Traced ids tokens := by
  unfold Page.load
  dsimp only
  split
  · rename_i record hactive
    obtain ⟨id, -, hget⟩ := Option.bind_eq_some_iff.mp hactive
    have known := Workspace.traced_of_get h.work.load hget
    refine Traced.connect (Traced.select (Traced.renderTabs (Traced.withWork ?_ h.work.load))
      known.1 (forall_orElse known.2 ?_)) _
    · exact h
    · intro token hnone
      cases hnone
  · refine Traced.connect (Traced.renderTabs (Traced.withWork ?_ h.work.load)) false
    exact h

theorem Traced.resume (h : page.Traced ids tokens) {task : Task} {reply : Reply}
    (known : ∀ sessions, reply = .sessions (some sessions) →
      ∀ record ∈ sessions, ids record.sessionId)
    (hresume : page.resume task reply = some next) : next.Traced ids tokens := by
  have saved : ∀ {page : Page}, page.Traced ids tokens →
      (Page.renderTabs { page with work := page.work.persist }).Traced ids tokens :=
    fun h => (h.withWork h.work.persist).renderTabs
  revert hresume
  fun_cases Page.resume page task reply
  all_goals
    intro hresume
    cases hresume
  case case6 reattach => exact h.fetch _ .access
  case case8 known =>
    rw [traced_setLoginBusy]
    split
    · exact h.connect false
    · exact h
  case case9 => exact h.fetch _ .stepUp
  case case17 reattach => exact h.openSocket reattach
  case case23 status _ _ =>
    change Traced ids tokens (if status = 401 then _ else page)
    split
    · exact h
    · exact h
  case case28 => exact saved h
  case case30 => exact h.withWork (h.work.merge (known _ rfl))
  case case31 => exact saved (h.withWork (h.work.merge (known _ rfl)))
  case case33 => exact saved { h with detached := known _ rfl }
  all_goals
    simp +zetaDelta [h, Traced.refreshSessionLists, Traced.ensureAuthenticatedSession,
      Traced.connect]

theorem Traced.setReady (h : page.Traced ids tokens) (ref : SocketRef) (readyState : ReadyState) :
    Traced ids tokens { page with wire := page.wire.setReady ref readyState } :=
  { h with frames := fun frame hframe => h.frames frame (by rwa [Wire.setReady_frames] at hframe) }

/-- Events that bring known ids and tokens leave the page with known ones. -/
theorem Traced.handle (h : page.Traced ids tokens) {event : Event}
    (known : event.Traced ids tokens) (hhandle : page.handle event = some next) :
    next.Traced ids tokens := by
  cases event with
  | loaded =>
    cases hhandle
    exact h.load
  | reloaded =>
    cases hhandle
    exact traced_blank h.work.stored
  | resumed task reply =>
    simp only [Page.handle] at hhandle
    split at hhandle
    · refine Traced.resume ?_ (fun sessions hreply => ?_) hhandle
      · exact h
      · subst hreply
        exact known
    · cases hhandle
  | opened ref width height =>
    rw [Page.handle] at hhandle
    obtain ⟨socket, -, -, rfl⟩ := onSocket_cases hhandle
    exact (h.setReady ref .open).onOpen ..
  | received ref incoming =>
    rw [Page.handle] at hhandle
    obtain ⟨socket, -, -, rfl⟩ := onSocket_cases hhandle
    exact (h.setReady ref .open).onMessage known
  | closed ref failed =>
    rw [Page.handle] at hhandle
    obtain ⟨socket, -, -, rfl⟩ := onSocket_cases hhandle
    have hclosed := h.setReady ref .closed
    cases failed with
    | true => exact hclosed
    | false => exact hclosed
  | resized width height =>
    simp only [Page.handle] at hhandle
    split at hhandle
    · cases hhandle
    · cases hhandle
      exact h.resize width height
  | typed data =>
    cases hhandle
    exact h.sendInput data
  | mobileCtrl =>
    cases hhandle
    exact h
  | mobileKey data =>
    cases hhandle
    exact h.sendInput data
  | nodeTyped text =>
    cases hhandle
    exact h
  | login email password =>
    simp only [Page.handle] at hhandle
    split at hhandle
    · cases hhandle
    · cases hhandle
      exact h.login (trim email) password
  | clicked button =>
    simp only [Page.handle] at hhandle
    split at hhandle
    · cases hhandle
    · cases hhandle
      exact h.click button
  | tab index =>
    obtain ⟨record, htab, rfl⟩ := Option.map_eq_some_iff.mp hhandle
    exact h.clickTab (h.tabs record (List.mem_of_getElem? htab))
  | detachedRow index =>
    obtain ⟨record, hrow, rfl⟩ := Option.map_eq_some_iff.mp hhandle
    exact h.clickDetached (h.detached record (List.mem_of_getElem? hrow))
  | pasted clipboard =>
    cases hhandle
    exact h.sendMobilePaste clipboard
  | left =>
    cases hhandle
    exact h.cleanupTerminal

end Page

section Run

variable {stored : Option StoredWorkspace} {labels : List (Page.Event × Bool)} {page : Page}
  {requests : List Request}

/-- What a page keeps, shows, sends and asks for names only sessions and tokens that the control
    plane has named to it, or that its tab had stored. -/
theorem Shows.traced (h : Shows stored labels page requests)
    (initial : ∀ workspace ∈ stored, workspace.Traced ids tokens)
    (told : ∀ label ∈ labels, label.1.Traced ids tokens) :
    page.Traced ids tokens ∧ ∀ request ∈ requests, request.Traced ids := by
  refine Machine.invariant_of (P := fun label => label.1.Traced ids tokens)
    (I := fun requests page => page.Traced ids tokens ∧ ∀ request ∈ requests, request.Traced ids)
    ⟨Page.traced_blank initial, fun _ hrequest => absurd hrequest List.not_mem_nil⟩ ?_ told h
  rintro requests page label next now known ⟨htraced, hrequests⟩ hstep
  obtain ⟨after, -, hafter, rfl, rfl⟩ := terminalPage_step hstep
  have hwrites : Page.Traced ids tokens
      { page with work := { page.work with writes := label.2 } } :=
    { htraced with work := { htraced.work with } }
  have hnext := hwrites.handle known hafter
  refine ⟨{ hnext with requests := fun _ hrequest => absurd hrequest List.not_mem_nil }, ?_⟩
  intro request hrequest
  rcases List.mem_append.mp hrequest with hold | hnew
  · exact hrequests request hold
  · exact hnext.requests request hnew

/-- Every frame that goes out on any socket of a page, all that its tab stores and every request
    that it makes name only sessions and tokens that the control plane has named to the page, or
    that its tab had stored before. -/
theorem page_names_only_known (h : Shows stored labels page requests)
    (initial : ∀ workspace ∈ stored, workspace.Traced ids tokens)
    (told : ∀ label ∈ labels, label.1.Traced ids tokens) :
    (∀ ref socket frame, page.wire.find ref = some socket → frame ∈ socket.sent →
      frame.Traced ids tokens) ∧
    (∀ workspace ∈ page.work.stored, workspace.Traced ids tokens) ∧
    ∀ request ∈ requests, request.Traced ids := by
  obtain ⟨htraced, hrequests⟩ := h.traced initial told
  refine ⟨fun ref socket frame hfind hsent => htraced.frames frame ?_, htraced.work.stored,
    hrequests⟩
  cases ref with
  | current =>
    refine List.mem_append_right _ (List.mem_flatMap.mpr ⟨socket, ?_, hsent⟩)
    exact Option.mem_toList.mpr hfind
  | former index =>
    exact List.mem_append_left _ (List.mem_flatMap.mpr
      ⟨socket, List.mem_of_getElem? hfind, hsent⟩)

end Run

/-- The user then ends the session of the tab. -/
def endedLabels : List (Page.Event × Bool) := resumedLabels ++ [(.clicked .close, true)]

theorem page_names_only_known_ended : ∃ page requests socket,
    Shows (some resumedTab) endedLabels page requests ∧
    page.wire.find .current = some socket ∧ socket.sent ≠ [] ∧
    ⟨.post, terminatePath "local-1", true, false⟩ ∈ requests ∧
    (∀ frame ∈ socket.sent, frame.Traced (· = "local-1") (· = "token")) ∧
    ∀ request ∈ requests, request.Traced (· = "local-1") := by
  obtain ⟨page, requests, shows, socket, found, spoken, asked⟩ : ∃ page requests,
      Shows (some resumedTab) endedLabels page requests ∧ ∃ socket,
        page.wire.find .current = some socket ∧ socket.sent ≠ [] ∧
        ⟨.post, terminatePath "local-1", true, false⟩ ∈ requests :=
    ⟨_, _, rfl, _, rfl, by decide, by decide⟩
  have initial : ∀ workspace ∈ some resumedTab,
      workspace.Traced (· = "local-1") (· = "token") := by
    intro workspace hworkspace
    obtain rfl := Option.mem_some.mp hworkspace
    refine ⟨by simp [resumedTab], ?_⟩
    simp [resumedTab, SessionRecord.Traced]
  have told : ∀ label ∈ endedLabels, label.1.Traced (· = "local-1") (· = "token") := by
    simp [endedLabels, resumedLabels, Page.Event.Traced]
  obtain ⟨frames, -, named⟩ := page_names_only_known shows initial told
  exact ⟨page, requests, socket, shows, found, spoken, asked,
    fun frame => frames .current socket frame found, named⟩

end Sunbolt.Ui
