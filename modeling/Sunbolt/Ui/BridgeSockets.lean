/- Module: Sunbolt/Ui/BridgeSockets
   scope: sunbolt-ui/src/browser_bridge.rs
   digest: What the page does with its sockets, and what it says on each of them first. -/

import Sunbolt.Ui.BrowserBridge

set_option autoImplicit false
set_option relaxedAutoImplicit false

namespace Sunbolt.Ui

open Sunbolt.Library

def Frame.isHandshake : Frame → Bool
  | .start .. => true
  | .reattach .. => true
  | _ => false

/-- What a page says first on a socket. A page that has a session resizes it before anything
    else. -/
inductive Opening : Bool → List Frame → Prop
  | first (reattach : Bool) (nodeId : Option String) (cols rows : Nat) :
    Opening reattach [.start nodeId cols rows]
  | again (reattach : Bool) (sessionId : String) (nodeId : Option String) (cols rows : Nat) :
    Opening reattach [.resize sessionId cols rows, .start nodeId cols rows]
  | reattached (sessionId reconnectToken : String) (cols rows : Nat) :
    Opening true [.resize sessionId cols rows, .reattach sessionId reconnectToken]

theorem Opening.ne_nil {reattach : Bool} {frames : List Frame} (h : Opening reattach frames) :
    frames ≠ [] := by
  cases h <;> simp

/-- Nothing is said before a socket opens; then comes an opening, and no handshake after it. -/
structure Socket.Greeted (socket : Socket) : Prop where
  silent : socket.readyState = .connecting → socket.sent = []
  spoken : socket.readyState = .open → socket.sent ≠ []
  opening : socket.sent = [] ∨ ∃ opening rest, socket.sent = opening ++ rest ∧
    Opening socket.reattach opening ∧ ∀ frame ∈ rest, frame.isHandshake = false

namespace Socket

variable {socket : Socket}

theorem Greeted.fresh (reattach : Bool) : Greeted ⟨.connecting, reattach, []⟩ where
  silent _ := rfl
  spoken h := by cases h
  opening := Or.inl rfl

theorem Greeted.ended (h : socket.Greeted) {readyState : ReadyState}
    (ended : readyState = .closing ∨ readyState = .closed) :
    Greeted { socket with readyState } where
  silent hconnecting := by
    dsimp only at hconnecting
    rcases ended with rfl | rfl <;> cases hconnecting
  spoken hopen := by
    dsimp only at hopen
    rcases ended with rfl | rfl <;> cases hopen
  opening := h.opening

theorem Greeted.close (h : socket.Greeted) : socket.close.Greeted := by
  unfold Socket.close
  split
  · exact h.ended (Or.inl rfl)
  · exact h

/-- A socket that is open has its opening, so what follows comes after it. -/
theorem Greeted.say (h : socket.Greeted) (hopen : socket.readyState = .open) {frame : Frame}
    (plain : frame.isHandshake = false) :
    Greeted { socket with sent := socket.sent ++ [frame] } where
  silent hconnecting := by
    rw [hopen] at hconnecting
    cases hconnecting
  spoken _ := by simp
  opening := by
    rcases h.opening with hnone | ⟨opening, rest, hsent, hopening, hrest⟩
    · exact absurd hnone (h.spoken hopen)
    · refine Or.inr ⟨opening, rest ++ [frame], ?_, hopening, ?_⟩
      · rw [hsent, List.append_assoc]
      · intro other hother
        rcases List.mem_append.mp hother with hold | hnew
        · exact hrest other hold
        · rw [List.mem_singleton] at hnew
          exact hnew ▸ plain

@[simp] theorem close_isLive (socket : Socket) : socket.close.isLive = false := by
  unfold Socket.close
  split
  · rfl
  · rename_i hlive
    simpa using hlive

end Socket

namespace Wire

/-- Every socket of the page keeps its promise, and the ones it has replaced are not live. -/
structure Greeted (wire : Wire) : Prop where
  former : ∀ socket ∈ wire.former, socket.isLive = false ∧ socket.Greeted
  current : ∀ socket ∈ wire.socket, socket.Greeted

/-- What a handler does with the socket other than open or replace it. -/
inductive Talks (start : Wire) : Wire → Prop
  | refl : Talks start start
  | send {wire : Wire} {frame : Frame} (before : Talks start wire)
      (plain : frame.isHandshake = false) : Talks start (wire.send frame)
  | close {wire : Wire} (before : Talks start wire) : Talks start wire.close

variable {wire next : Wire}

theorem Greeted.send (h : wire.Greeted) {frame : Frame} (plain : frame.isHandshake = false) :
    (wire.send frame).Greeted where
  former := h.former
  current := by
    intro socket hsocket
    obtain ⟨before, hbefore, rfl⟩ := Option.map_eq_some_iff.mp hsocket
    by_cases hopen : before.readyState = .open
    · rw [if_pos hopen]
      exact (h.current before hbefore).say hopen plain
    · rw [if_neg hopen]
      exact h.current before hbefore

theorem Greeted.close (h : wire.Greeted) : wire.close.Greeted where
  former := h.former
  current := by
    intro socket hsocket
    obtain ⟨before, hbefore, rfl⟩ := Option.map_eq_some_iff.mp hsocket
    exact (h.current before hbefore).close

theorem Talks.greeted (talks : wire.Talks next) (h : wire.Greeted) : next.Greeted := by
  induction talks with
  | refl => exact h
  | send _ plain ih => exact ih.send plain
  | close _ ih => exact ih.close

/-- A socket is closed before another takes its place. -/
theorem Greeted.replace (h : wire.Greeted) (reattach : Bool) :
    (wire.close.construct reattach).Greeted where
  former := by
    intro socket hsocket
    rcases List.mem_append.mp hsocket with hold | hclosed
    · exact h.former socket hold
    · rw [Option.mem_toList] at hclosed
      obtain ⟨before, hbefore, rfl⟩ := Option.map_eq_some_iff.mp hclosed
      exact ⟨before.close_isLive, (h.current before hbefore).close⟩
  current := by
    intro socket hsocket
    cases hsocket
    exact .fresh reattach

theorem Greeted.find (h : wire.Greeted) {ref : SocketRef} {socket : Socket}
    (hfind : wire.find ref = some socket) : socket.Greeted := by
  cases ref with
  | current => exact h.current socket hfind
  | former index => exact (h.former socket (List.mem_of_getElem? hfind)).2

/-- Only the socket of the variable is live. -/
theorem Greeted.current_of_live (h : wire.Greeted) {ref : SocketRef} {socket : Socket}
    (hfind : wire.find ref = some socket) (live : socket.isLive = true) : ref = .current := by
  cases ref with
  | current => rfl
  | former index =>
    have hclosed := (h.former socket (List.mem_of_getElem? hfind)).1
    rw [live] at hclosed
    cases hclosed

theorem setReady_self {ref : SocketRef} {socket : Socket} (h : wire.find ref = some socket) :
    wire.setReady ref socket.readyState = wire := by
  cases ref with
  | current =>
    have hcurrent : wire.socket = some socket := h
    obtain ⟨former, current⟩ := wire
    cases hcurrent
    rfl
  | former index =>
    obtain ⟨former, current⟩ := wire
    obtain ⟨hindex, rfl⟩ := List.getElem?_eq_some_iff.mp h
    change Wire.mk _ current = Wire.mk former current
    congr 1
    refine List.ext_getElem (by simp) (fun i hi hformer => ?_)
    rw [List.getElem_modify]
    split
    · rename_i hsame
      subst hsame
      rfl
    · rfl

/-- Frames go out on an open socket in their order. -/
theorem foldl_send {socket : Socket} (h : wire.socket = some socket)
    (hopen : socket.readyState = .open) (frames : List Frame) :
    frames.foldl send wire =
      { wire with socket := some { socket with sent := socket.sent ++ frames } } := by
  induction frames generalizing wire socket with
  | nil =>
    rw [List.append_nil, List.foldl_nil, ← h]
  | cons frame frames ih =>
    have hsent : wire.send frame =
        { wire with socket := some { socket with sent := socket.sent ++ [frame] } } := by
      simp [send, h, hopen]
    have hnext : (wire.send frame).socket =
        some { socket with sent := socket.sent ++ [frame] } := by
      rw [hsent]
    rw [List.foldl_cons, ih hnext hopen, hsent]
    simp

/-- A socket that opens says its opening first. -/
theorem Greeted.opened (h : wire.Greeted) {ref : SocketRef} {socket : Socket}
    (hfind : wire.find ref = some socket) (connecting : socket.readyState = .connecting)
    {frames : List Frame} (opening : Opening socket.reattach frames) :
    (frames.foldl Wire.send (wire.setReady ref .open)).Greeted := by
  have hlive : socket.isLive = true := by simp [Socket.isLive, connecting]
  obtain rfl := h.current_of_live hfind hlive
  have hcurrent : wire.socket = some socket := hfind
  have hsilent : socket.sent = [] := (h.current socket hcurrent).silent connecting
  have hready : (wire.setReady .current .open).socket =
      some { socket with readyState := .open } := by
    rw [setReady, hcurrent]
    rfl
  rw [foldl_send hready rfl]
  refine ⟨h.former, fun other hother => ?_⟩
  cases hother
  refine ⟨fun hconnecting => (by cases hconnecting), fun _ => ?_,
    Or.inr ⟨frames, [], ?_, opening, ?_⟩⟩
  · simpa [hsilent] using opening.ne_nil
  · simp [hsilent]
  · exact fun frame hframe => absurd hframe List.not_mem_nil

theorem Greeted.setClosed (h : wire.Greeted) (ref : SocketRef) :
    (wire.setReady ref .closed).Greeted := by
  cases ref with
  | current =>
    refine ⟨h.former, fun socket hsocket => ?_⟩
    obtain ⟨before, hbefore, rfl⟩ := Option.map_eq_some_iff.mp hsocket
    exact (h.current before hbefore).ended (Or.inr rfl)
  | former index =>
    refine ⟨fun socket hsocket => ?_, h.current⟩
    obtain ⟨i, hi, rfl⟩ := List.getElem_of_mem hsocket
    have hlength : i < wire.former.length := by simpa [setReady] using hi
    have hold := h.former _ (List.getElem_mem hlength)
    simp only [setReady, List.getElem_modify]
    split
    · exact ⟨rfl, hold.2.ended (Or.inr rfl)⟩
    · exact hold

end Wire

namespace Page

variable {page next : Page}

/-- The frames of a page whose socket has opened, the page measured before. -/
def greeting (page : Page) (reattach : Bool) (width height : Nat) : List Frame :=
  let cols := max 20 (width / 9)
  let rows := max 6 (height / 18)
  let start := Frame.start (orElse (trim page.nodeInput) none) cols rows
  match page.current with
  | none => [start]
  | some sessionId =>
    [.resize sessionId cols rows,
      match page.work.reconnectToken with
      | some token => if reattach && token ≠ "" then .reattach sessionId token else start
      | none => start]

theorem opening_greeting (page : Page) (reattach : Bool) (width height : Nat) :
    Opening reattach (page.greeting reattach width height) := by
  unfold greeting
  cases page.current with
  | none => exact .first ..
  | some sessionId =>
    cases page.work.reconnectToken with
    | none => exact .again ..
    | some token =>
      by_cases hasked : (reattach && token ≠ "") = true
      · have hreattach : reattach = true := (Bool.and_eq_true_iff.mp hasked).1
        simp only [hasked, if_true]
        exact hreattach ▸ .reattached ..
      · simp only [hasked]
        exact .again ..

theorem resize_eq (page : Page) (width height : Nat) :
    page.resize width height =
      { page with
          cols := max 20 (width / 9)
          rows := max 6 (height / 18)
          wire := (page.current.map (fun sessionId =>
            Frame.resize sessionId (max 20 (width / 9)) (max 6 (height / 18)))).toList.foldl
              Wire.send page.wire } := by
  cases hcurrent : page.current with
  | none =>
    have later : { page with cols := max 20 (width / 9), rows := max 6 (height / 18) }.current =
        none := hcurrent
    simp [resize, later]
  | some sessionId =>
    have later : { page with cols := max 20 (width / 9), rows := max 6 (height / 18) }.current =
        some sessionId := hcurrent
    simp [resize, later, send]

theorem onOpen_wire (page : Page) (reattach : Bool) (width height : Nat) :
    (page.onOpen reattach width height).wire =
      (page.greeting reattach width height).foldl Wire.send page.wire := by
  have hstatus : (page.setStatus "Connected" .connected).current = page.current := rfl
  have hinput : (page.setStatus "Connected" .connected).nodeInput = page.nodeInput := rfl
  have hcurrent : ((page.setStatus "Connected" .connected).resize width height).current =
      page.current := by
    rw [resize_eq]
    rfl
  unfold onOpen greeting
  simp only [hcurrent]
  rw [resize_eq, hstatus]
  cases page.current with
  | none => rfl
  | some sessionId =>
    cases htoken : page.work.reconnectToken with
    | none => simp [htoken, hinput, send]
    | some token =>
      by_cases hasked : reattach = true ∧ ¬token = ""
      · simp [htoken, hasked, send]
      · simp only [htoken, setStatus_work, Option.map_some, Option.toList_some, List.foldl_cons,
          List.foldl_nil, setStatus_wire, Bool.and_eq_true, decide_eq_true_eq, ne_eq, hasked,
          if_false, send, hinput]

/-- What a handler does with the sockets: it talks, or a new socket takes the old one's place. -/
theorem resume_wire {task : Task} {reply : Reply} (h : page.resume task reply = some next) :
    next.wire = page.wire ∨ ∃ reattach, next.wire = page.wire.close.construct reattach := by
  revert h
  fun_cases Page.resume page task reply
  all_goals
    intro h
    cases h
  all_goals
    first
    | exact Or.inr ⟨_, rfl⟩
    | exact Or.inl (by simp +zetaDelta [apply_ite Page.wire])

/-! The handlers of a page talk on its socket. -/

theorem talks_send (talks : page.wire.Talks next.wire) {frame : Frame}
    (plain : frame.isHandshake = false) : page.wire.Talks (next.send frame).wire :=
  .send talks plain

theorem talks_closeSocket (talks : page.wire.Talks next.wire) :
    page.wire.Talks next.closeSocket.wire :=
  .close talks

theorem talks_resize (page : Page) (width height : Nat) :
    page.wire.Talks (page.resize width height).wire := by
  rw [resize_eq]
  cases page.current with
  | none => exact .refl
  | some sessionId => exact .send .refl rfl

@[simp] theorem removeSession_wire (page : Page) (id : String) :
    (page.removeSession id).wire = page.wire := by
  unfold removeSession
  split <;> rfl

@[simp] theorem rememberSession_wire (page : Page) (sessionId : String)
    (nodeId reconnectToken : Option String)
    (transportStatus : Option Sunbolt.Protocol.TerminalTransportStatus) :
    (page.rememberSession sessionId nodeId reconnectToken transportStatus).wire = page.wire := by
  unfold rememberSession
  split <;> rfl

@[simp] theorem onMessage_wire (page : Page) (incoming : Incoming) :
    (page.onMessage incoming).wire = page.wire := by
  fun_cases Page.onMessage page incoming <;> simp +zetaDelta

@[simp] theorem onClose_wire (page : Page) (failed : Bool) :
    (page.onClose failed).wire = page.wire := by
  cases failed <;> rfl

theorem talks_sendInput (page : Page) (data : String) :
    page.wire.Talks (page.sendInput data).wire := by
  unfold sendInput
  split
  · exact .refl
  · split
    · exact .send .refl rfl
    · exact .send .refl rfl

theorem talks_sendMobilePaste (page : Page) (clipboard : Clipboard) :
    page.wire.Talks (page.sendMobilePaste clipboard).wire := by
  cases clipboard with
  | text text =>
    simp only [sendMobilePaste]
    split
    · exact .refl
    · exact talks_sendInput page text
  | _ => exact .refl

theorem talks_detachTerminal (page : Page) : page.wire.Talks page.detachTerminal.wire := by
  unfold detachTerminal
  split
  · exact .refl
  · exact .close (.send .refl rfl)

theorem talks_click (page : Page) (button : Button) :
    page.wire.Talks (page.click button).wire := by
  cases button with
  | close =>
    change page.wire.Talks page.closeTerminal.wire
    unfold closeTerminal
    refine talks_closeSocket ?_
    cases page.current with
    | none => exact .refl
    | some sessionId =>
      simp only [removeSession_wire, fetch_wire]
      exact .send .refl rfl
  | new =>
    change page.wire.Talks page.openNewTerminal.wire
    simp only [openNewTerminal, connect_wire]
    exact .close .refl
  | detach => exact page.talks_detachTerminal
  | closeTab =>
    change page.wire.Talks page.closeUiTab.wire
    simp only [closeUiTab, removeSession_wire]
    exact page.talks_detachTerminal
  | mfa =>
    simp only [click, ensureAuthenticatedSession_wire]
    exact .refl
  | reconnect =>
    simp only [click, reconnect]
    split
    · simp only [connect_wire, setStatus_wire]
      exact .refl
    · exact .refl
  | retry =>
    simp only [click, connect_wire]
    exact .refl

@[simp] theorem load_wire (page : Page) : page.load.wire = page.wire := by
  dsimp only [load]
  split <;> simp

@[simp] theorem clickTab_wire (page : Page) (record : SessionRecord) :
    (page.clickTab record).wire = page.wire := by
  simp [clickTab]

@[simp] theorem clickDetached_wire (page : Page) (record : SessionSummary) :
    (page.clickDetached record).wire = page.wire := by
  dsimp only [clickDetached]
  split <;> simp

theorem talks_cleanupTerminal (page : Page) : page.wire.Talks page.cleanupTerminal.wire := by
  unfold cleanupTerminal
  split
  · exact .refl
  · refine talks_closeSocket ?_
    split
    · exact .send .refl rfl
    · exact .refl

/-- Everything that an event can do to the sockets of a page. -/
inductive WireStep (page : Page) : Wire → Prop
  | talk {wire : Wire} (talks : page.wire.Talks wire) : WireStep page wire
  | replace (reattach : Bool) : WireStep page (page.wire.close.construct reattach)
  | opened (ref : SocketRef) (socket : Socket) (width height : Nat)
    (found : page.wire.find ref = some socket) (connecting : socket.readyState = .connecting) :
    WireStep page ((page.greeting socket.reattach width height).foldl Wire.send
      (page.wire.setReady ref .open))
  | closed (ref : SocketRef) : WireStep page (page.wire.setReady ref .closed)
  | reloaded : WireStep page ⟨[], none⟩

theorem onSocket_cases {ref : SocketRef} {enabled : Socket → Bool} {readyState : ReadyState}
    {handler : Socket → Page → Page}
    (h : page.onSocket ref enabled readyState handler = some next) :
    ∃ socket, page.wire.find ref = some socket ∧ enabled socket = true ∧
      next = handler socket { page with wire := page.wire.setReady ref readyState } := by
  unfold onSocket at h
  split at h
  · rename_i socket hfind
    split at h
    · rename_i henabled
      cases h
      exact ⟨socket, hfind, henabled, rfl⟩
    · cases h
  · cases h

theorem handle_wire {event : Event} (h : page.handle event = some next) :
    page.WireStep next.wire := by
  cases event with
  | loaded =>
    cases h
    exact .talk (by simpa using .refl)
  | reloaded =>
    cases h
    exact .reloaded
  | resumed task reply =>
    simp only [handle] at h
    split at h
    · rcases resume_wire h with hwire | ⟨reattach, hwire⟩
      · exact hwire ▸ .talk .refl
      · exact hwire ▸ .replace reattach
    · cases h
  | opened ref width height =>
    rw [handle] at h
    obtain ⟨socket, hfind, henabled, rfl⟩ := onSocket_cases h
    rw [onOpen_wire]
    exact .opened ref socket width height hfind (by simpa using henabled)
  | received ref incoming =>
    rw [handle] at h
    obtain ⟨socket, hfind, henabled, rfl⟩ := onSocket_cases h
    have hopen : socket.readyState = .open := by simpa using henabled
    rw [onMessage_wire]
    change page.WireStep (page.wire.setReady ref .open)
    rw [← hopen, Wire.setReady_self hfind]
    exact .talk .refl
  | closed ref failed =>
    rw [handle] at h
    obtain ⟨socket, -, -, rfl⟩ := onSocket_cases h
    rw [onClose_wire]
    exact .closed ref
  | resized width height =>
    simp only [handle] at h
    split at h
    · cases h
    · cases h
      exact .talk (talks_resize page width height)
  | typed data =>
    cases h
    exact .talk (talks_sendInput page data)
  | mobileCtrl =>
    cases h
    exact .talk .refl
  | mobileKey data =>
    cases h
    exact .talk (talks_sendInput page data)
  | nodeTyped text =>
    cases h
    exact .talk .refl
  | login email password =>
    simp only [handle] at h
    split at h
    · cases h
    · cases h
      exact .talk (by simpa using .refl)
  | clicked button =>
    simp only [handle] at h
    split at h
    · cases h
    · cases h
      exact .talk (talks_click page button)
  | tab index =>
    obtain ⟨record, -, rfl⟩ := Option.map_eq_some_iff.mp h
    exact .talk (by simpa using .refl)
  | detachedRow index =>
    obtain ⟨record, -, rfl⟩ := Option.map_eq_some_iff.mp h
    exact .talk (by simpa using .refl)
  | pasted clipboard =>
    cases h
    exact .talk (talks_sendMobilePaste page clipboard)
  | left =>
    cases h
    exact .talk (talks_cleanupTerminal page)

/-- A new document has no sockets; otherwise each step keeps what every socket promises. -/
theorem WireStep.greeted {wire : Wire} (step : page.WireStep wire) (h : page.wire.Greeted) :
    wire.Greeted := by
  cases step with
  | talk talks => exact talks.greeted h
  | replace reattach => exact h.replace reattach
  | opened ref socket width height found connecting =>
    exact h.opened found connecting (opening_greeting ..)
  | closed ref => exact h.setClosed ref
  | reloaded =>
    exact ⟨fun socket hsocket => absurd hsocket List.not_mem_nil, fun socket hsocket =>
      (by cases hsocket)⟩

end Page

/-- The page as it is after a run of its events, in a tab with this storage. -/
def Shows (stored : Option StoredWorkspace) (labels : List (Page.Event × Bool)) (page : Page)
    (requests : List Request) : Prop :=
  terminalPage.run (.blank stored) labels = some (page, requests)

theorem terminalPage_step {page next : Page} {label : Page.Event × Bool} {now : List Request}
    (h : terminalPage.step page label = some (next, now)) :
    ∃ after, page.ready = !label.1.isLoaded ∧
      ({ page with work := { page.work with writes := label.2 } } : Page).handle label.1 =
        some after ∧ next = { after with requests := [] } ∧ now = after.requests := by
  simp only [terminalPage] at h
  split at h
  · cases h
  · rename_i hready
    obtain ⟨after, hafter, hnext⟩ := Option.map_eq_some_iff.mp h
    cases hnext
    exact ⟨after, Bool.eq_not_of_ne hready, hafter, rfl, rfl⟩

theorem Shows.greeted {stored : Option StoredWorkspace} {labels : List (Page.Event × Bool)}
    {page : Page} {requests : List Request} (h : Shows stored labels page requests) :
    page.wire.Greeted := by
  refine Machine.invariant (I := fun _ page => page.wire.Greeted) ?_ ?_ h
  · exact ⟨fun socket hsocket => absurd hsocket List.not_mem_nil, fun socket hsocket =>
      (by cases hsocket)⟩
  · intro _ page label next _ hgreeted hstep
    obtain ⟨after, -, hafter, rfl, -⟩ := terminalPage_step hstep
    exact (Page.handle_wire hafter).greeted hgreeted

section Run

variable {stored : Option StoredWorkspace} {labels : List (Page.Event × Bool)} {page : Page}
  {requests : List Request} (h : Shows stored labels page requests)
include h

/-- However connections, messages and answers interleave, only the last socket is live. -/
theorem former_sockets_ended {index : Nat} {socket : Socket}
    (found : page.wire.find (.former index) = some socket) :
    socket.readyState = .closing ∨ socket.readyState = .closed := by
  have hended := (h.greeted.former socket (List.mem_of_getElem? found)).1
  cases hready : socket.readyState with
  | connecting => simp [Socket.isLive, hready] at hended
  | «open» => simp [Socket.isLive, hready] at hended
  | closing => exact Or.inl rfl
  | closed => exact Or.inr rfl

/-- The frames of every socket of a page, from the first to the last. -/
theorem one_handshake {ref : SocketRef} {socket : Socket}
    (found : page.wire.find ref = some socket) :
    (socket.readyState = .connecting → socket.sent = []) ∧
      (socket.readyState = .open → socket.sent ≠ []) ∧
      (socket.sent = [] ∨ ∃ opening rest, socket.sent = opening ++ rest ∧
        Opening socket.reattach opening ∧ ∀ frame ∈ rest, frame.isHandshake = false) :=
  ⟨(h.greeted.find found).silent, (h.greeted.find found).spoken, (h.greeted.find found).opening⟩

end Run

/-- A tab that has a session in its storage. -/
def resumedTab : StoredWorkspace :=
  ⟨some "local-1", [⟨"local-1", none, some "token", "active", none⟩]⟩

/-- The page loads, is signed in, and its socket opens. -/
def resumedLabels : List (Page.Event × Bool) :=
  [(.loaded, true), (.resumed 0 (.response 200), true), (.resumed 1 .settled, true),
    (.resumed 1 (.response 200), true), (.resumed 1 .settled, true),
    (.opened .current 720 432, true)]

/-- Then another terminal is asked for. -/
def renewedLabels : List (Page.Event × Bool) :=
  resumedLabels ++ [(.clicked .new, true), (.resumed 1 .settled, true),
    (.resumed 1 (.response 200), true), (.resumed 1 .settled, true)]

theorem former_sockets_ended_renewed : ∃ page requests socket,
    Shows (some resumedTab) renewedLabels page requests ∧
    page.wire.find (.former 0) = some socket ∧
    (socket.readyState = .closing ∨ socket.readyState = .closed) := by
  obtain ⟨page, requests, shows, socket, found⟩ : ∃ page requests,
      Shows (some resumedTab) renewedLabels page requests ∧ ∃ socket,
        page.wire.find (.former 0) = some socket :=
    ⟨_, _, rfl, _, rfl⟩
  exact ⟨page, requests, socket, shows, found, former_sockets_ended shows found⟩

theorem one_handshake_resumed : ∃ page requests socket opening rest,
    Shows (some resumedTab) resumedLabels page requests ∧
    page.wire.find .current = some socket ∧ socket.sent = opening ++ rest ∧
    Opening socket.reattach opening ∧ ∀ frame ∈ rest, frame.isHandshake = false := by
  obtain ⟨page, requests, shows, socket, found, hopen⟩ : ∃ page requests,
      Shows (some resumedTab) resumedLabels page requests ∧ ∃ socket,
        page.wire.find .current = some socket ∧ socket.readyState = .open :=
    ⟨_, _, rfl, _, rfl, rfl⟩
  obtain ⟨-, hspoken, hnone | ⟨opening, rest, hsent, hopening, hrest⟩⟩ :=
    one_handshake shows found
  · exact absurd hnone (hspoken hopen)
  · exact ⟨page, requests, socket, opening, rest, shows, found, hsent, hopening, hrest⟩

end Sunbolt.Ui
