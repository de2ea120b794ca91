/- Module: Sunbolt/Ui/ReattachFrames
   scope: sunbolt-ui/src/browser_bridge.rs, sunbolt-control/src/terminal/mod.rs
   digest: The frames of a page at the control plane, and what becomes of a reattach. -/

import Sunbolt.Control.ServiceOrder
import Sunbolt.Ui.BridgeSockets

set_option autoImplicit false
set_option relaxedAutoImplicit false

namespace Sunbolt.Ui

open Sunbolt.Library
open Sunbolt.Library.Service
open Sunbolt.Control (Action Stage Past AppState ControlEvent ControlPool Reaches controlPlane
  entry WebSocketMessage TerminalSessionConfig NodeEnrollmentState handleTerminalSocket)
open Sunbolt.Protocol (TerminalClientMessage TerminalSessionId TerminalReconnectToken NodeId)

/-- The numbers of a size are read as `u16`. -/
def sizeOf? (cols rows : Nat) : Option Sunbolt.Protocol.TerminalSize :=
  if cols < 65536 ∧ rows < 65536 then some ⟨.ofNat cols, .ofNat rows⟩ else none

/-- The message that a frame is read as. -/
def Frame.message : Frame → Option TerminalClientMessage
  | .start nodeId cols rows => (sizeOf? cols rows).map (.start (nodeId.map NodeId.mk))
  | .reattach sessionId token => some (.reattach ⟨sessionId⟩ ⟨token⟩)
  | .resize sessionId cols rows => (sizeOf? cols rows).map (.resize ⟨sessionId⟩)
  | .input sessionId data => some (.input ⟨sessionId⟩ data)
  | .detach sessionId => some (.detach ⟨sessionId⟩)
  | .terminate sessionId => some (.terminate ⟨sessionId⟩)

/-- A frame as a handler receives it; the text of a reading error is left open. -/
def Frame.ReadAs (frame : Frame) (message : WebSocketMessage) : Prop :=
  match frame.message with
  | some given => message = .text (.ok given)
  | none => ∃ error, message = .text (.error error)

/-- The texts that a task has received from its browser so far. -/
def textOf (x : Interaction Action Control.Reply) : List WebSocketMessage :=
  match x with
  | ⟨.host .receive, some (.text parsed)⟩ => [.text parsed]
  | ⟨.terminal (.selectAttached ..), .incoming (some (.text parsed))⟩ => [.text parsed]
  | ⟨.agent (.selectEvent _), .incoming (some (.text parsed))⟩ => [.text parsed]
  | _ => []

/-- The task stands at the other end of a socket on which these frames were sent: its texts are
    the first of them, in order. -/
def Carries (sent : List Frame) (past : Past) : Prop :=
  ∃ count, List.Forall₂ Frame.ReadAs (sent.take count) (past.flatMap textOf)

/-- The first thing that a task receives makes it open or reattach a terminal. -/
def opens : Option WebSocketMessage → Bool
  | some (.text (.ok (.start ..))) => true
  | some (.text (.ok (.reattach ..))) => true
  | _ => false

/-- A task receives before anything else. A first message that opens nothing is answered with an
    error, and that is all. -/
def firstAct (past : Past) (action : Action) : Prop :=
  (past = [] ∧ action = .host .receive) ∨
    ∃ first rest, past = ⟨.host .receive, first⟩ :: rest ∧
      (opens first = false → rest = [] ∧ ∃ text,
        action = .host (.send (.error none ⟨.invalidMessage, text⟩)))

def firstHead (stage : Stage) (past : Past) : Prop :=
  (∃ actorEmail, stage = .terminalSocket actorEmail ∧ past = []) ∨
    ∃ first rest, past = ⟨.host .receive, first⟩ :: rest ∧ opens first = true

/-- What a handler of a terminal socket does first; nothing is said of the others. -/
def firstOrder : Discipline Action Control.Reply Stage where
  act origin past action := (∃ actorEmail, origin = .terminalSocket actorEmail) →
    firstAct past action
  head origin stage past := (∃ actorEmail, origin = .terminalSocket actorEmail) →
    firstHead stage past
  halt _ _ := True

/-- From a first message that opens a terminal on, every program is in order. -/
private theorem all_of_opens {p : Program Action Control.Reply (Option Stage)}
    {first : Option WebSocketMessage} {rest : Past} (hopens : opens first = true) :
    p.All firstAct (⟨.host .receive, first⟩ :: rest)
      (fun later next => ∀ stage ∈ next, firstHead stage later) := by
  have each : p.Each (fun _ => True) (fun _ => True) := by
    induction p with
    | done value => trivial
    | call action resume ih => exact ⟨trivial, ih⟩
  refine each.all (fun extra action _ _ => Or.inr ⟨first, rest ++ extra, rfl, fun hclosed => ?_⟩)
    (fun extra value _ _ stage _ => Or.inr ⟨first, rest ++ extra, rfl, hopens⟩)
  rw [hopens] at hclosed
  cases hclosed

private theorem all_refuse {first : Option WebSocketMessage} (text : String) :
    (do
      Control.sendIgnored (.error none ⟨.invalidMessage, text⟩)
      return none : Control.Handler (Option Stage)).All firstAct [⟨.host .receive, first⟩]
      (fun later next => ∀ stage ∈ next, firstHead stage later) := by
  refine ⟨Or.inr ⟨first, [], rfl, fun _ => ⟨rfl, text, rfl⟩⟩, fun reply stage hstage => ?_⟩
  cases hstage

private theorem all_first (config : TerminalSessionConfig) (actorEmail : String) :
    (handleTerminalSocket config actorEmail).All firstAct []
      (fun later next => ∀ stage ∈ next, firstHead stage later) := by
  refine ⟨Or.inl ⟨rfl, rfl⟩, fun first => ?_⟩
  cases first with
  | none =>
    intro stage hstage
    cases hstage
  | some first =>
    cases first with
    | text parsed =>
      cases parsed with
      | error text => exact all_refuse _
      | ok message =>
        cases message with
        | start nodeId size => exact all_of_opens rfl
        | reattach sessionId token => exact all_of_opens rfl
        | _ => exact all_refuse _
    | _ => exact all_refuse _

theorem firstOrder_sound (config : TerminalSessionConfig) :
    firstOrder.Sound (controlPlane config) entry where
  entered e := by
    rintro ⟨actorEmail, horigin⟩
    exact Or.inl ⟨actorEmail, horigin, rfl⟩
  spawned hout := Control.head_of_spawned hout (fun pty sessionId output => by
    rintro ⟨actorEmail, horigin⟩
    cases horigin)
  body := by
    intro origin stage past head
    by_cases hsocket : ∃ actorEmail, origin = .terminalSocket actorEmail
    · have post : ∀ later next, (∀ stage ∈ next, firstHead stage later) →
          firstOrder.post origin later next := by
        intro later next hnext
        cases next with
        | none => trivial
        | some stage => exact fun _ => hnext stage rfl
      have act : ∀ later action, firstAct later action → firstOrder.act origin later action :=
        fun later action h _ => h
      rcases head hsocket with ⟨actorEmail, rfl, rfl⟩ | ⟨first, rest, rfl, hopens⟩
      · exact ((all_first config actorEmail).mono post).imp act
      · exact ((all_of_opens hopens).mono post).imp act
    · refine Program.all_of_forall (fun later action h => absurd h hsocket)
        (fun later next => ?_)
      cases next with
      | none => trivial
      | some stage => exact fun h => absurd h hsocket

/-! A page at the control plane. -/

theorem Frame.ReadAs.text {frame : Frame} {message : WebSocketMessage}
    (h : frame.ReadAs message) : ∃ parsed, message = .text parsed := by
  unfold ReadAs at h
  split at h
  · exact ⟨_, h⟩
  · obtain ⟨error, herror⟩ := h
    exact ⟨_, herror⟩

/-- Only a reattach frame is read as a reattach message. -/
theorem Frame.ReadAs.of_reattach {frame : Frame} {sessionId : TerminalSessionId}
    {token : TerminalReconnectToken}
    (h : frame.ReadAs (.text (.ok (.reattach sessionId token)))) :
    frame = .reattach sessionId.val token.val := by
  unfold ReadAs at h
  split at h
  · rename_i given hgiven
    cases h
    cases frame with
    | reattach id secret =>
      cases hgiven
      rfl
    | start nodeId cols rows =>
      obtain ⟨size, -, hsize⟩ := Option.map_eq_some_iff.mp hgiven
      cases hsize
    | resize id cols rows =>
      obtain ⟨size, -, hsize⟩ := Option.map_eq_some_iff.mp hgiven
      cases hsize
    | _ => cases hgiven
  · obtain ⟨error, herror⟩ := h
    cases herror

/-- A resize frame opens nothing. -/
theorem Frame.ReadAs.closed_of_resize {sessionId : String} {cols rows : Nat}
    {message : WebSocketMessage} (h : (Frame.resize sessionId cols rows).ReadAs message) :
    opens (some message) = false := by
  unfold ReadAs at h
  split at h
  · rename_i given hgiven
    obtain ⟨size, -, rfl⟩ := Option.map_eq_some_iff.mp hgiven
    rw [h]
    rfl
  · obtain ⟨error, rfl⟩ := h
    rfl

section Task

variable {sent : List Frame} {past : Past}

/-- The first message of a task that serves a socket on which a resize went out first. -/
theorem Carries.closed (h : Carries sent past) {sessionId : String} {cols rows : Nat}
    {rest : List Frame} (resized : sent = .resize sessionId cols rows :: rest)
    {first : Option WebSocketMessage} {later : Past}
    (received : past = ⟨.host .receive, first⟩ :: later) : opens first = false := by
  obtain ⟨count, htexts⟩ := h
  cases first with
  | none => rfl
  | some message =>
    cases message with
    | text parsed =>
      rw [resized, received, List.flatMap_cons] at htexts
      cases count with
      | zero => cases htexts
      | succ count =>
        rw [List.take_succ_cons] at htexts
        cases htexts with
        | cons hread _ => exact hread.closed_of_resize
    | _ => rfl

theorem Carries.sent_of_asked (h : Carries sent past) {sessionId : TerminalSessionId}
    {token : TerminalReconnectToken} (asked : Control.AskedToReattach past sessionId token) :
    .reattach sessionId.val token.val ∈ sent := by
  obtain ⟨count, htexts⟩ := h
  have hmem : WebSocketMessage.text (.ok (.reattach sessionId token)) ∈ past.flatMap textOf :=
    List.mem_flatMap.mpr ⟨_, asked, List.mem_singleton.mpr rfl⟩
  obtain ⟨i, hi, hget⟩ := List.getElem_of_mem hmem
  have hlength : i < (sent.take count).length := htexts.length_eq ▸ hi
  have hread := htexts.get hlength hi
  rw [List.get_eq_getElem, List.get_eq_getElem, hget] at hread
  have hframe := hread.of_reattach
  exact List.mem_of_mem_take (hframe ▸ List.getElem_mem hlength)

end Task

/-- A socket with a reattach on it has a resize before it. -/
theorem Socket.Greeted.resized {socket : Socket} (h : socket.Greeted) {sessionId token : String}
    (hsent : .reattach sessionId token ∈ socket.sent) :
    ∃ cols rows rest, socket.sent =
      .resize sessionId cols rows :: .reattach sessionId token :: rest := by
  rcases h.opening with hnone | ⟨opening, rest, heq, hopening, hrest⟩
  · rw [hnone] at hsent
    exact absurd hsent List.not_mem_nil
  · rw [heq] at hsent ⊢
    rcases List.mem_append.mp hsent with hfirst | hlater
    · generalize socket.reattach = reattach at hopening
      cases hopening <;> simp at hfirst
      obtain ⟨rfl, rfl⟩ := hfirst
      exact ⟨_, _, rest, rfl⟩
    · cases hrest _ hlater

section Run

variable {stored : Option StoredWorkspace} {labels : List (Page.Event × Bool)} {page : Page}
  {requests : List Request} {config : TerminalSessionConfig} {nodes : NodeEnrollmentState}
  {history : List ControlEvent} {pool : ControlPool}

/-- What a task of a terminal socket does that serves a socket of a page. -/
theorem page_reattach_refused (shows : Shows stored labels page requests) {ref : SocketRef}
    {socket : Socket} (found : page.wire.find ref = some socket)
    (reaches : Reaches config nodes history pool) {task : Nat}
    (serving : ∀ e ∈ history, e.task = task → ∃ actorEmail, e.origin = .terminalSocket actorEmail)
    (carries : Carries socket.sent (own task history)) :
    (∀ e ∈ history, e.task = task → ∀ sessionId token actorEmail,
      e.action ≠ .terminal (.reattach sessionId token actorEmail)) ∧
    (∀ sessionId cols rows rest, socket.sent = .resize sessionId cols rows :: rest →
      ∀ front e back, history = front ++ e :: back → e.task = task →
        (own task front = [] ∧ e.action = .host .receive) ∨
        ∃ first text, own task front = [⟨.host .receive, first⟩] ∧
          e.action = .host (.send (.error none ⟨.invalidMessage, text⟩))) := by
  have order : ∀ {front back e}, history = front ++ e :: back → e.task = task →
      firstAct (own task front) e.action := by
    intro front back e hsplit htask
    have hmem : e ∈ history := by rw [hsplit]; simp
    exact htask ▸ reaches.act (firstOrder_sound config) hsplit (serving e hmem htask)
  have later : ∀ {front back e}, history = front ++ e :: back →
      own task front <+: own task history := by
    intro front back e hsplit
    rw [hsplit, own, own, List.filter_append, List.map_append]
    exact List.prefix_append ..
  refine ⟨fun e he htask sessionId token actorEmail haction => ?_,
    fun sessionId cols rows rest hsent front e back hsplit htask => ?_⟩
  · obtain ⟨front, back, hsplit⟩ := List.append_of_mem he
    obtain ⟨actor, horigin⟩ := serving e he htask
    have hact := reaches.act (Control.controlOrder_sound config) hsplit
    rw [horigin, haction, htask] at hact
    have asked : Control.AskedToReattach (own task history) sessionId token :=
      hact.2.2.later (later hsplit)
    obtain ⟨cols, rows, rest, hsent⟩ :=
      (shows.greeted.find found).resized (carries.sent_of_asked asked)
    rcases order hsplit htask with ⟨-, hreceive⟩ | ⟨first, past, hpast, hfirst⟩
    · rw [haction] at hreceive
      cases hreceive
    · obtain ⟨more, hmore⟩ := later hsplit
      rw [hpast, List.cons_append] at hmore
      obtain ⟨-, text, hsend⟩ := hfirst (carries.closed hsent hmore.symm)
      rw [haction] at hsend
      cases hsend
  · rcases order hsplit htask with hreceive | ⟨first, past, hpast, hfirst⟩
    · exact Or.inl hreceive
    · obtain ⟨more, hmore⟩ := later hsplit
      rw [hpast, List.cons_append] at hmore
      obtain ⟨rfl, text, hsend⟩ := hfirst (carries.closed hsent hmore.symm)
      exact Or.inr ⟨first, text, hpast, hsend⟩

end Run

/-- The control plane receives the first frame and answers it. -/
def refused : List ControlEvent :=
  Control.calls Control.defaultTerminalSessionConfig ⟨[], [], []⟩
    [.arrive (.browser "owner"),
      .move 0 (.browser (some (.text (.ok (.resize ⟨"local-1"⟩ ⟨80, 24⟩))))),
      .move 0 (.decide true)]

theorem page_reattach_refused_resumed : ∃ page requests socket pool,
    Shows (some resumedTab) resumedLabels page requests ∧
    page.wire.find .current = some socket ∧
    socket.sent = [.resize "local-1" 80 24, .reattach "local-1" "token"] ∧
    Reaches Control.defaultTerminalSessionConfig ⟨[], [], []⟩ refused pool ∧
    ∀ e ∈ refused, e.task = 0 → ∀ sessionId token actorEmail,
      e.action ≠ .terminal (.reattach sessionId token actorEmail) := by
  obtain ⟨page, requests, shows, socket, found, hsent⟩ : ∃ page requests,
      Shows (some resumedTab) resumedLabels page requests ∧ ∃ socket,
        page.wire.find .current = some socket ∧
        socket.sent = [.resize "local-1" 80 24, .reattach "local-1" "token"] :=
    ⟨_, _, rfl, _, rfl, rfl⟩
  obtain ⟨pool, reaches⟩ : ∃ pool,
      Reaches Control.defaultTerminalSessionConfig ⟨[], [], []⟩ refused pool :=
    Control.reaches_calls rfl
  have origins : refused.map (·.origin) = List.replicate 2 (.terminalSocket "owner") := rfl
  refine ⟨page, requests, socket, pool, shows, found, hsent, reaches,
    (page_reattach_refused shows found reaches (fun e he _ => ⟨"owner", ?_⟩) ⟨1, ?_⟩).1⟩
  · have horigin : e.origin ∈ refused.map (·.origin) := List.mem_map_of_mem he
    rw [origins] at horigin
    exact List.eq_of_mem_replicate horigin
  · rw [hsent]
    exact .cons rfl .nil

end Sunbolt.Ui
