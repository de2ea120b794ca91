/- Module: Sunbolt/Ui/StoredSessions
   scope: sunbolt-ui/src/browser_bridge.rs
   digest: The reconnect tokens in the storage of the tab are the ones that the page holds. -/

import Sunbolt.Ui.BridgeSockets

set_option autoImplicit false
set_option relaxedAutoImplicit false

namespace Sunbolt.Ui

open Sunbolt.Library
open Sunbolt.Protocol (TerminalTransportStatus)

namespace Workspace

/-- The reconnect token under which the page knows a session. -/
def tokenOf (work : Workspace) (id : String) : Option String :=
  (work.activeSessions.get id).bind (·.reconnectToken)

/-- A page that loaded the storage now would know the same tokens. -/
structure Saved (work : Workspace) : Prop where
  keyed : work.activeSessions.Keyed (·.sessionId)
  same : ∀ id, id ≠ "" → work.load.tokenOf id = work.tokenOf id

/-- What the functions of the page do to the sessions. -/
inductive Edits (start : Workspace) : Workspace → Prop
  | refl : Edits start start
  | select {work : Workspace} (before : Edits start work)
      (sessionId reconnectToken : Option String) :
    Edits start { work with sessionId, reconnectToken }
  | persist {work : Workspace} (before : Edits start work) : Edits start work.persist
  | merge {work : Workspace} (before : Edits start work) (sessions : List SessionSummary) :
    Edits start (work.merge sessions)
  | markDetached {work : Workspace} (before : Edits start work) (sessionId : String) :
    Edits start (work.markDetached sessionId)
  | remember {work : Workspace} (before : Edits start work) (sessionId : String)
    (nodeId reconnectToken : Option String) (transportStatus : Option TerminalTransportStatus) :
    Edits start (work.remember sessionId nodeId reconnectToken transportStatus)
  | remove {work : Workspace} (before : Edits start work) (id : String) :
    Edits start (work.remove id)

variable {work next : Workspace}

theorem saved_persist (keyed : work.activeSessions.Keyed (·.sessionId))
    (writes : work.writes = true) : work.persist.Saved := by
  have hload : work.persist.load.activeSessions = work.activeSessions.delete "" := by
    rw [persist, if_pos writes]
    exact OrderedMap.ofValues_filter_values keyed ""
  have hpersist : work.persist.activeSessions = work.activeSessions := by
    rw [persist, if_pos writes]
  refine ⟨hpersist ▸ keyed, fun id hid => ?_⟩
  rw [tokenOf, tokenOf, hload, hpersist, OrderedMap.get_delete, if_neg hid]

/-- The session lists bring no token and take none away. -/
theorem merge_tokenOf (work : Workspace) (sessions : List SessionSummary) (id : String) :
    (work.merge sessions).tokenOf id = work.tokenOf id := by
  have fold : ∀ (sessions : List SessionSummary) (known : OrderedMap String SessionRecord),
      ((sessions.foldl (fun known summary =>
        known.set summary.sessionId (merged (known.get summary.sessionId) summary)) known).get
          id).bind (·.reconnectToken) = (known.get id).bind (·.reconnectToken) := by
    intro sessions
    induction sessions with
    | nil => exact fun _ => rfl
    | cons summary sessions ih =>
      intro known
      rw [List.foldl_cons, ih, OrderedMap.get_set]
      split
      · rename_i hid
        rw [hid]
        rfl
      · rfl
  exact fold sessions work.activeSessions

theorem merge_keyed (keyed : work.activeSessions.Keyed (·.sessionId))
    (sessions : List SessionSummary) :
    (work.merge sessions).activeSessions.Keyed (·.sessionId) := by
  have fold : ∀ (sessions : List SessionSummary) (known : OrderedMap String SessionRecord),
      known.Keyed (·.sessionId) → (sessions.foldl (fun known summary =>
        known.set summary.sessionId (merged (known.get summary.sessionId) summary)) known).Keyed
          (·.sessionId) := by
    intro sessions
    induction sessions with
    | nil => exact fun _ h => h
    | cons summary sessions ih =>
      exact fun known h => ih _ (h.set rfl)
  exact fold sessions work.activeSessions keyed

theorem Saved.merge (h : work.Saved) (sessions : List SessionSummary) :
    (work.merge sessions).Saved where
  keyed := merge_keyed h.keyed sessions
  same id hid := by
    rw [merge_tokenOf]
    exact h.same id hid

theorem Saved.markDetached (h : work.Saved) (writes : work.writes = true) (sessionId : String) :
    (work.markDetached sessionId).Saved := by
  have hid : ((work.activeSessions.get sessionId).getD
      ⟨sessionId, none, none, "", none⟩).sessionId = sessionId := by
    cases hget : work.activeSessions.get sessionId with
    | none => rfl
    | some record => exact h.keyed.get hget
  exact saved_persist (h.keyed.set hid) writes

theorem Saved.remember (h : work.Saved) (writes : work.writes = true) (sessionId : String)
    (nodeId reconnectToken : Option String) (transportStatus : Option TerminalTransportStatus) :
    (work.remember sessionId nodeId reconnectToken transportStatus).Saved := by
  unfold Workspace.remember
  split
  · exact h
  · exact saved_persist (h.keyed.set rfl) writes

theorem Saved.remove (h : work.Saved) (writes : work.writes = true) (id : String) :
    (work.remove id).Saved := by
  unfold Workspace.remove
  split
  · exact h
  · dsimp only
    split
    · exact saved_persist (h.keyed.delete id) writes
    · exact saved_persist (h.keyed.delete id) writes

theorem Saved.persist (h : work.Saved) (writes : work.writes = true) : work.persist.Saved :=
  saved_persist h.keyed writes

@[simp] theorem persist_writes (work : Workspace) : work.persist.writes = work.writes := by
  unfold Workspace.persist
  split <;> rfl

theorem Edits.writes (edits : work.Edits next) : next.writes = work.writes := by
  induction edits with
  | refl => rfl
  | select _ _ _ ih => exact ih
  | persist _ ih => rw [persist_writes, ih]
  | merge _ _ ih => exact ih
  | markDetached _ _ ih => rw [Workspace.markDetached, persist_writes, ih]
  | remember _ _ _ _ _ ih =>
    unfold Workspace.remember
    split
    · exact ih
    · rw [persist_writes, ih]
  | remove _ _ ih =>
    unfold Workspace.remove
    split
    · exact ih
    · dsimp only
      split
      · rw [persist_writes, ih]
      · rw [persist_writes, ih]

theorem Edits.saved (edits : work.Edits next) (writes : work.writes = true) (h : work.Saved) :
    next.Saved := by
  induction edits with
  | refl => exact h
  | select _ _ _ ih => exact ⟨ih.keyed, ih.same⟩
  | persist before ih => exact ih.persist (before.writes.trans writes)
  | merge _ sessions ih => exact ih.merge sessions
  | markDetached before sessionId ih => exact ih.markDetached (before.writes.trans writes) sessionId
  | remember before _ _ _ _ ih => exact ih.remember (before.writes.trans writes) ..
  | remove before id ih => exact ih.remove (before.writes.trans writes) id

/-- What has just been loaded is what is stored. -/
theorem saved_load (work : Workspace) : work.load.Saved where
  keyed := OrderedMap.keyed_ofValues _
  same _ _ := rfl

end Workspace

namespace Page

variable {page next : Page}

@[simp] theorem resize_work (page : Page) (width height : Nat) :
    (page.resize width height).work = page.work := by
  rw [resize_eq]

@[simp] theorem onOpen_work (page : Page) (reattach : Bool) (width height : Nat) :
    (page.onOpen reattach width height).work = page.work := by
  fun_cases Page.onOpen page reattach width height <;> simp +zetaDelta

@[simp] theorem onClose_work (page : Page) (failed : Bool) :
    (page.onClose failed).work = page.work := by
  cases failed <;> rfl

@[simp] theorem sendInput_work (page : Page) (data : String) :
    (page.sendInput data).work = page.work := by
  unfold sendInput
  split
  · rfl
  · split <;> rfl

@[simp] theorem sendMobilePaste_work (page : Page) (clipboard : Clipboard) :
    (page.sendMobilePaste clipboard).work = page.work := by
  cases clipboard with
  | text text =>
    simp only [sendMobilePaste]
    split
    · rfl
    · exact sendInput_work page text
  | _ => rfl

@[simp] theorem cleanupTerminal_work (page : Page) : page.cleanupTerminal.work = page.work := by
  dsimp only [cleanupTerminal]
  split
  · rfl
  · split <;> rfl

theorem edits_removeSession {work : Workspace} (edits : work.Edits page.work) (id : String) :
    work.Edits (page.removeSession id).work := by
  unfold removeSession
  split
  · exact edits
  · exact edits.remove id

theorem edits_rememberSession {work : Workspace} (edits : work.Edits page.work)
    (sessionId : String) (nodeId reconnectToken : Option String)
    (transportStatus : Option TerminalTransportStatus) :
    work.Edits (page.rememberSession sessionId nodeId reconnectToken transportStatus).work := by
  unfold rememberSession
  split
  · exact edits
  · exact edits.remember ..

theorem edits_onMessage (page : Page) (incoming : Incoming) :
    page.work.Edits (page.onMessage incoming).work := by
  cases incoming with
  | message message =>
    cases message with
    | started sessionId nodeId size reconnectToken transportStatus =>
      simp only [onMessage, reportTransportStatus_work]
      apply edits_rememberSession
      exact Workspace.Edits.refl.select _ _
    | reattached sessionId nodeId size reconnectToken transportStatus =>
      simp only [onMessage, reportTransportStatus_work]
      apply edits_rememberSession
      exact Workspace.Edits.refl.select _ _
    | detached sessionId =>
      simp only [onMessage, setStatus_work, refreshSessionLists_work, renderTabs_work]
      exact Workspace.Edits.refl.markDetached _
    | exited sessionId exit =>
      simp only [onMessage, setStatus_work]
      exact edits_removeSession .refl _
    | _ => exact .refl
  | _ => exact .refl

theorem edits_resume {task : Task} {reply : Reply} (h : page.resume task reply = some next) :
    page.work.Edits next.work := by
  revert h
  fun_cases Page.resume page task reply
  all_goals
    intro h
    cases h
  all_goals
    first
    | exact .refl
    | exact Workspace.Edits.refl.persist
    | exact Workspace.Edits.refl.merge _
    | exact (Workspace.Edits.refl.merge _).persist
    | simp +zetaDelta [apply_ite Page.work, Workspace.Edits.refl]

theorem edits_detachTerminal {work : Workspace} (edits : work.Edits page.work) :
    work.Edits page.detachTerminal.work := by
  unfold detachTerminal
  split
  · exact edits
  · exact edits.markDetached _

theorem edits_click (page : Page) (button : Button) : page.work.Edits (page.click button).work := by
  cases button with
  | close =>
    change page.work.Edits page.closeTerminal.work
    simp only [closeTerminal, setStatus_work, closeSocket_work]
    refine .select ?_ _ none
    cases page.current with
    | none => exact .refl
    | some sessionId =>
      apply edits_removeSession
      exact .refl
  | new =>
    change page.work.Edits page.openNewTerminal.work
    simp only [openNewTerminal, connect_work]
    exact Workspace.Edits.refl.select _ _
  | detach => exact edits_detachTerminal .refl
  | closeTab =>
    change page.work.Edits page.closeUiTab.work
    exact edits_removeSession (edits_detachTerminal .refl) _
  | mfa =>
    simp only [click, ensureAuthenticatedSession_work]
    exact .refl
  | reconnect =>
    simp only [click, reconnect]
    split
    · simp only [connect_work, setStatus_work]
      exact .refl
    · exact .refl
  | retry =>
    simp only [click, connect_work]
    exact .refl

theorem edits_clickDetached (page : Page) (record : SessionSummary) :
    page.work.Edits (page.clickDetached record).work := by
  dsimp only [clickDetached]
  split
  · rw [connect_work]
    exact Workspace.Edits.refl.select _ _
  · exact Workspace.Edits.refl.select _ _

theorem edits_load (page : Page) : page.work.load.Edits page.load.work := by
  dsimp only [load]
  split
  · rw [connect_work]
    exact Workspace.Edits.refl.select _ _
  · rw [connect_work]
    exact .refl

theorem load_activeSessions (page : Page) :
    page.load.work.activeSessions = page.work.load.activeSessions := by
  dsimp only [load]
  split
  · rw [connect_work]
    rfl
  · rw [connect_work]
    rfl

/-- Everything that an event can do to the sessions of a page. -/
theorem handle_work {event : Event} (h : page.handle event = some next) :
    (event.isLoaded = false ∧ page.work.Edits next.work) ∨
      (event.isLoaded = true ∧ page.work.load.Edits next.work) ∨ next = blank page.work.stored := by
  cases event with
  | loaded =>
    cases h
    exact Or.inr (Or.inl ⟨rfl, edits_load page⟩)
  | reloaded =>
    cases h
    exact Or.inr (Or.inr rfl)
  | resumed task reply =>
    simp only [handle] at h
    split at h
    · have edits := edits_resume h
      exact Or.inl ⟨rfl, edits⟩
    · cases h
  | opened ref width height =>
    rw [handle] at h
    obtain ⟨socket, -, -, rfl⟩ := onSocket_cases h
    exact Or.inl ⟨rfl, (by rw [onOpen_work]; exact .refl)⟩
  | received ref incoming =>
    rw [handle] at h
    obtain ⟨socket, -, -, rfl⟩ := onSocket_cases h
    exact Or.inl ⟨rfl, edits_onMessage { page with wire := page.wire.setReady ref .open } incoming⟩
  | closed ref failed =>
    rw [handle] at h
    obtain ⟨socket, -, -, rfl⟩ := onSocket_cases h
    exact Or.inl ⟨rfl, (by rw [onClose_work]; exact .refl)⟩
  | resized width height =>
    simp only [handle] at h
    split at h
    · cases h
    · cases h
      exact Or.inl ⟨rfl, (by rw [resize_work]; exact .refl)⟩
  | typed data =>
    cases h
    exact Or.inl ⟨rfl, (by rw [sendInput_work]; exact .refl)⟩
  | mobileCtrl =>
    cases h
    exact Or.inl ⟨rfl, .refl⟩
  | mobileKey data =>
    cases h
    exact Or.inl ⟨rfl, (by simpa [sendMobileKey] using .refl)⟩
  | nodeTyped text =>
    cases h
    exact Or.inl ⟨rfl, .refl⟩
  | login email password =>
    simp only [handle] at h
    split at h
    · cases h
    · cases h
      exact Or.inl ⟨rfl, (by rw [login_work]; exact .refl)⟩
  | clicked button =>
    simp only [handle] at h
    split at h
    · cases h
    · cases h
      exact Or.inl ⟨rfl, edits_click page button⟩
  | tab index =>
    obtain ⟨record, -, rfl⟩ := Option.map_eq_some_iff.mp h
    refine Or.inl ⟨rfl, ?_⟩
    rw [clickTab, connect_work]
    exact Workspace.Edits.refl.select _ _
  | detachedRow index =>
    obtain ⟨record, -, rfl⟩ := Option.map_eq_some_iff.mp h
    exact Or.inl ⟨rfl, edits_clickDetached page record⟩
  | pasted clipboard =>
    cases h
    exact Or.inl ⟨rfl, (by rw [sendMobilePaste_work]; exact .refl)⟩
  | left =>
    cases h
    exact Or.inl ⟨rfl, (by rw [cleanupTerminal_work]; exact .refl)⟩

end Page

/-- A page that is ready has stored what it knows. -/
theorem Shows.saved {stored : Option StoredWorkspace} {labels : List (Page.Event × Bool)}
    {page : Page} {requests : List Request} (h : Shows stored labels page requests)
    (kept : ∀ label ∈ labels, label.2 = true) : page.ready = true → page.work.Saved := by
  refine Machine.invariant_of (P := fun label => label.2 = true)
    (I := fun _ page => page.ready = true → page.work.Saved) ?_ ?_ kept h
  · intro hready
    cases hready
  · intro _ page label next _ writes hsaved hstep
    obtain ⟨after, hready, hafter, rfl, -⟩ := terminalPage_step hstep
    rcases Page.handle_work hafter with ⟨hevent, edits⟩ | ⟨-, edits⟩ | rfl
    · rw [hevent] at hready
      have hbefore := hsaved hready
      exact fun _ => edits.saved writes ⟨hbefore.keyed, hbefore.same⟩
    · exact fun _ => edits.saved writes (Workspace.saved_load _)
    · intro hafter
      cases hafter

/-- While the storage takes what it is given, a page that is loaded again knows each session
    under the token it had. -/
theorem reload_keeps_tokens {stored : Option StoredWorkspace}
    {labels : List (Page.Event × Bool)} {page again : Page} {requests requests' : List Request}
    (h : Shows stored labels page requests) (ready : page.ready = true)
    (kept : ∀ label ∈ labels, label.2 = true) {writes writes' : Bool}
    (reloaded : Shows stored (labels ++ [(.reloaded, writes), (.loaded, writes')]) again requests')
    {id : String} (named : id ≠ "") : again.work.tokenOf id = page.work.tokenOf id := by
  have hsaved := (h.saved kept ready).same id named
  obtain ⟨middle, early, late, hfront, hback, -⟩ := (Machine.run_append _).mp reloaded
  obtain ⟨rfl, -⟩ := Prod.mk.inj (Option.some.inj (hfront.symm.trans h))
  obtain ⟨blank, _, _, hreload, hload, -⟩ := (Machine.run_cons _).mp hback
  obtain ⟨_, -, hblank, rfl, -⟩ := terminalPage_step hreload
  cases hblank
  obtain ⟨_, -, hagain, rfl, -⟩ := terminalPage_step ((Machine.run_singleton _).mp hload)
  cases hagain
  rw [← hsaved, Workspace.tokenOf, Workspace.tokenOf]
  exact congrArg (fun known => (OrderedMap.get known id).bind (·.reconnectToken))
    (Page.load_activeSessions _)

/-- A second terminal is started while the first one is kept, and the page is loaded again. -/
def secondLabels : List (Page.Event × Bool) :=
  renewedLabels ++ [(.opened .current 720 432, true),
    (.received .current
      (.message (.started ⟨"local-2"⟩ none ⟨80, 24⟩ (some ⟨"secret"⟩) none)), true)]

def againLabels : List (Page.Event × Bool) :=
  secondLabels ++ [(.reloaded, true), (.loaded, true)]

theorem reload_keeps_tokens_second : ∃ page again requests requests',
    Shows (some resumedTab) secondLabels page requests ∧
    Shows (some resumedTab) againLabels again requests' ∧
    page.work.tokenOf "local-2" = some "secret" ∧
    again.work.tokenOf "local-1" = page.work.tokenOf "local-1" ∧
    again.work.tokenOf "local-2" = page.work.tokenOf "local-2" := by
  obtain ⟨page, requests, shows, ready, known⟩ : ∃ page requests,
      Shows (some resumedTab) secondLabels page requests ∧ page.ready = true ∧
        page.work.tokenOf "local-2" = some "secret" := ⟨_, _, rfl, rfl, rfl⟩
  obtain ⟨again, requests', reloaded⟩ : ∃ again requests',
      Shows (some resumedTab) againLabels again requests' := ⟨_, _, rfl⟩
  have kept : ∀ label ∈ secondLabels, label.2 = true := by
    simp [secondLabels, renewedLabels, resumedLabels]
  exact ⟨page, again, requests, requests', shows, reloaded, known,
    reload_keeps_tokens shows ready kept reloaded (by decide),
    reload_keeps_tokens shows ready kept reloaded (by decide)⟩

end Sunbolt.Ui
