/- Module: Sunbolt/Control/ReconnectTokens
   scope: sunbolt-control/src/terminal/session_registry.rs
   digest: A reconnect token is good for one reattach, of its session, by its user. -/

import Sunbolt.Control.RegistryMachine

set_option autoImplicit false
set_option relaxedAutoImplicit false

namespace Sunbolt.Control

open Sunbolt.Protocol (TerminalSessionId TerminalReconnectToken)
open Sunbolt.Terminal (TerminalSessionState)

/-- A token with the session and the user it was issued to or presented for. -/
structure TokenUse where
  sessionId : TerminalSessionId
  actorEmail : String
  token : TerminalReconnectToken
  deriving DecidableEq

namespace RegistryEvent

/-- The token an operation has issued: to a new session, or to one that is reattached. -/
def issued (e : RegistryEvent) : Option TokenUse :=
  match e.call, e.reply with
  | .insert request _ token, .inserted (.ok _) =>
    some ⟨request.sessionId, request.actorEmail, token⟩
  | .reattach sessionId _ actorEmail _ token, .reattached (some _) =>
    some ⟨sessionId, actorEmail, token⟩
  | _, _ => none

/-- The token a reattach has accepted. -/
def accepted (e : RegistryEvent) : Option TokenUse :=
  match e.call, e.reply with
  | .reattach sessionId reconnectToken actorEmail _ _, .reattached (some _) =>
    some ⟨sessionId, actorEmail, reconnectToken⟩
  | _, _ => none

end RegistryEvent

def issuedTokens (history : List RegistryEvent) : List TokenUse :=
  history.filterMap RegistryEvent.issued

def acceptedTokens (history : List RegistryEvent) : List TokenUse :=
  history.filterMap RegistryEvent.accepted

/-- `random_token` never draws a token again. -/
def FreshTokens (history : List RegistryEvent) : Prop :=
  ((issuedTokens history).map (·.token)).Nodup

section Steps

variable {registry : TerminalSessionRegistry} {call : RegistryCall} {sessionId : TerminalSessionId}
  {session : TrackedTerminalSession}

/-- The user and the token of a session. -/
def TrackedTerminalSession.key (session : TrackedTerminalSession) (sessionId : TerminalSessionId) :
    TokenUse :=
  ⟨sessionId, session.actorEmail, session.reconnectToken⟩

private theorem key_of_modify {named : TerminalSessionId}
    {f : TrackedTerminalSession → TrackedTerminalSession}
    (h : (registry.modify named f).get sessionId = some session)
    (keeps : ∀ session, (f session).actorEmail = session.actorEmail ∧
      (f session).reconnectToken = session.reconnectToken) :
    ∃ before, registry.get sessionId = some before ∧
      session.key sessionId = before.key sessionId := by
  rw [TerminalSessionRegistry.get_modify] at h
  split_ifs at h
  · obtain ⟨before, hbefore, rfl⟩ := Option.map_eq_some_iff.mp h
    refine ⟨before, hbefore, ?_⟩
    rw [TrackedTerminalSession.key, (keeps before).1, (keeps before).2, TrackedTerminalSession.key]
  · exact ⟨session, h, rfl⟩

private theorem moveTo_keeps (state : TerminalSessionState) (session : TrackedTerminalSession) :
    (session.moveTo state).actorEmail = session.actorEmail ∧
      (session.moveTo state).reconnectToken = session.reconnectToken := by
  rw [TrackedTerminalSession.moveTo]
  split_ifs
  · exact ⟨rfl, rfl⟩
  · exact ⟨rfl, rfl⟩

private theorem get_of_removed {next : TerminalSessionRegistry} {gone : Prop} [Decidable gone]
    (hnext : next.get sessionId = if gone then none else registry.get sessionId)
    (h : next.get sessionId = some session) :
    ∃ before, registry.get sessionId = some before ∧
      session.key sessionId = before.key sessionId := by
  rw [hnext] at h
  split_ifs at h
  exact ⟨session, h, rfl⟩

/-- A session holds the token it held, unless the operation has issued it the one it holds. -/
theorem key_of_serve (h : (registry.serve call).1.get sessionId = some session) :
    (∃ before, registry.get sessionId = some before ∧
      session.key sessionId = before.key sessionId) ∨
    (registry.event call).issued = some (session.key sessionId) := by
  cases call with
  | insert request now token =>
    rcases registry.insertBackend_cases request now token with ⟨error, heq⟩ | heq
    · rw [TerminalSessionRegistry.serve, heq] at h
      exact Or.inl ⟨session, h, rfl⟩
    · rw [TerminalSessionRegistry.serve, heq, TerminalSessionRegistry.get_insert] at h
      split_ifs at h with hid
      · right
        obtain rfl := Option.some.inj h
        rw [TerminalSessionRegistry.event, TerminalSessionRegistry.serve, heq, hid]
        rfl
      · exact Or.inl ⟨session, h, rfl⟩
  | setState named state => exact Or.inl (key_of_modify h (moveTo_keeps state))
  | detach named => exact Or.inl (key_of_modify h (moveTo_keeps .detached))
  | reattach named reconnectToken actorEmail now token =>
    rcases registry.reattach_cases named reconnectToken actorEmail now token with
      heq | ⟨tracked, hget, hactor, -, -, heq⟩
    · rw [TerminalSessionRegistry.serve, heq] at h
      exact Or.inl ⟨session, h, rfl⟩
    · rw [TerminalSessionRegistry.serve, heq, TerminalSessionRegistry.get_modify] at h
      split_ifs at h with hid
      · right
        subst hid
        rw [hget] at h
        obtain rfl := Option.some.inj h
        rw [TerminalSessionRegistry.event, TerminalSessionRegistry.serve, heq, ← hactor]
        rfl
      · exact Or.inl ⟨session, h, rfl⟩
  | touch named now => exact Or.inl (key_of_modify h (fun _ => ⟨rfl, rfl⟩))
  | setSize named size => exact Or.inl (key_of_modify h (fun _ => ⟨rfl, rfl⟩))
  | recordOutput named data => exact Or.inl (key_of_modify h (fun _ => ⟨rfl, rfl⟩))
  | rememberServerMessage message =>
    rw [TerminalSessionRegistry.serve, TerminalSessionRegistry.rememberServerMessage] at h
    split at h
    · exact Or.inl ⟨session, h, rfl⟩
    · exact Or.inl (key_of_modify h (fun _ => ⟨rfl, rfl⟩))
  | terminate named => exact Or.inl (get_of_removed (registry.get_terminate named sessionId) h)
  | remove named => exact Or.inl (get_of_removed (registry.get_remove named sessionId) h)
  | drainExpired maxDuration detachedIdleTimeout now =>
    exact Or.inl (get_of_removed (registry.get_removeEach sessionId .expired _) h)
  | closeSessionsForNode nodeId =>
    exact Or.inl (get_of_removed (registry.get_removeEach sessionId .terminating _) h)

/-- A reattach that is accepted found its session tracked, reattachable, of this user and with
    this token; one that is refused changes nothing. -/
theorem serve_reattach (registry : TerminalSessionRegistry) (sessionId : TerminalSessionId)
    (reconnectToken : TerminalReconnectToken) (actorEmail : String) (now : Nat)
    (token : TerminalReconnectToken) :
    ((registry.serve (.reattach sessionId reconnectToken actorEmail now token)).2 =
        .reattached none ∧
      (registry.serve (.reattach sessionId reconnectToken actorEmail now token)).1 = registry) ∨
    ∃ tracked target, registry.get sessionId = some tracked ∧ tracked.actorEmail = actorEmail ∧
      tracked.state.isReattachable = true ∧ tracked.reconnectToken = reconnectToken ∧
      (registry.serve (.reattach sessionId reconnectToken actorEmail now token)).2 =
        .reattached (some target) ∧
      ∀ session, (registry.serve (.reattach sessionId reconnectToken actorEmail now token)).1.get
        sessionId = some session → session.reconnectToken = token := by
  rcases registry.reattach_cases sessionId reconnectToken actorEmail now token with
    heq | ⟨tracked, hget, hactor, hstate, htoken, heq⟩
  · left
    rw [TerminalSessionRegistry.serve, heq]
    exact ⟨rfl, rfl⟩
  · right
    rw [TerminalSessionRegistry.serve, heq]
    refine ⟨tracked, _, hget, hactor, hstate, htoken, rfl, ?_⟩
    intro session hsession
    rw [TerminalSessionRegistry.get_modify, if_pos rfl, hget] at hsession
    obtain rfl := Option.some.inj hsession
    rfl

theorem reattach_refused (h : (registry.serve call).2 = .reattached none) :
    (registry.serve call).1 = registry := by
  cases call with
  | reattach sessionId reconnectToken actorEmail now token =>
    rcases serve_reattach registry sessionId reconnectToken actorEmail now token with
      ⟨-, hsame⟩ | ⟨tracked, target, -, -, -, -, htarget, -⟩
    · exact hsame
    · rw [htarget] at h
      cases h
  | _ => simp [TerminalSessionRegistry.serve] at h

theorem accepted_cases {use : TokenUse} (h : (registry.event call).accepted = some use) :
    ∃ now token, call = .reattach use.sessionId use.token use.actorEmail now token ∧
      (registry.event call).issued = some ⟨use.sessionId, use.actorEmail, token⟩ ∧
      ∃ tracked, registry.get use.sessionId = some tracked ∧
        tracked.key use.sessionId = use ∧ tracked.state.isReattachable = true ∧
        ∀ session, (registry.serve call).1.get use.sessionId = some session →
          session.reconnectToken = token := by
  cases call with
  | reattach sessionId reconnectToken actorEmail now token =>
    rcases serve_reattach registry sessionId reconnectToken actorEmail now token with
      ⟨hreply, -⟩ | ⟨tracked, target, hget, hactor, hstate, htoken, hreply, hnew⟩
    · simp [TerminalSessionRegistry.event, RegistryEvent.accepted, hreply] at h
    · simp only [TerminalSessionRegistry.event, RegistryEvent.accepted, hreply,
        Option.some.injEq] at h
      subst h
      refine ⟨now, token, rfl, ?_, tracked, hget, ?_, hstate, hnew⟩
      · simp [TerminalSessionRegistry.event, RegistryEvent.issued, hreply]
      · rw [TrackedTerminalSession.key, hactor, htoken]
  | _ => simp [TerminalSessionRegistry.event, RegistryEvent.accepted] at h

end Steps

/-- The invariant of the tokens: what a session holds was issued to it and not accepted yet. -/
private structure TokensHeld (history : List RegistryEvent) (registry : TerminalSessionRegistry) :
    Prop where
  held : ∀ sessionId session, registry.get sessionId = some session →
    session.key sessionId ∈ issuedTokens history
  unspent : ∀ sessionId session, registry.get sessionId = some session →
    ∀ use ∈ acceptedTokens history, use.token ≠ session.reconnectToken
  known : ∀ use ∈ acceptedTokens history, use ∈ issuedTokens history
  once : ((acceptedTokens history).map (·.token)).Nodup

private theorem issuedTokens_concat (history : List RegistryEvent) (e : RegistryEvent) :
    issuedTokens (history ++ [e]) = issuedTokens history ++ e.issued.toList := by
  rw [issuedTokens, List.filterMap_append]
  cases h : e.issued <;> simp [issuedTokens, h]

private theorem acceptedTokens_concat (history : List RegistryEvent) (e : RegistryEvent) :
    acceptedTokens (history ++ [e]) = acceptedTokens history ++ e.accepted.toList := by
  rw [acceptedTokens, List.filterMap_append]
  cases h : e.accepted <;> simp [acceptedTokens, h]

/-- Tokens that are never drawn again tell their uses apart. -/
private theorem FreshTokens.unique {history : List RegistryEvent} (fresh : FreshTokens history)
    {use other : TokenUse} (huse : use ∈ issuedTokens history)
    (hother : other ∈ issuedTokens history) (htoken : use.token = other.token) : use = other :=
  List.inj_on_of_nodup_map fresh huse hother htoken

private theorem FreshTokens.early {history : List RegistryEvent} {e : RegistryEvent}
    (fresh : FreshTokens (history ++ [e])) : FreshTokens history ∧
      ∀ use ∈ issuedTokens history, ∀ new, e.issued = some new → use.token ≠ new.token := by
  rw [FreshTokens, issuedTokens_concat, List.map_append, List.nodup_append] at fresh
  refine ⟨fresh.1, ?_⟩
  intro use huse new hnew
  refine fresh.2.2 _ (List.mem_map_of_mem huse) _ ?_
  rw [hnew]
  exact List.mem_singleton_self _

private theorem TokensHeld.serve {history : List RegistryEvent} {registry : TerminalSessionRegistry}
    (h : TokensHeld history registry) (call : RegistryCall)
    (fresh : FreshTokens (history ++ [registry.event call])) :
    TokensHeld (history ++ [registry.event call]) (registry.serve call).1 := by
  obtain ⟨early, apart⟩ := fresh.early
  have heldAfter : ∀ sessionId session, (registry.serve call).1.get sessionId = some session →
      session.key sessionId ∈ issuedTokens (history ++ [registry.event call]) := by
    intro sessionId session hget
    rw [issuedTokens_concat]
    rcases key_of_serve hget with ⟨before, hbefore, hkey⟩ | hissued
    · exact List.mem_append_left _ (hkey ▸ h.held sessionId before hbefore)
    · exact List.mem_append_right _ (Option.mem_toList.mpr hissued)
  constructor
  · exact heldAfter
  · intro sessionId session hget use huse
    rw [acceptedTokens_concat] at huse
    rcases List.mem_append.mp huse with huse | huse
    · -- an old use: the session holds its old token, or one that was not drawn before
      rcases key_of_serve hget with ⟨before, hbefore, hkey⟩ | hissued
      · have htoken : session.reconnectToken = before.reconnectToken :=
          congrArg TokenUse.token hkey
        rw [htoken]
        exact h.unspent sessionId before hbefore use huse
      · exact apart use (h.known use huse) _ hissued
    · -- the use of this very step: its session has just got another token
      obtain ⟨now, token, rfl, hissued, tracked, htracked, hkey, -, hnew⟩ :=
        accepted_cases (Option.mem_toList.mp huse)
      have hspent : use ∈ issuedTokens history := hkey ▸ h.held _ tracked htracked
      by_cases hid : sessionId = use.sessionId
      · subst hid
        rw [hnew session hget]
        exact apart use hspent _ hissued
      · intro heq
        have hsame := fresh.unique (heldAfter sessionId session hget)
          (by
            rw [issuedTokens_concat]
            exact List.mem_append_left _ hspent) heq.symm
        exact hid (congrArg TokenUse.sessionId hsame)
  · intro use huse
    rw [acceptedTokens_concat] at huse
    rw [issuedTokens_concat]
    rcases List.mem_append.mp huse with huse | huse
    · exact List.mem_append_left _ (h.known use huse)
    · obtain ⟨now, token, rfl, -, tracked, htracked, hkey, -, -⟩ :=
        accepted_cases (Option.mem_toList.mp huse)
      exact List.mem_append_left _ (hkey ▸ h.held _ tracked htracked)
  · rw [acceptedTokens_concat, List.map_append]
    cases haccepted : (registry.event call).accepted with
    | none => simpa using h.once
    | some use =>
      obtain ⟨now, token, rfl, -, tracked, htracked, hkey, -, -⟩ := accepted_cases haccepted
      have hfresh : use.token ∉ (acceptedTokens history).map (·.token) := by
        intro hmem
        obtain ⟨old, hold, heq⟩ := List.mem_map.mp hmem
        refine h.unspent _ tracked htracked old hold (heq.trans ?_)
        exact (congrArg TokenUse.token hkey).symm
      exact h.once.append (List.nodup_singleton _) (List.disjoint_singleton.mpr hfresh)

private theorem RegistryReaches.tokens {history : List RegistryEvent}
    {registry : TerminalSessionRegistry} (h : RegistryReaches history registry) :
    FreshTokens history → TokensHeld history registry :=
  h.invariant (I := fun history registry => FreshTokens history → TokensHeld history registry)
    (fun _ => ⟨fun _ _ hget => (nomatch hget), fun _ _ hget => (nomatch hget),
      fun _ huse => (nomatch huse), List.nodup_nil⟩)
    (fun _ _ call ih fresh => (ih fresh.early.1).serve call fresh)

/-- What holds of the tokens of a run. -/
structure SingleUse (history : List RegistryEvent) : Prop where
  once : ((acceptedTokens history).map (·.token)).Nodup
  bound : ∀ use ∈ acceptedTokens history, ∀ issue ∈ issuedTokens history,
    use.token = issue.token → use = issue
  accepted : ∀ front e back use, history = front ++ e :: back → e.accepted = some use →
    use ∈ issuedTokens front ∧ ∃ session, e.before.get use.sessionId = some session ∧
      session.actorEmail = use.actorEmail ∧ session.reconnectToken = use.token ∧
      session.state.isReattachable = true
  refused : ∀ e ∈ history, e.reply = .reattached none → e.after = e.before

/-- Every reconnect token is accepted at most once, for the session and the user it was issued
    to, while that session can be reattached; a refused reattach changes nothing. -/
theorem tokens_single_use {history : List RegistryEvent} {registry : TerminalSessionRegistry}
    (h : RegistryReaches history registry) (fresh : FreshTokens history) : SingleUse history where
  once := (h.tokens fresh).once
  bound use huse issue hissue htoken := fresh.unique ((h.tokens fresh).known use huse) hissue htoken
  accepted front e back use hsplit haccepted := by
    obtain ⟨hfront, hevent⟩ := h.front hsplit
    have freshFront : FreshTokens front := by
      rw [FreshTokens, hsplit, issuedTokens, List.filterMap_append, List.map_append] at fresh
      exact (List.nodup_append.mp fresh).1
    rw [hevent] at haccepted
    obtain ⟨now, token, -, -, session, hget, hkey, hstate, -⟩ := accepted_cases haccepted
    refine ⟨hkey ▸ (hfront.tokens freshFront).held _ session hget, session, hget, ?_, ?_, hstate⟩
    · exact congrArg TokenUse.actorEmail hkey
    · exact congrArg TokenUse.token hkey
  refused e he hnone := by
    rw [h.event he] at hnone ⊢
    exact reattach_refused hnone

/-- Two reattaches with the first token: only the first one is accepted. -/
private def reattachCalls : List RegistryCall :=
  [.insert ⟨⟨"s1"⟩, .local 0, ⟨80, 24⟩, ⟨2, 2, 2, 60, 3600⟩, "alice", none, none⟩ 0 ⟨"t1"⟩,
    .setState ⟨"s1"⟩ .active, .reattach ⟨"s1"⟩ ⟨"t1"⟩ "alice" 1 ⟨"t2"⟩,
    .reattach ⟨"s1"⟩ ⟨"t1"⟩ "alice" 2 ⟨"t3"⟩]

theorem tokens_single_use_twice : ∃ history registry, RegistryReaches history registry ∧
    acceptedTokens history = [⟨⟨"s1"⟩, "alice", ⟨"t1"⟩⟩] ∧ SingleUse history := by
  obtain ⟨history, registry, hrun, hissued, haccepted⟩ : ∃ history registry,
      registryMachine.run .empty reattachCalls = some (registry, history) ∧
      issuedTokens history = [⟨⟨"s1"⟩, "alice", ⟨"t1"⟩⟩, ⟨⟨"s1"⟩, "alice", ⟨"t2"⟩⟩] ∧
      acceptedTokens history = [⟨⟨"s1"⟩, "alice", ⟨"t1"⟩⟩] := ⟨_, _, rfl, rfl, rfl⟩
  refine ⟨history, registry, ⟨reattachCalls, hrun⟩, haccepted,
    tokens_single_use ⟨reattachCalls, hrun⟩ ?_⟩
  rw [FreshTokens, hissued]
  decide

end Sunbolt.Control
