/- Module: Sunbolt/Control/AuthAccounts
   scope: sunbolt-auth/src/lib.rs
   digest: Each account keeps its email, and is what its last upsert has made it. -/

import Sunbolt.Control.AuthRuns

set_option autoImplicit false
set_option relaxedAutoImplicit false

namespace Sunbolt.Control

open Sunbolt.Library
open Sunbolt.Auth (AuthConfig AuthStore Primitives StoredUser User UserRole normalizeEmail)

/-- The account that a call has added or changed, as it has returned it. -/
def upserted (x : Interaction AuthAction AuthReply) : Option User :=
  match x with
  | ⟨.upsertUser _ _ _, .ok user⟩ => some user
  | _ => none

/-- An account after a call. -/
def upsertedNext (userId : Nat) (last : Option User) (x : Interaction AuthAction AuthReply) :
    Option User :=
  match upserted x with
  | some user => if user.id = userId then some user else last
  | none => last

/-- What the last upsert of an account has returned. -/
def lastUpserted (userId : Nat) (history : List AuthEvent) : Option User :=
  (history.map (·.interaction)).foldl (upsertedNext userId) none

/-- Every email leads to an account of that email, and every account has its own number. -/
structure Accounts (store : AuthStore) : Prop where
  known : ∀ email userId, store.userIdsByEmail.lookup email = some userId →
    ∃ stored, store.usersById.lookup userId = some stored ∧ stored.user.email = email
  numbered : ∀ userId stored, store.usersById.lookup userId = some stored →
    stored.user.id = userId ∧ userId < store.nextUserId

@[simp] theorem lastUpserted_append_one (userId : Nat) (history : List AuthEvent)
    (e : AuthEvent) :
    lastUpserted userId (history ++ [e]) =
      upsertedNext userId (lastUpserted userId history) e.interaction := by
  rw [lastUpserted, List.map_append, List.foldl_append]
  rfl

theorem Accounts.of_same {store next : AuthStore} (h : Accounts store)
    (same : next.accounts = store.accounts) : Accounts next := by
  simp only [AuthStore.accounts, Prod.mk.injEq] at same
  obtain ⟨husers, hemails, hnext⟩ := same
  constructor
  · rw [husers, hemails]
    exact h.known
  · rw [husers, hnext]
    exact h.numbered

/-- What adding a user does to the accounts. -/
theorem Accounts.upsertUser {primitives : Primitives} {store : AuthStore} (h : Accounts store)
    (email password : String) (role : UserRole) :
    Accounts (store.upsertUser primitives email password role).1 ∧
    (∀ other userId, store.userIdsByEmail.lookup other = some userId →
      (store.upsertUser primitives email password role).1.userIdsByEmail.lookup other =
        some userId) ∧
    ∀ userId, ((store.upsertUser primitives email password role).1.usersById.lookup userId).map
        (·.user) =
      upsertedNext userId ((store.usersById.lookup userId).map (·.user))
        ⟨.upsertUser email password role,
          (store.upsertUser primitives email password role).2⟩ := by
  rcases store.upsertUser_cases primitives email password role with
    ⟨error, heq⟩ | ⟨known, stored, hid, hstored, heq⟩ | ⟨hnone, heq⟩
  · rw [heq]
    exact ⟨h, fun other userId found => found, fun userId => rfl⟩
  · rw [heq]
    obtain ⟨hown, hlt⟩ := h.numbered known stored hstored
    refine ⟨⟨?_, ?_⟩, fun other userId found => found, fun userId => ?_⟩
    · intro other userId found
      obtain ⟨other', hother, hemail⟩ := h.known other userId found
      dsimp only
      rw [Table.lookup_insert]
      split_ifs with hsame
      · subst hsame
        obtain rfl := Option.some.inj (hother.symm.trans hstored)
        exact ⟨_, rfl, hemail⟩
      · exact ⟨other', hother, hemail⟩
    · intro userId other hother
      dsimp only at hother ⊢
      rw [Table.lookup_insert] at hother
      split_ifs at hother with hsame
      · subst hsame
        cases hother
        exact ⟨hown, hlt⟩
      · exact h.numbered userId other hother
    · dsimp only [upsertedNext, upserted]
      rw [Table.lookup_insert, hown]
      by_cases hsame : userId = known
      · rw [if_pos hsame, if_pos hsame.symm]
        rfl
      · rw [if_neg hsame, if_neg (Ne.symm hsame)]
  · rw [heq]
    have hfresh : ∀ userId stored, store.usersById.lookup userId = some stored →
        userId ≠ store.nextUserId := by
      intro userId stored hstored
      exact Nat.ne_of_lt (h.numbered userId stored hstored).2
    refine ⟨⟨?_, ?_⟩, fun other userId found => ?_, fun userId => ?_⟩
    · intro other userId found
      dsimp only at found ⊢
      rw [Table.lookup_insert] at found ⊢
      split_ifs at found with hemail
      · cases found
        exact ⟨_, if_pos rfl, hemail.symm⟩
      · obtain ⟨stored, hstored, hown⟩ := h.known other userId found
        exact ⟨stored, (if_neg (hfresh userId stored hstored)).trans hstored, hown⟩
    · intro userId stored hstored
      dsimp only at hstored ⊢
      rw [Table.lookup_insert] at hstored
      split_ifs at hstored with hsame
      · subst hsame
        cases hstored
        exact ⟨rfl, Nat.lt_succ_self _⟩
      · obtain ⟨hown, hlt⟩ := h.numbered userId stored hstored
        exact ⟨hown, Nat.lt_succ_of_lt hlt⟩
    · dsimp only
      rw [Table.lookup_insert, if_neg]
      · exact found
      · rintro rfl
        rw [hnone] at found
        cases found
    · dsimp only [upsertedNext, upserted]
      rw [Table.lookup_insert]
      by_cases hsame : userId = store.nextUserId
      · rw [if_pos hsame, if_pos hsame.symm]
        rfl
      · rw [if_neg hsame, if_neg (Ne.symm hsame)]

section Calls

variable {primitives : Primitives} {config : AuthConfig}

/-- What a call does to the accounts. -/
theorem Accounts.step {e : AuthEvent} {choice : AuthChoice} (h : Accounts e.before.store)
    (call : performAuth primitives config e.before e.action choice = some (e.reply, e.after)) :
    Accounts e.after.store ∧
    (∀ email userId, e.before.store.userIdsByEmail.lookup email = some userId →
      e.after.store.userIdsByEmail.lookup email = some userId) ∧
    ∀ userId, (e.after.store.usersById.lookup userId).map (·.user) =
      upsertedNext userId ((e.before.store.usersById.lookup userId).map (·.user))
        e.interaction := by
  by_cases hupsert : ∃ email password role, e.action = .upsertUser email password role
  · obtain ⟨email, password, role, haction⟩ := hupsert
    obtain ⟨task, origin, action, reply, before, after, spawned⟩ := e
    cases haction
    dsimp only at h call ⊢
    cases choice <;> cases call
    exact h.upsertUser email password role
  · have hplain : ∀ email password role, e.action ≠ .upsertUser email password role :=
      fun email password role heq => hupsert ⟨email, password, role, heq⟩
    have same := (performAuth_frame call).accounts hplain
    have hparts := same
    simp only [AuthStore.accounts, Prod.mk.injEq] at hparts
    obtain ⟨husers, hemails, -⟩ := hparts
    refine ⟨h.of_same same, ?_, fun userId => ?_⟩
    · rw [hemails]
      exact fun email userId found => found
    · have hnone : upserted e.interaction = none := by
        obtain ⟨task, origin, action, reply, before, after, spawned⟩ := e
        unfold upserted
        split
        · rename_i email password role user heq
          cases heq
          exact absurd rfl (hplain email password role)
        · rfl
      rw [upsertedNext, hnone, husers]

end Calls

section Runs

variable {primitives : Primitives} {config : AuthConfig} {history : List AuthEvent}
  {state : AuthState}

/-- In every run each account is what its last upsert has returned. -/
theorem AuthRun.accounts (h : AuthRun primitives config history state) :
    Accounts state.store ∧ ∀ userId,
      (state.store.usersById.lookup userId).map (·.user) = lastUpserted userId history := by
  induction h with
  | start => exact ⟨⟨nofun, nofun⟩, fun _ => rfl⟩
  | next earlier call ih =>
    obtain ⟨haccounts, hlast⟩ := ih
    obtain ⟨hnext, -, hupserted⟩ := haccounts.step call
    refine ⟨hnext, fun userId => ?_⟩
    rw [lastUpserted_append_one, ← hlast userId]
    exact hupserted userId

/-- An email that has led to an account leads to it from then on. -/
theorem AuthRun.keeps_email (h : AuthRun primitives config history state) {e : AuthEvent}
    (he : e ∈ history) {email : String} {userId : Nat}
    (found : e.before.store.userIdsByEmail.lookup email = some userId) :
    state.store.userIdsByEmail.lookup email = some userId := by
  induction h with
  | start => cases he
  | next earlier call ih =>
    obtain ⟨-, keeps, -⟩ := earlier.accounts.1.step call
    rcases List.mem_append.mp he with he | he
    · exact keeps email userId (ih he)
    · rw [List.mem_singleton.mp he] at found
      exact keeps email userId found

/-- Emails that lead to the same account, at any time of the run, are the same. -/
theorem AuthRun.email_unique (h : AuthRun primitives config history state) {d e : AuthEvent}
    (hd : d ∈ history) (he : e ∈ history) {email other : String} {userId : Nat}
    (found : d.before.store.userIdsByEmail.lookup email = some userId)
    (found' : e.before.store.userIdsByEmail.lookup other = some userId) : email = other := by
  have known := h.accounts.1.known
  obtain ⟨stored, hstored, hemail⟩ := known email userId (h.keeps_email hd found)
  obtain ⟨stored', hstored', hemail'⟩ := known other userId (h.keeps_email he found')
  obtain rfl := Option.some.inj (hstored.symm.trans hstored')
  exact hemail.symm.trans hemail'

end Runs

end Sunbolt.Control
