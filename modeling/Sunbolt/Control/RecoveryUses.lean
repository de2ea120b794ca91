/- Module: Sunbolt/Control/RecoveryUses
   scope: sunbolt-auth/src/lib.rs, sunbolt-auth/src/recovery_codes.rs
   digest: A recovery code works once, for its own user, however the calls interleave. -/

import Sunbolt.Auth.RecoveryCodes
import Sunbolt.Control.AuthRuns
import Sunbolt.Library.Tally

set_option autoImplicit false
set_option relaxedAutoImplicit false

namespace Sunbolt.Control

open Sunbolt.Library
open Sunbolt.Auth (AuthConfig AuthFactorEnrollment AuthStore FactorsOwned IsGenerated KeepsCodeChars
  NoCollision Primitives Spells StoredRecoveryCode User codeMessage drawn_once generated_inj
  hashRecoveryCode recoveryCodeRecords unused unused_recoveryCodeRecords)

/-- The codes that a call has drawn. -/
def drawn (e : AuthEvent) : List String :=
  match e.interaction with
  | ⟨.freshRecoveryCodes, codes⟩ => codes
  | _ => []

/-- All codes that have been drawn in a run. -/
def drawnCodes (history : List AuthEvent) : List String := history.flatMap drawn

/-- The user that a job issues recovery codes to. -/
def issuedTo : AuthJob → Option Nat
  | .generateRecoveryCodes userId => some userId
  | .regenerateRecoveryCodes userId => some userId
  | _ => none

/-- A verification takes its entry, which spells the code. -/
def accepts (primitives : Primitives) (code : String) (e : AuthEvent) : Bool :=
  match e.origin, e.action with
  | .verifyRecoveryCode _ entry, .returned (.ok _) => Spells primitives entry code
  | _, _ => false

/-- The codes are drawn as the service draws them, no two are the same, and their messages do
    not collide. -/
structure DistinctCodes (primitives : Primitives) (history : List AuthEvent) : Prop where
  keeps : KeepsCodeChars primitives
  generated : ∀ e ∈ history, e.action = .freshRecoveryCodes → IsGenerated (drawn e)
  distinct : (drawnCodes history).Nodup
  free : NoCollision primitives.sha256 ((drawnCodes history).map (codeMessage primitives))

/-- A code is accepted once at most, for the user it was issued to, and a verification that
    fails changes nothing. -/
structure CodesWorkOnce (primitives : Primitives) (history : List AuthEvent) : Prop where
  once : ∀ code ∈ drawnCodes history, history.countP (accepts primitives code) ≤ 1
  owner : ∀ d ∈ history, ∀ e ∈ history, ∀ code ∈ drawn d, ∀ user entry,
    e.origin = .verifyRecoveryCode user entry → accepts primitives code e = true →
    issuedTo d.origin = some user.id
  errors : ∀ e ∈ history, ∀ user entry error, e.origin = .verifyRecoveryCode user entry →
    e.action = .returned (.error error) → ∀ d ∈ history, d.task = e.task → d.after = d.before

/-! The order of the recovery calls. -/

/-- The past calls of a job that issues codes to a user, once it has the factor for them. -/
inductive FactorFrom (userId : Nat) :
    List (Interaction AuthAction AuthReply) → AuthFactorEnrollment → Prop
  | found (factor : AuthFactorEnrollment) :
    FactorFrom userId [⟨.recoveryCodeFactorForUser userId, some factor⟩] factor
  | enrolled (past : List (Interaction AuthAction AuthReply)) (factor : AuthFactorEnrollment)
    (first : past = [] ∨ ∃ found, past = [⟨.recoveryCodeFactorForUser userId, found⟩]) :
    FactorFrom userId
      (past ++ [⟨.enrollFactor userId .recoveryCode recoveryCodeFactorLabel, .ok factor⟩]) factor

/-- The calls of a job that issues codes to a user, each after the calls before it. -/
inductive IssueCall (primitives : Primitives) (userId : Nat) :
    List (Interaction AuthAction AuthReply) → AuthAction → Prop
  | find : IssueCall primitives userId [] (.recoveryCodeFactorForUser userId)
  | enroll (past : List (Interaction AuthAction AuthReply))
    (first : past = [] ∨ ∃ found, past = [⟨.recoveryCodeFactorForUser userId, found⟩]) :
    IssueCall primitives userId past (.enrollFactor userId .recoveryCode recoveryCodeFactorLabel)
  | draw {past : List (Interaction AuthAction AuthReply)} {factor : AuthFactorEnrollment}
    (factorFrom : FactorFrom userId past factor) :
    IssueCall primitives userId past .freshRecoveryCodes
  | store {past : List (Interaction AuthAction AuthReply)} {factor : AuthFactorEnrollment}
    (factorFrom : FactorFrom userId past factor) (codes : List String) :
    IssueCall primitives userId (past ++ [⟨.freshRecoveryCodes, codes⟩])
      (.storeRecoveryCodeRecords factor.id (recoveryCodeRecords primitives codes))

/-- The calls of a verification, each after the calls before it. -/
inductive VerifyCall (primitives : Primitives) (user : User) (entry : String) :
    List (Interaction AuthAction AuthReply) → AuthAction → Prop
  | find : VerifyCall primitives user entry [] (.recoveryCodeFactorForUser user.id)
  | missing : VerifyCall primitives user entry [⟨.recoveryCodeFactorForUser user.id, none⟩]
      (.returned (.error .recoveryCodeInvalid))
  | use (factor : AuthFactorEnrollment) :
    VerifyCall primitives user entry [⟨.recoveryCodeFactorForUser user.id, some factor⟩]
      (.useRecoveryCode factor.id (hashRecoveryCode primitives entry))
  | rejected (factor : AuthFactorEnrollment) :
    VerifyCall primitives user entry
      [⟨.recoveryCodeFactorForUser user.id, some factor⟩,
        ⟨.useRecoveryCode factor.id (hashRecoveryCode primitives entry), false⟩]
      (.returned (.error .recoveryCodeInvalid))
  | accepted (factor : AuthFactorEnrollment) :
    VerifyCall primitives user entry
      [⟨.recoveryCodeFactorForUser user.id, some factor⟩,
        ⟨.useRecoveryCode factor.id (hashRecoveryCode primitives entry), true⟩]
      (.returned (.ok ⟨user.id, .recoveryCode, true⟩))

/-- What a job may call next, as far as recovery codes go. -/
def recoveryAct (primitives : Primitives) (origin : AuthJob)
    (past : List (Interaction AuthAction AuthReply)) (action : AuthAction) : Prop :=
  match origin with
  | .generateRecoveryCodes userId => IssueCall primitives userId past action
  | .regenerateRecoveryCodes userId => IssueCall primitives userId past action
  | .verifyRecoveryCode user entry => VerifyCall primitives user entry past action
  | _ => (∀ x ∈ past, duty x.action ≠ some .recoveryCodes) ∧ duty action ≠ some .recoveryCodes

def recoveryOrder (primitives : Primitives) : Discipline AuthAction AuthReply AuthJob :=
  ⟨recoveryAct primitives, fun origin job past => job = origin ∧ past = [], fun _ _ => True⟩

section Bodies

variable (primitives : Primitives)

private theorem issue_generate (userId : Nat) {past : List (Interaction AuthAction AuthReply)}
    (first : past = [] ∨ ∃ found, past = [⟨.recoveryCodeFactorForUser userId, found⟩]) :
    (generateRecoveryCodes primitives userId).All (IssueCall primitives userId) past
      (fun _ _ => True) := by
  rw [generateRecoveryCodes, Program.all_bind]
  refine ⟨.enroll past first, fun enrolled => ?_⟩
  rw [Program.all_done]
  cases enrolled with
  | error error => trivial
  | ok factor =>
    have factorFrom := FactorFrom.enrolled past factor first
    exact ⟨.draw factorFrom, fun codes => ⟨.store factorFrom codes, fun _ => trivial⟩⟩

private theorem issue_regenerate (userId : Nat) :
    (regenerateRecoveryCodes primitives userId).All (IssueCall primitives userId) []
      (fun _ _ => True) := by
  rw [regenerateRecoveryCodes, Program.all_bind]
  refine ⟨.find, fun found => ?_⟩
  rw [Program.all_done, Program.all_ite]
  refine ⟨fun _ => issue_generate primitives userId (Or.inr ⟨found, rfl⟩), fun hknown => ?_⟩
  cases found with
  | none => exact absurd rfl hknown
  | some factor =>
    exact ⟨.draw (.found factor), fun codes => ⟨.store (.found factor) codes, fun _ => trivial⟩⟩

private theorem verify_verifyRecoveryCode (user : User) (entry : String) :
    (returning (verifyRecoveryCode primitives user entry)).All
      (VerifyCall primitives user entry) [] (fun _ _ => True) := by
  rw [returning, verifyRecoveryCode, Program.all_bind, Program.all_bind]
  refine ⟨.find, fun found => ?_⟩
  rw [Program.all_done]
  cases found with
  | none => exact ⟨.missing, fun _ => trivial⟩
  | some factor =>
    refine ⟨.use factor, fun used => ?_⟩
    cases used with
    | false => exact ⟨.rejected factor, fun _ => trivial⟩
    | true => exact ⟨.accepted factor, fun _ => trivial⟩

end Bodies

/-- The calls keep this order. -/
theorem recoveryOrder_sound (primitives : Primitives) (config : AuthConfig) :
    (recoveryOrder primitives).Sound (authService primitives config) id where
  entered _ := ⟨rfl, rfl⟩
  spawned hout stage hstage := by
    obtain ⟨out, -, rfl⟩ := Option.map_eq_some_iff.mp hout
    cases hstage
  body {origin job past} head := by
    obtain ⟨rfl, rfl⟩ := head
    change (job.program primitives config >>= fun _ => pure none).All
      (recoveryAct primitives job) [] _
    rw [Program.all_bind]
    cases job with
    | generateRecoveryCodes userId => exact issue_generate primitives userId (Or.inl rfl)
    | regenerateRecoveryCodes userId => exact issue_regenerate primitives userId
    | verifyRecoveryCode user entry => exact verify_verifyRecoveryCode primitives user entry
    | _ =>
      exact (off_duty (by simp [AuthJob.duty])).all
        (fun extra action hextra haction => ⟨hextra, haction⟩) (fun _ _ _ _ => trivial)

/-! What the calls do to the factors. -/

section Calls

variable {primitives : Primitives} {config : AuthConfig} {state next : AuthState}
  {action : AuthAction} {choice : AuthChoice} {reply : AuthReply action}

/-- A call enrolls a factor, stores or uses recovery codes, or leaves the factors as they are. -/
inductive FactorStep (state next : AuthState) : (action : AuthAction) → AuthReply action → Prop
  | enroll {userId : Nat} {factorType : Sunbolt.Auth.FactorType} {label : String}
    (after : next.store = (state.store.enrollFactor userId factorType label).1) :
    FactorStep state next (.enrollFactor userId factorType label)
      (state.store.enrollFactor userId factorType label).2
  | store {factorId : Nat} {records : List StoredRecoveryCode}
    (after : next.store = state.store.storeRecoveryCodeRecords factorId records) :
    FactorStep state next (.storeRecoveryCodeRecords factorId records) ()
  | use {factorId : Nat} {hash : String}
    (after : next.store = (state.store.useRecoveryCode factorId hash).1) :
    FactorStep state next (.useRecoveryCode factorId hash)
      (state.store.useRecoveryCode factorId hash).2
  | other {action : AuthAction} {reply : AuthReply action}
    (enrolls : ∀ userId factorType label, action ≠ .enrollFactor userId factorType label)
    (stores : ∀ factorId records, action ≠ .storeRecoveryCodeRecords factorId records)
    (uses : ∀ factorId hash, action ≠ .useRecoveryCode factorId hash)
    (after : next.store.factorTables = state.store.factorTables) :
    FactorStep state next action reply

theorem performAuth_factors
    (h : performAuth primitives config state action choice = some (reply, next)) :
    FactorStep state next action reply := by
  cases action with
  | enrollFactor userId factorType label =>
    cases choice <;> cases h
    exact .enroll rfl
  | storeRecoveryCodeRecords factorId records =>
    cases choice <;> cases h
    exact .store rfl
  | useRecoveryCode factorId hash =>
    cases choice <;> cases h
    exact .use rfl
  | instant | checkLogin key | checkMfa key | currentUser token | hasRecentMfa token =>
    cases choice <;> simp only [performAuth, reduceCtorEq] at h
    obtain ⟨-, hout⟩ := atInstant_eq h
    cases hout
    exact .other (by simp) (by simp) (by simp) rfl
  | recordMfaSuccess token =>
    cases choice <;> simp only [performAuth, reduceCtorEq] at h
    obtain ⟨-, hout⟩ := atInstant_eq h
    cases hout
    exact .other (by simp) (by simp) (by simp) (AuthStore.factorTables_recordMfaSuccess ..)
  | upsertUser email password role =>
    cases choice <;> cases h
    exact .other (by simp) (by simp) (by simp) (AuthStore.factorTables_upsertUser ..)
  | login email password now =>
    cases choice <;> cases h
    exact .other (by simp) (by simp) (by simp) (AuthStore.factorTables_login ..)
  | _ =>
    cases choice <;> cases h
    exact .other (by simp) (by simp) (by simp) rfl

/-- The factors stay in order, and none is lost or changed. -/
theorem FactorStep.owned (h : FactorStep state next action reply)
    (owned : FactorsOwned state.store) : FactorsOwned next.store ∧
      ∀ factorId factor, state.store.authFactorsById.lookup factorId = some factor →
        next.store.authFactorsById.lookup factorId = some factor := by
  cases h with
  | enroll after =>
    rename_i userId factorType label
    rw [after]
    refine ⟨owned.enrollFactor userId factorType label, fun factorId factor hfactor => ?_⟩
    rcases state.store.enrollFactor_cases userId factorType label with
      ⟨error, heq⟩ | ⟨enrolled, -, -, -, -, heq⟩
    · rw [heq]
      exact hfactor
    · rw [heq]
      dsimp only
      rw [Table.lookup_insert,
        if_neg (Nat.ne_of_lt (owned.numbered factorId factor hfactor).2.2)]
      exact hfactor
  | store after =>
    rw [after]
    exact ⟨owned.of_same rfl rfl rfl, fun _ _ hfactor => hfactor⟩
  | use after =>
    rename_i factorId hash
    rw [after]
    rcases state.store.useRecoveryCode_cases factorId hash with
      ⟨heq, -⟩ | ⟨records, left, -, -, -, heq⟩
    · rw [heq]
      exact ⟨owned, fun _ _ hfactor => hfactor⟩
    · rw [heq]
      exact ⟨owned.of_same rfl rfl rfl, fun _ _ hfactor => hfactor⟩
  | other enrolls stores uses after =>
    simp only [AuthStore.factorTables, Prod.mk.injEq] at after
    obtain ⟨hfactors, hlisted, -, hnext⟩ := after
    refine ⟨owned.of_same hfactors hlisted hnext, fun factorId factor hfactor => ?_⟩
    rw [hfactors]
    exact hfactor

end Calls

/-- The factor that a call gives out for a user. -/
def factorGiven (x : Interaction AuthAction AuthReply) : Option (Nat × AuthFactorEnrollment) :=
  match x with
  | ⟨.enrollFactor userId _ _, .ok factor⟩ => some (userId, factor)
  | ⟨.recoveryCodeFactorForUser userId, some factor⟩ => some (userId, factor)
  | _ => none

/-- How many records of a hash a call stores unused. -/
def storedOf (hash : String) (action : AuthAction) : Nat :=
  match action with
  | .storeRecoveryCodeRecords _ records => unused hash records
  | _ => 0

/-- Whether a call uses a record of a hash. -/
def usedOf (hash : String) (x : Interaction AuthAction AuthReply) : Nat :=
  match x with
  | ⟨.useRecoveryCode _ used, true⟩ => if hash = used then 1 else 0
  | _ => 0

/-- How many codes of a hash a call draws. -/
def drawnOf (primitives : Primitives) (hash : String) (x : Interaction AuthAction AuthReply) :
    Nat :=
  match x with
  | ⟨.freshRecoveryCodes, codes⟩ =>
    codes.countP (fun code => hashRecoveryCode primitives code = hash)
  | _ => 0

section Runs

variable {primitives : Primitives} {config : AuthConfig} {history : List AuthEvent}
  {state : AuthState} {pool : AuthPool}

theorem AuthRun.owned (h : AuthRun primitives config history state) :
    FactorsOwned state.store := by
  induction h with
  | start => exact FactorsOwned.default
  | next earlier call ih => exact ((performAuth_factors call).owned ih).1

/-- A factor that was given out for a user is still that user's. -/
theorem AuthRun.given_owned (h : AuthRun primitives config history state) {e : AuthEvent}
    (he : e ∈ history) {userId : Nat} {factor : AuthFactorEnrollment}
    (given : factorGiven e.interaction = some (userId, factor)) :
    state.store.authFactorsById.lookup factor.id = some factor ∧ factor.userId = userId := by
  induction h with
  | start => cases he
  | @next history last choice earlier call ih =>
    rcases List.mem_append.mp he with he | he
    · obtain ⟨hfound, howner⟩ := ih he
      exact ⟨((performAuth_factors call).owned earlier.owned).2 _ _ hfound, howner⟩
    · obtain rfl := List.mem_singleton.mp he
      have owned := earlier.owned
      obtain ⟨task, origin, action, reply, before, after, spawned⟩ := e
      unfold factorGiven at given
      split at given
      · rename_i user factorType label enrolled heq
        cases given
        cases heq
        dsimp only at earlier call owned ⊢
        cases choice <;> simp only [performAuth, reduceCtorEq] at call
        rcases before.store.enrollFactor_cases userId factorType label with
          ⟨error, heq⟩ | ⟨new, hid, huser, -, -, heq⟩
        · rw [AuthState.onStore, heq] at call
          cases call
        · rw [AuthState.onStore, heq] at call
          cases call
          refine ⟨?_, huser⟩
          rw [hid]
          exact AList.lookup_insert _
      · rename_i user found heq
        cases given
        cases heq
        dsimp only at earlier call owned ⊢
        cases choice <;> simp only [performAuth, reduceCtorEq] at call
        rw [Option.some.injEq, Prod.mk.injEq] at call
        obtain ⟨hreply, rfl⟩ := call
        exact owned.found hreply
      · cases given

/-- A record of a factor has the hash of one that was stored for this factor. -/
theorem AuthRun.stored_of_record (h : AuthRun primitives config history state) {factorId : Nat}
    {records : List StoredRecoveryCode}
    (found : state.store.recoveryCodesByFactorId.lookup factorId = some records)
    {record : StoredRecoveryCode} (hrecord : record ∈ records) :
    ∃ e ∈ history, ∃ stored, e.action = .storeRecoveryCodeRecords factorId stored ∧
      record.hash ∈ stored.map (·.hash) := by
  have hhash : record.hash ∈ records.map (·.hash) := List.mem_map_of_mem hrecord
  generalize record.hash = hash at hhash
  clear hrecord
  induction h generalizing records with
  | start => cases found
  | @next history last choice earlier call ih =>
    have hearlier : (∃ before, last.before.store.recoveryCodesByFactorId.lookup factorId =
        some before ∧ hash ∈ before.map (·.hash)) → ∃ e ∈ history ++ [last], ∃ stored,
        e.action = .storeRecoveryCodeRecords factorId stored ∧ hash ∈ stored.map (·.hash) := by
      rintro ⟨before, hbefore, hmem⟩
      obtain ⟨e, he, stored, haction, hstored⟩ := ih hbefore hmem
      exact ⟨e, List.mem_append_left _ he, stored, haction, hstored⟩
    obtain ⟨task, origin, action, reply, before, after, spawned⟩ := last
    dsimp only at call found hearlier
    cases performAuth_factors call with
    | enroll hafter =>
      rename_i userId factorType label
      rw [hafter] at found
      rcases before.store.enrollFactor_cases userId factorType label with
        ⟨error, heq⟩ | ⟨new, -, -, -, -, heq⟩
      · rw [heq] at found
        exact hearlier ⟨records, found, hhash⟩
      · rw [heq] at found
        exact hearlier ⟨records, found, hhash⟩
    | store hafter =>
      rename_i stored named
      rw [hafter, AuthStore.storeRecoveryCodeRecords, Table.lookup_insert] at found
      split_ifs at found with hsame
      · cases found
        subst hsame
        exact ⟨_, List.mem_append_right _ (List.mem_singleton_self _), records, rfl, hhash⟩
      · exact hearlier ⟨records, found, hhash⟩
    | use hafter =>
      rename_i used named
      rw [hafter] at found
      rcases before.store.useRecoveryCode_cases used named with
        ⟨heq, -⟩ | ⟨listed, left, hlisted, -, hhashes, heq⟩
      · rw [heq] at found
        exact hearlier ⟨records, found, hhash⟩
      · rw [heq, AuthStore.storeRecoveryCodeRecords, Table.lookup_insert] at found
        split_ifs at found with hsame
        · cases found
          subst hsame
          exact hearlier ⟨listed, hlisted, hhashes ▸ hhash⟩
        · exact hearlier ⟨records, found, hhash⟩
    | other enrolls stores uses hafter =>
      simp only [AuthStore.factorTables, Prod.mk.injEq] at hafter
      rw [hafter.2.2.1] at found
      exact hearlier ⟨records, found, hhash⟩

/-- The invariant of the records: what is used and what is left unused has been stored. -/
theorem AuthRun.used_le_stored (h : AuthRun primitives config history state) (hash : String) :
    tally (fun e => usedOf hash e.interaction) history +
        state.store.recoveryCodesByFactorId.total (unused hash) ≤
      tally (fun e => storedOf hash e.action) history := by
  induction h with
  | start => exact le_rfl
  | @next history last choice earlier call ih =>
    rw [tally_append, tally_append, tally_cons, tally_cons, tally_nil, tally_nil]
    obtain ⟨task, origin, action, reply, before, after, spawned⟩ := last
    dsimp only at call ih ⊢
    cases performAuth_factors call with
    | enroll hafter =>
      rename_i userId factorType label
      have hsame : after.store.recoveryCodesByFactorId = before.store.recoveryCodesByFactorId := by
        rw [hafter]
        rcases before.store.enrollFactor_cases userId factorType label with
          ⟨error, heq⟩ | ⟨new, -, -, -, -, heq⟩
        · rw [heq]
        · rw [heq]
      rw [hsame]
      exact ih
    | store hafter =>
      rename_i factorId records
      have hsum := before.store.recoveryCodesByFactorId.total_insert (unused hash) factorId records
      rw [hafter, AuthStore.storeRecoveryCodeRecords]
      change _ + (0 + 0) + _ ≤ _ + (unused hash records + 0)
      dsimp only
      omega
    | use hafter =>
      rename_i factorId named
      rw [hafter]
      rcases before.store.useRecoveryCode_cases factorId named with
        ⟨heq, -⟩ | ⟨records, left, hlookup, hcount, -, heq⟩
      · rw [heq]
        exact ih
      · have hsum := before.store.recoveryCodesByFactorId.total_insert (unused hash) factorId left
        rw [hlookup, Option.map_some, Option.getD_some, hcount hash] at hsum
        rw [heq, AuthStore.storeRecoveryCodeRecords]
        change _ + ((if hash = named then 1 else 0) + 0) + _ ≤ _ + (0 + 0)
        dsimp only
        omega
    | other enrolls stores uses hafter =>
      simp only [AuthStore.factorTables, Prod.mk.injEq] at hafter
      have hused : usedOf hash ⟨action, reply⟩ = 0 := by
        unfold usedOf
        split
        · rename_i heq
          cases heq
          exact absurd rfl (uses _ _)
        · rfl
      have hstored : storedOf hash action = 0 := by
        unfold storedOf
        split
        · exact absurd rfl (stores _ _)
        · rfl
      rw [hafter.2.2.1, Event.interaction, hused, hstored]
      exact ih

/-- No more records of a hash are stored unused than codes of the hash were drawn. -/
theorem AuthReaches.stored_le_drawn (h : AuthReaches primitives config history pool)
    (hash : String) : tally (fun e => storedOf hash e.action) history ≤
      tally (fun e => drawnOf primitives hash e.interaction) history := by
  refine Service.Reaches.covered (recoveryOrder_sound primitives config)
    (fun _ action => storedOf hash action) (drawnOf primitives hash) ?_ h
  intro origin past action act
  have hissue : ∀ userId, IssueCall primitives userId past action →
      tally (fun x => storedOf hash x.action) past + storedOf hash action ≤
        tally (drawnOf primitives hash) past := by
    have hfrom : ∀ {userId past factor}, FactorFrom userId past factor →
        tally (fun x => storedOf hash x.action) past = 0 := by
      intro userId past factor factorFrom
      cases factorFrom with
      | found factor => rfl
      | enrolled past factor first =>
        rcases first with rfl | ⟨found, rfl⟩
        · rfl
        · rfl
    intro userId issue
    cases issue with
    | find => exact Nat.zero_le _
    | enroll _ first =>
      rcases first with rfl | ⟨found, rfl⟩
      · exact Nat.zero_le _
      · exact Nat.zero_le _
    | draw factorFrom =>
      rw [hfrom factorFrom]
      exact Nat.zero_le _
    | store factorFrom codes =>
      rw [tally_append, tally_append, hfrom factorFrom]
      change 0 + (0 + 0) + unused hash (recoveryCodeRecords primitives codes) ≤
        _ + (codes.countP (fun code => hashRecoveryCode primitives code = hash) + 0)
      rw [unused_recoveryCodeRecords]
      omega
  have hother : (∀ x ∈ past, duty x.action ≠ some .recoveryCodes) ∧
      duty action ≠ some .recoveryCodes →
      tally (fun x => storedOf hash x.action) past + storedOf hash action ≤
        tally (drawnOf primitives hash) past := by
    rintro ⟨hpast, haction⟩
    have hnone : ∀ action, duty action ≠ some .recoveryCodes → storedOf hash action = 0 := by
      intro action hduty
      unfold storedOf
      split
      · exact absurd rfl hduty
      · rfl
    rw [hnone action haction, tally_congr (fun x hx => hnone x.action (hpast x hx)), tally]
    simp
  cases origin with
  | generateRecoveryCodes userId => exact hissue userId act
  | regenerateRecoveryCodes userId => exact hissue userId act
  | verifyRecoveryCode user entry =>
    have verify : VerifyCall primitives user entry past action := act
    cases verify <;> exact Nat.zero_le _
  | _ => exact hother act

/-- Each entry that is accepted has used a record of its hash. -/
theorem AuthReaches.accepted_le_used (h : AuthReaches primitives config history pool)
    (code : String) : history.countP (accepts primitives code) ≤
      tally (fun e => usedOf (hashRecoveryCode primitives code) e.interaction) history := by
  have hcount : ∀ events : List AuthEvent, events.countP (accepts primitives code) =
      tally (fun e => if accepts primitives code e then 1 else 0) events := by
    intro events
    induction events with
    | nil => rfl
    | cons e events ih => rw [List.countP_cons, tally_cons, ih, Nat.add_comm]
  rw [hcount]
  refine Service.Reaches.covered (recoveryOrder_sound primitives config)
    (fun origin action => match origin, action with
      | .verifyRecoveryCode _ entry, .returned (.ok _) =>
        if Spells primitives entry code then 1 else 0
      | _, _ => 0) (usedOf (hashRecoveryCode primitives code)) ?_ h |>.trans_eq' ?_
  · intro origin past action act
    cases origin with
    | verifyRecoveryCode user entry =>
      have verify : VerifyCall primitives user entry past action := act
      cases verify with
      | accepted factor =>
        by_cases hspells : Spells primitives entry code
        · simp [usedOf, hspells, hspells.hash_eq]
        · simp [hspells]
      | _ => exact Nat.zero_le _
    | _ => simp [tally]
  · refine tally_congr (fun e _ => ?_)
    unfold accepts
    split <;> simp

theorem drawn_eq {e : AuthEvent} {codes : List String}
    (h : e.interaction = ⟨.freshRecoveryCodes, codes⟩) : drawn e = codes := by
  rw [drawn, h]

/-- All the codes of a hash that have been drawn. -/
theorem drawnOf_eq (hash : String) :
    tally (fun e => drawnOf primitives hash e.interaction) history =
      (drawnCodes history).countP (fun code => hashRecoveryCode primitives code = hash) := by
  induction history with
  | nil => rfl
  | cons e history ih =>
    have hfirst : drawnOf primitives hash e.interaction =
        (drawn e).countP (fun code => hashRecoveryCode primitives code = hash) := by
      obtain ⟨task, origin, action, reply, before, after, spawned⟩ := e
      cases action <;> rfl
    rw [tally_cons, ih, hfirst, drawnCodes, drawnCodes, List.flatMap_cons, List.countP_append]

theorem DistinctCodes.generated_of_mem (distinct : DistinctCodes primitives history)
    {e : AuthEvent} (he : e ∈ history) {code : String} (hcode : code ∈ drawn e) :
    IsGenerated (drawn e) := by
  refine distinct.generated e he ?_
  unfold drawn at hcode
  split at hcode
  · rename_i codes heq
    exact congrArg Interaction.action heq
  · cases hcode

/-- Drawn codes with the same hash are the same code. -/
theorem DistinctCodes.hash_inj (distinct : DistinctCodes primitives history) {code other : String}
    (hcode : code ∈ drawnCodes history) (hother : other ∈ drawnCodes history)
    (same : hashRecoveryCode primitives code = hashRecoveryCode primitives other) :
    code = other := by
  obtain ⟨d, hd, hdrawn⟩ := List.mem_flatMap.mp hcode
  obtain ⟨e, he, hdrawn'⟩ := List.mem_flatMap.mp hother
  exact generated_inj distinct.keeps distinct.free (distinct.generated_of_mem hd hdrawn)
    (distinct.generated_of_mem he hdrawn') hdrawn hdrawn' (List.mem_map_of_mem hcode)
    (List.mem_map_of_mem hother) same

private theorem AuthReaches.once (h : AuthReaches primitives config history pool)
    (distinct : DistinctCodes primitives history) {code : String}
    (hcode : code ∈ drawnCodes history) : history.countP (accepts primitives code) ≤ 1 := by
  have hused := h.accepted_le_used code
  have hrecords := h.authRun.used_le_stored (hashRecoveryCode primitives code)
  have hstored := h.stored_le_drawn (hashRecoveryCode primitives code)
  rw [drawnOf_eq] at hstored
  have hsame : (drawnCodes history).countP
      (fun other => hashRecoveryCode primitives other = hashRecoveryCode primitives code) ≤
      (drawnCodes history).count code := by
    rw [List.count]
    refine List.countP_mono_left (fun other hother heq => ?_)
    rw [beq_iff_eq]
    exact distinct.hash_inj hother hcode (of_decide_eq_true heq)
  have hone := List.nodup_iff_count_le_one.mp distinct.distinct code
  omega

/-- A verification that takes its entry has found a factor of its user and used a record of the
    entry's hash. -/
private theorem AuthReaches.factor_used (h : AuthReaches primitives config history pool)
    {e : AuthEvent} (he : e ∈ history) {code : String} {user : User} {entry : String}
    (horigin : e.origin = .verifyRecoveryCode user entry)
    (haccepts : accepts primitives code e = true) :
    Spells primitives entry code ∧ ∃ factor,
      (∃ find ∈ history, factorGiven find.interaction = some (user.id, factor)) ∧
      ∃ use ∈ history, use.interaction =
        ⟨.useRecoveryCode factor.id (hashRecoveryCode primitives entry), true⟩ := by
  obtain ⟨front, back, hsplit⟩ := List.append_of_mem he
  have act : recoveryAct primitives e.origin (Service.own e.task front) e.action :=
    Service.Reaches.act (recoveryOrder_sound primitives config) h hsplit
  rw [horigin] at act
  have verify : VerifyCall primitives user entry (Service.own e.task front) e.action := act
  unfold accepts at haccepts
  rw [horigin] at haccepts
  obtain ⟨factor, hpast⟩ : ∃ factor, Service.own e.task front =
      [⟨.recoveryCodeFactorForUser user.id, some factor⟩,
        ⟨.useRecoveryCode factor.id (hashRecoveryCode primitives entry), true⟩] := by
    generalize Service.own e.task front = past at verify
    generalize e.action = action at verify haccepts
    cases verify with
    | accepted factor => exact ⟨factor, rfl⟩
    | _ => cases haccepts
  have hspells : Spells primitives entry code := by
    split at haccepts
    · rename_i heq _
      cases heq
      exact of_decide_eq_true haccepts
    · cases haccepts
  have hmem : ∀ {x}, x ∈ front → x ∈ history := fun hx => hsplit ▸ List.mem_append_left _ hx
  obtain ⟨find, hfind, -, hfound⟩ := Service.mem_own.mp
    (show (⟨.recoveryCodeFactorForUser user.id, some factor⟩ : Interaction AuthAction AuthReply) ∈
      Service.own e.task front by rw [hpast]; exact List.mem_cons_self ..)
  obtain ⟨use, huse, -, hused⟩ := Service.mem_own.mp
    (show (⟨.useRecoveryCode factor.id (hashRecoveryCode primitives entry), true⟩ :
      Interaction AuthAction AuthReply) ∈ Service.own e.task front by
        rw [hpast]
        exact List.mem_cons_of_mem _ (List.mem_singleton_self _))
  exact ⟨hspells, factor, ⟨find, hmem hfind, by rw [hfound]; rfl⟩, use, hmem huse, hused⟩

/-- A use takes a record that some call has stored. -/
private theorem AuthReaches.stored_of_use (h : AuthReaches primitives config history pool)
    {use : AuthEvent} (huse : use ∈ history) {factorId : Nat} {hash : String}
    (hused : use.interaction = ⟨.useRecoveryCode factorId hash, true⟩) :
    ∃ store ∈ history, ∃ stored, store.action = .storeRecoveryCodeRecords factorId stored ∧
      hash ∈ stored.map (·.hash) := by
  obtain ⟨early, late, hplace⟩ := List.append_of_mem huse
  obtain ⟨hearly, choice, call⟩ := h.authRun.event hplace
  obtain ⟨records, hrecords, record, hrecord, rfl⟩ : ∃ records,
      use.before.store.recoveryCodesByFactorId.lookup factorId = some records ∧
      ∃ record ∈ records, record.hash = hash := by
    obtain ⟨task, origin, action, reply, before, after, spawned⟩ := use
    cases hused
    cases choice <;> simp only [performAuth, reduceCtorEq] at call
    rcases before.store.useRecoveryCode_cases factorId hash with
      ⟨heq, -⟩ | ⟨records, left, hlookup, hcount, -, -⟩
    · rw [AuthState.onStore, heq] at call
      cases call
    · have hpos : 0 < unused hash records := by
        rw [hcount, if_pos rfl]
        exact Nat.succ_pos _
      obtain ⟨record, hrecord, hmatch⟩ := List.countP_pos_iff.mp hpos
      simp only [Bool.and_eq_true, decide_eq_true_eq] at hmatch
      exact ⟨records, hlookup, record, hrecord, hmatch.1⟩
  obtain ⟨store, hstore, hstored⟩ := hearly.stored_of_record hrecords hrecord
  exact ⟨store, hplace ▸ List.mem_append_left _ hstore, hstored⟩

private theorem IssueCall.stored {userId factorId : Nat} {stored : List StoredRecoveryCode}
    {past : List (Interaction AuthAction AuthReply)}
    (issue : IssueCall primitives userId past (.storeRecoveryCodeRecords factorId stored)) :
    ∃ factor codes, factor.id = factorId ∧ stored = recoveryCodeRecords primitives codes ∧
      (⟨.freshRecoveryCodes, codes⟩ : Interaction AuthAction AuthReply) ∈ past ∧
      ∃ given ∈ past, factorGiven given = some (userId, factor) := by
  cases issue with
  | store factorFrom codes =>
    refine ⟨_, codes, rfl, rfl, List.mem_append_right _ (List.mem_singleton_self _), ?_⟩
    cases factorFrom with
    | found => exact ⟨_, List.mem_append_left _ (List.mem_singleton_self _), rfl⟩
    | enrolled past _ first =>
      exact ⟨_, List.mem_append_left _ (List.mem_append_right _ (List.mem_singleton_self _)), rfl⟩

/-- Records are stored by a job that issues codes, for the codes that it has drawn and for a
    factor that it was given. -/
private theorem AuthReaches.drawn_of_stored (h : AuthReaches primitives config history pool)
    {store : AuthEvent} (hstore : store ∈ history) {factorId : Nat}
    {stored : List StoredRecoveryCode}
    (haction : store.action = .storeRecoveryCodeRecords factorId stored) :
    ∃ userId factor, issuedTo store.origin = some userId ∧ factor.id = factorId ∧
      (∃ source ∈ history, factorGiven source.interaction = some (userId, factor)) ∧
      ∃ draw ∈ history, draw.origin = store.origin ∧
        stored = recoveryCodeRecords primitives (drawn draw) := by
  have sound := recoveryOrder_sound primitives config
  obtain ⟨front, back, hsplit⟩ := List.append_of_mem hstore
  have act : recoveryAct primitives store.origin (Service.own store.task front) store.action :=
    Service.Reaches.act sound h hsplit
  rw [haction] at act
  obtain ⟨userId, hissued, issue⟩ : ∃ userId, issuedTo store.origin = some userId ∧
      IssueCall primitives userId (Service.own store.task front)
        (.storeRecoveryCodeRecords factorId stored) := by
    cases hjob : store.origin with
    | generateRecoveryCodes userId =>
      rw [hjob] at act
      exact ⟨userId, rfl, act⟩
    | regenerateRecoveryCodes userId =>
      rw [hjob] at act
      exact ⟨userId, rfl, act⟩
    | verifyRecoveryCode user entry =>
      rw [hjob] at act
      have verify : VerifyCall primitives user entry (Service.own store.task front)
        (.storeRecoveryCodeRecords factorId stored) := act
      generalize Service.own store.task front = past at verify
      cases verify
    | _ =>
      rw [hjob] at act
      exact absurd rfl act.2
  obtain ⟨factor, codes, hfactor, rfl, hdrawn, given, hgiven, hsource⟩ := issue.stored
  obtain ⟨source, hmem, -, rfl⟩ := Service.mem_own.mp hgiven
  obtain ⟨draw, hdraw, htask, hcodes⟩ := Service.mem_own.mp hdrawn
  have hdraw : draw ∈ history := hsplit ▸ List.mem_append_left _ hdraw
  refine ⟨userId, factor, hissued, hfactor,
    ⟨source, hsplit ▸ List.mem_append_left _ hmem, hsource⟩, draw, hdraw, ?_, ?_⟩
  · exact Service.Reaches.origin sound h hdraw hstore htask
  · rw [drawn_eq hcodes]

/-- A use of a code takes a record that a job has stored for the owner of the factor. -/
private theorem AuthReaches.owner (h : AuthReaches primitives config history pool)
    (distinct : DistinctCodes primitives history) {d e : AuthEvent} (hd : d ∈ history)
    (he : e ∈ history) {code : String} (hcode : code ∈ drawn d) {user : User} {entry : String}
    (horigin : e.origin = .verifyRecoveryCode user entry)
    (haccepts : accepts primitives code e = true) : issuedTo d.origin = some user.id := by
  obtain ⟨hspells, factor, ⟨find, hfind, hgiven⟩, use, huse, hused⟩ :=
    h.factor_used he horigin haccepts
  obtain ⟨store, hstore, stored, haction, hstored⟩ := h.stored_of_use huse hused
  obtain ⟨userId, other, hissued, hid, ⟨source, hsource, hother⟩, draw, hdraw, hjob, rfl⟩ :=
    h.drawn_of_stored hstore haction
  obtain ⟨record, hrecord, hhash⟩ := List.mem_map.mp hstored
  obtain ⟨code', hcode', rfl⟩ := List.mem_map.mp hrecord
  -- the code that was used is the one that was stored
  have hsame : code' = code := distinct.hash_inj (List.mem_flatMap.mpr ⟨draw, hdraw, hcode'⟩)
    (List.mem_flatMap.mpr ⟨d, hd, hcode⟩) (hhash.trans hspells.hash_eq)
  rw [drawn_once distinct.distinct hd hdraw hcode (hsame ▸ hcode'), hjob, hissued]
  -- and the factor has one owner only
  obtain ⟨hfactor, howner⟩ := h.authRun.given_owned hfind hgiven
  obtain ⟨hother, howner'⟩ := h.authRun.given_owned hsource hother
  rw [hid, hfactor] at hother
  cases hother
  rw [← howner', howner]

/-- A verification that fails has only looked. -/
private theorem AuthReaches.errors (h : AuthReaches primitives config history pool)
    {e : AuthEvent} (he : e ∈ history) {user : User} {entry : String}
    {error : Sunbolt.Auth.AuthError} (horigin : e.origin = .verifyRecoveryCode user entry)
    (haction : e.action = .returned (.error error)) {d : AuthEvent} (hd : d ∈ history)
    (htask : d.task = e.task) : d.after = d.before := by
  have sound := recoveryOrder_sound primitives config
  have hverify : ∀ {front back x}, history = front ++ x :: back → x.task = e.task →
      VerifyCall primitives user entry (Service.own e.task front) x.action := by
    intro front back x hsplit hsame
    have act : recoveryAct primitives x.origin (Service.own x.task front) x.action :=
      Service.Reaches.act sound h hsplit
    rw [Service.Reaches.origin sound h (by simp [hsplit]) he hsame, horigin, hsame] at act
    exact act
  have hquiet : ∀ {x}, x ∈ history → (x.action = .recoveryCodeFactorForUser user.id ∨
      (∃ result, x.action = .returned result) ∨
      ∃ factorId hash, x.interaction = ⟨.useRecoveryCode factorId hash, false⟩) →
      x.after = x.before := by
    intro x hx hcase
    obtain ⟨front, back, hsplit⟩ := List.append_of_mem hx
    obtain ⟨-, choice, call⟩ := h.performed hsplit
    obtain ⟨task, origin, action, reply, before, after, spawned⟩ := x
    rcases hcase with hfind | ⟨result, hreturned⟩ | ⟨factorId, hash, huse⟩
    · cases hfind
      cases choice <;>
        simp only [performAuth, reduceCtorEq, Option.some.injEq, Prod.mk.injEq] at call
      exact call.2.symm
    · cases hreturned
      cases choice <;> cases call
      rfl
    · cases huse
      cases choice <;> simp only [performAuth, reduceCtorEq] at call
      rcases before.store.useRecoveryCode_cases factorId hash with
        ⟨heq, -⟩ | ⟨records, left, -, -, -, heq⟩
      · rw [AuthState.onStore, heq] at call
        cases call
        rfl
      · rw [AuthState.onStore, heq] at call
        cases call
  obtain ⟨front, back, hsplit⟩ := List.append_of_mem he
  have hlast := hverify hsplit rfl
  have hdcases : d ∈ front ∨ d = e ∨ d ∈ back := by
    rw [hsplit] at hd
    simpa using hd
  rcases hdcases with hfront | rfl | hback
  · -- an earlier call of the verification: a look for the factor, or a use that failed
    have hmem : d.interaction ∈ Service.own e.task front :=
      Service.mem_own.mpr ⟨d, hfront, htask, rfl⟩
    rw [haction] at hlast
    generalize Service.own e.task front = past at hlast hmem
    refine hquiet hd ?_
    cases hlast with
    | missing =>
      exact Or.inl (congrArg Interaction.action (List.mem_singleton.mp hmem))
    | rejected factor =>
      rcases List.mem_cons.mp hmem with hfind | huse
      · exact Or.inl (congrArg Interaction.action hfind)
      · exact Or.inr (Or.inr ⟨_, _, List.mem_singleton.mp huse⟩)
  · exact hquiet hd (Or.inr (Or.inl ⟨_, haction⟩))
  · -- a verification makes no call once it has returned
    exfalso
    obtain ⟨between, rest, rfl⟩ := List.append_of_mem hback
    have hsplit' : history = (front ++ e :: between) ++ d :: rest := by simp [hsplit]
    have hlater := hverify hsplit' htask
    have hmem : e.interaction ∈ Service.own e.task (front ++ e :: between) :=
      Service.mem_own.mpr ⟨e, by simp, rfl, rfl⟩
    have hopen : ∀ {past action}, VerifyCall primitives user entry past action → ∀ x ∈ past,
        ∀ result, x.action ≠ .returned result := by
      intro past action verify
      cases verify <;> simp
    exact hopen hlater _ hmem _ haction

end Runs

/-- Ten bytes for each of ten codes. -/
private def sampleDraws : List (List UInt8) :=
  (List.range 10).map (fun i => List.replicate 10 (UInt8.ofNat (16 * i + 10)))

private def sampleUser : User := ⟨1, "ops@x", .operator⟩

/-- A batch is issued, and one code of it is entered twice, in other letters. -/
private def codeUsedTwice : List AuthEvent :=
  authCalls identityDigest .default
    [.arrive (.upsertUser "ops@x" "p" .operator), .move 0 .none,
      .arrive (.generateRecoveryCodes 1), .move 1 .none,
      .move 1 (.codes (sampleDraws.map Sunbolt.Auth.generateRecoveryCode)), .move 1 .none,
      .arrive (.verifyRecoveryCode sampleUser " 1A1A1A1A-1a1a1a-1a1A1a"),
      .arrive (.verifyRecoveryCode sampleUser "1a1a1a1a-1a1a1a-1a1a1a"),
      .move 2 .none, .move 3 .none, .move 3 .none, .move 2 .none, .move 2 .none, .move 3 .none]

end Sunbolt.Control
