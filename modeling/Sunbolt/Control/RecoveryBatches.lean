/- Module: Sunbolt/Control/RecoveryBatches
   scope: sunbolt-auth/src/lib.rs, sunbolt-auth/src/recovery_codes.rs
   digest: Which batch of recovery codes is the valid one after calls made one after another. -/

import Sunbolt.Auth.RecoveryCodes
import Sunbolt.Control.AuthRuns
import Sunbolt.Library.Serving

set_option autoImplicit false
set_option relaxedAutoImplicit false

namespace Sunbolt.Control

open Sunbolt.Library
open Sunbolt.Auth (AuthConfig AuthError AuthFactorEnrollment AuthStore FactorResult FactorsOwned
  FactorType IsGenerated KeepsCodeChars NoCollision Primitives Spells StoredRecoveryCode User
  UserRole codeMessage drawn_once generated_inj hashRecoveryCode recoveryCodeRecords
  spells_of_hash_eq unused unused_recoveryCodeRecords)

structure RecoveryCodeBatch where
  factor : AuthFactorEnrollment
  codes : List String

/-! The calls, when no other call comes between their critical sections. -/

section Calls

variable (primitives : Primitives) (store : AuthStore)

/-- `generate_recovery_codes`, for the codes that are drawn. -/
def generateBatch (userId : Nat) (codes : List String) :
    AuthStore × Except AuthError RecoveryCodeBatch :=
  match store.enrollFactor userId .recoveryCode recoveryCodeFactorLabel with
  | (store, .error error) => (store, .error error)
  | (store, .ok factor) =>
    (store.storeRecoveryCodeRecords factor.id (recoveryCodeRecords primitives codes),
      .ok ⟨factor, codes⟩)

/-- `regenerate_recovery_codes`, for the codes that are drawn. -/
def regenerateBatch (userId : Nat) (codes : List String) :
    AuthStore × Except AuthError RecoveryCodeBatch :=
  let factor := (store.recoveryCodeFactorForUser userId).getD
    ⟨0, userId, .recoveryCode, recoveryCodeFactorLabel, true⟩
  if factor.id = 0 then generateBatch primitives store userId codes
  else
    (store.storeRecoveryCodeRecords factor.id (recoveryCodeRecords primitives codes),
      .ok ⟨factor, codes⟩)

/-- `verify_recovery_code`. -/
def verifyCode (user : User) (code : String) : AuthStore × Except AuthError FactorResult :=
  match store.recoveryCodeFactorForUser user.id with
  | none => (store, .error .recoveryCodeInvalid)
  | some factor =>
    match store.useRecoveryCode factor.id (hashRecoveryCode primitives code) with
    | (store, true) => (store, .ok ⟨user.id, .recoveryCode, true⟩)
    | (store, false) => (store, .error .recoveryCodeInvalid)

end Calls

inductive RecoveryCall where
  | upsertUser (email password : String) (role : UserRole)
  | enrollFactor (userId : Nat) (factorType : FactorType) (label : String)
  | generate (userId : Nat) (codes : List String)
  | regenerate (userId : Nat) (codes : List String)
  | verify (user : User) (code : String)

inductive RecoveryReply where
  | done
  | issued (result : Except AuthError RecoveryCodeBatch)
  | verified (result : Except AuthError FactorResult)

def serveRecovery (primitives : Primitives) (store : AuthStore) :
    RecoveryCall → AuthStore × RecoveryReply
  | .upsertUser email password role =>
    ((store.upsertUser primitives email password role).1, .done)
  | .enrollFactor userId factorType label =>
    ((store.enrollFactor userId factorType label).1, .done)
  | .generate userId codes =>
    let (store, result) := generateBatch primitives store userId codes
    (store, .issued result)
  | .regenerate userId codes =>
    let (store, result) := regenerateBatch primitives store userId codes
    (store, .issued result)
  | .verify user code =>
    let (store, result) := verifyCode primitives store user code
    (store, .verified result)

abbrev RecoveryEvent := Served AuthStore RecoveryCall RecoveryReply

/-- The calls of any users, one after another, from an empty store. -/
abbrev RecoveryRun (primitives : Primitives) : List RecoveryEvent → AuthStore → Prop :=
  Serves (serveRecovery primitives) .default

/-! What the calls return. -/

/-- The codes that a call has returned, to whomever. -/
def returnedCodes (e : RecoveryEvent) : List String :=
  match e.reply with
  | .issued (.ok batch) => batch.codes
  | _ => []

/-- The batch that a call has returned for the user. -/
def batchFor (userId : Nat) (e : RecoveryEvent) : Option (List String) :=
  match e.call, e.reply with
  | .generate named _, .issued (.ok batch) => if named = userId then some batch.codes else none
  | .regenerate named _, .issued (.ok batch) => if named = userId then some batch.codes else none
  | _, _ => none

/-- The entry that a call has accepted from the user. -/
def acceptedFrom (userId : Nat) (e : RecoveryEvent) : Option String :=
  match e.call, e.reply with
  | .verify user entry, .verified (.ok _) => if user.id = userId then some entry else none
  | _, _ => none

/-- The entry that a call is given to verify. -/
def entryOf (e : RecoveryEvent) : Option String :=
  match e.call with
  | .verify _ entry => some entry
  | _ => none

/-- The batches that have been returned for the user, the latest one last. -/
def batches (userId : Nat) (history : List RecoveryEvent) : List (List String) :=
  history.filterMap (batchFor userId)

/-- What is hashed in a run: the codes that are returned, and the entries. -/
def recoveryMessages (primitives : Primitives) (history : List RecoveryEvent) :
    List (List UInt8) :=
  (history.flatMap returnedCodes ++ history.filterMap entryOf).map (codeMessage primitives)

/-- All batches are drawn as the service draws them, no two codes are the same, and nothing that
    is hashed collides. -/
structure DistinctBatches (primitives : Primitives) (history : List RecoveryEvent) : Prop where
  keeps : KeepsCodeChars primitives
  generated : ∀ e ∈ history, ∀ batch, e.reply = .issued (.ok batch) → IsGenerated batch.codes
  distinct : (history.flatMap returnedCodes).Nodup
  free : NoCollision primitives.sha256 (recoveryMessages primitives history)

/-- A verification of this entry for the user would succeed. -/
def Takes (primitives : Primitives) (store : AuthStore) (user : User) (entry : String) : Prop :=
  ∃ result, (verifyCode primitives store user entry).2 = .ok result

/-- The user has entered the code before, and it was accepted. -/
def UsedCode (primitives : Primitives) (userId : Nat) (history : List RecoveryEvent)
    (code : String) : Prop :=
  ∃ e ∈ history, ∃ entry, acceptedFrom userId e = some entry ∧ Spells primitives entry code

/-- Of the batches of a user, exactly the unused codes of the latest one work. -/
def LatestBatchValid (primitives : Primitives) (userId : Nat) (history : List RecoveryEvent)
    (store : AuthStore) : Prop :=
  ∀ earlier latest, batches userId history = earlier ++ [latest] →
    ∀ user : User, user.id = userId →
    (∀ code ∈ latest, ¬UsedCode primitives userId history code →
      ∀ entry, Spells primitives entry code → Takes primitives store user entry) ∧
    ∀ batch ∈ earlier, ∀ code ∈ batch,
      ∀ entry, Spells primitives entry code → ¬Takes primitives store user entry

/-- The call regenerates the codes of the user, or the user has no recovery codes before it. -/
def replaces (userId : Nat) (e : RecoveryEvent) : Bool :=
  match e.call with
  | .regenerate .. => true
  | _ => (e.before.recoveryCodeFactorForUser userId).isNone

/-- The latest batch of the user was returned by such a call. -/
def LatestReplaces (userId : Nat) (history : List RecoveryEvent) : Prop :=
  ∀ front e back, history = front ++ e :: back → (batchFor userId e).isSome →
    (∀ later ∈ back, batchFor userId later = none) → replaces userId e = true

/-! The calls are the programs of the service, run with no other call in between. -/

section Programs

variable {primitives : Primitives} {config : AuthConfig} {i : Nat} {state last : AuthState}

private theorem alone_find {userId : Nat} {found : Option AuthFactorEnrollment} :
    (authService primitives config).Alone i (auth (.recoveryCodeFactorForUser userId)) state
      last found ↔ found = state.store.recoveryCodeFactorForUser userId ∧ last = state := by
  refine alone_auth (.recoveryCodeFactorForUser userId)
    (state.store.recoveryCodeFactorForUser userId, state) ?_
  intro choice found
  cases choice <;> simp [performAuth, eq_comm]

private theorem alone_use {factorId : Nat} {hash : String} {used : Bool} :
    (authService primitives config).Alone i (auth (.useRecoveryCode factorId hash)) state
      last used ↔ used = (state.store.useRecoveryCode factorId hash).2 ∧
      last = { state with store := (state.store.useRecoveryCode factorId hash).1 } := by
  refine alone_auth (.useRecoveryCode factorId hash)
    (state.onStore (state.store.useRecoveryCode factorId hash)) ?_
  intro choice found
  cases choice <;> simp [performAuth, eq_comm]

/-- Codes are drawn, and their records are stored. -/
private theorem alone_drawAndStore {factorId : Nat} {result : Unit} :
    (authService primitives config).Alone i (do
      let codes ← auth .freshRecoveryCodes
      auth (.storeRecoveryCodeRecords factorId (recoveryCodeRecords primitives codes)))
      state last result ↔ ∃ codes, last = { state with
        store := state.store.storeRecoveryCodeRecords factorId
          (recoveryCodeRecords primitives codes) } := by
  have hstore : ∀ {middle records}, (authService primitives config).Alone i
      (auth (.storeRecoveryCodeRecords factorId records)) middle last result ↔ result = () ∧
      last = { middle with store := middle.store.storeRecoveryCodeRecords factorId records } := by
    intro middle records
    refine alone_auth (.storeRecoveryCodeRecords factorId records) ((), { middle with
      store := middle.store.storeRecoveryCodeRecords factorId records }) ?_
    intro choice found
    cases choice <;> simp [performAuth, eq_comm]
  have hdraw : ∀ {middle codes}, (authService primitives config).Alone i
      (auth .freshRecoveryCodes) state middle codes ↔ middle = state := by
    intro middle codes
    rw [auth, Service.alone_perform]
    constructor
    · rintro ⟨choice, found, hfound, rfl, rfl⟩
      have hcall := authService_perform hfound
      cases choice <;>
        simp only [performAuth, reduceCtorEq, Option.some.injEq, Prod.mk.injEq] at hcall
      exact hcall.2.symm
    · rintro rfl
      exact ⟨.codes codes, ⟨codes, middle, []⟩, rfl, rfl, rfl⟩
  rw [Service.alone_bind]
  constructor
  · rintro ⟨middle, codes, hcodes, hrest⟩
    rw [hdraw.mp hcodes, hstore] at hrest
    exact ⟨codes, hrest.2⟩
  · rintro ⟨codes, rfl⟩
    exact ⟨state, codes, hdraw.mpr rfl, hstore.mpr ⟨rfl, rfl⟩⟩

theorem alone_generate {userId : Nat} {result : Unit} :
    (authService primitives config).Alone i (generateRecoveryCodes primitives userId) state last
      result ↔ ∃ codes, last =
        { state with store := (generateBatch primitives state.store userId codes).1 } := by
  rw [generateRecoveryCodes, Service.alone_then (fun _ _ => alone_enrollFactor)]
  simp only [generateBatch]
  rcases henroll : state.store.enrollFactor userId .recoveryCode recoveryCodeFactorLabel with
    ⟨store, error | factor⟩
  · constructor
    · rintro ⟨rfl, -⟩
      exact ⟨[], rfl⟩
    · rintro ⟨codes, rfl⟩
      exact ⟨rfl, rfl⟩
  · exact alone_drawAndStore

theorem alone_regenerate {userId : Nat} {result : Unit} :
    (authService primitives config).Alone i (regenerateRecoveryCodes primitives userId) state last
      result ↔ ∃ codes, last =
        { state with store := (regenerateBatch primitives state.store userId codes).1 } := by
  rw [regenerateRecoveryCodes, Service.alone_then (fun _ _ => alone_find)]
  simp only [regenerateBatch]
  split_ifs
  · exact alone_generate
  · exact alone_drawAndStore

theorem alone_verify {user : User} {code : String} {result : Except AuthError FactorResult} :
    (authService primitives config).Alone i (verifyRecoveryCode primitives user code) state last
      result ↔ result = (verifyCode primitives state.store user code).2 ∧
      last = { state with store := (verifyCode primitives state.store user code).1 } := by
  rw [verifyRecoveryCode, Service.alone_then (fun _ _ => alone_find)]
  simp only [verifyCode]
  cases state.store.recoveryCodeFactorForUser user.id with
  | none => exact And.comm
  | some factor =>
    dsimp only
    rw [Service.alone_then (fun _ _ => alone_use)]
    rcases huse : state.store.useRecoveryCode factor.id (hashRecoveryCode primitives code) with
      ⟨store, used⟩
    cases used with
    | true => exact And.comm
    | false => exact And.comm

end Programs

/-! What a call does to the records of a user. -/

/-- The records that a verification for the user looks at. -/
def recordsFor (store : AuthStore) (userId : Nat) : List StoredRecoveryCode :=
  ((store.recoveryCodeFactorForUser userId).bind
    (fun factor => store.recoveryCodesByFactorId.lookup factor.id)).getD []

/-- No records are kept under a number that no factor has had yet. -/
structure RecordsInOrder (store : AuthStore) : Prop where
  owned : FactorsOwned store
  known : ∀ factorId records, store.recoveryCodesByFactorId.lookup factorId = some records →
    factorId < store.nextFactorId

/-- What a call does to the records of a user: it replaces them, takes an entry, or neither. -/
inductive RecordsStep (primitives : Primitives) (userId : Nat) (e : RecoveryEvent) : Prop
  | replaced (codes : List String) (issued : batchFor userId e = some codes)
    (replaces : replaces userId e = true)
    (after : recordsFor e.after userId = recoveryCodeRecords primitives codes)
  | taken (entry : String) (accepted : acceptedFrom userId e = some entry)
    (issued : batchFor userId e = none)
    (after : ∀ hash, unused hash (recordsFor e.before userId) =
      unused hash (recordsFor e.after userId) +
        if hash = hashRecoveryCode primitives entry then 1 else 0)
  | kept (accepted : acceptedFrom userId e = none)
    (issued : batchFor userId e = none ∨ replaces userId e = false)
    (after : ∀ hash, unused hash (recordsFor e.after userId) =
      unused hash (recordsFor e.before userId))

section Steps

variable {primitives : Primitives} {store : AuthStore}

theorem takes_iff {user : User} {entry : String} : Takes primitives store user entry ↔
    0 < unused (hashRecoveryCode primitives entry) (recordsFor store user.id) := by
  rw [Takes, verifyCode, recordsFor]
  cases store.recoveryCodeFactorForUser user.id with
  | none =>
    constructor
    · rintro ⟨_, ⟨⟩⟩
    · exact fun hpos => absurd hpos (Nat.lt_irrefl 0)
  | some factor =>
    rw [Option.bind_some]
    dsimp only
    rcases store.useRecoveryCode_cases factor.id (hashRecoveryCode primitives entry) with
      ⟨heq, hzero⟩ | ⟨records, left, hlookup, hcount, -, heq⟩
    · rw [heq, hzero]
      constructor
      · rintro ⟨_, ⟨⟩⟩
      · exact fun hpos => absurd hpos (Nat.lt_irrefl 0)
    · rw [heq, hlookup, Option.getD_some, hcount, if_pos rfl]
      exact ⟨fun _ => Nat.succ_pos _, fun _ => ⟨_, rfl⟩⟩

theorem recordsFor_of_same {next : AuthStore} (same : next.factorTables = store.factorTables)
    (userId : Nat) : recordsFor next userId = recordsFor store userId := by
  simp only [AuthStore.factorTables, Prod.mk.injEq] at same
  obtain ⟨hfactors, hlisted, hrecords, -⟩ := same
  simp only [recordsFor, AuthStore.recoveryCodeFactorForUser, AuthStore.enrolled,
    AuthStore.factorsOf, hfactors, hlisted, hrecords]

theorem RecordsInOrder.of_same (h : RecordsInOrder store) {next : AuthStore}
    (same : next.factorTables = store.factorTables) : RecordsInOrder next := by
  simp only [AuthStore.factorTables, Prod.mk.injEq] at same
  obtain ⟨hfactors, hlisted, hrecords, hnext⟩ := same
  refine ⟨h.owned.of_same hfactors hlisted hnext, ?_⟩
  rw [hrecords, hnext]
  exact h.known

theorem RecordsInOrder.enrollFactor (h : RecordsInOrder store) (userId : Nat)
    (factorType : FactorType) (label : String) :
    RecordsInOrder (store.enrollFactor userId factorType label).1 ∧
    ∀ other, recordsFor (store.enrollFactor userId factorType label).1 other =
      recordsFor store other := by
  have howned := h.owned.enrollFactor userId factorType label
  have hfound := fun other => h.owned.found_enrollFactor userId other factorType label
  rcases store.enrollFactor_cases userId factorType label with
    ⟨error, heq⟩ | ⟨factor, hid, -, -, -, heq⟩
  · rw [heq]
    exact ⟨h, fun _ => rfl⟩
  · rw [heq] at howned hfound ⊢
    refine ⟨⟨howned, fun factorId records hlookup => ?_⟩, fun other => ?_⟩
    · exact Nat.lt_succ_of_lt (h.known factorId records hlookup)
    · -- a new factor has no records yet
      have hnew : store.recoveryCodesByFactorId.lookup factor.id = none := by
        cases hlookup : store.recoveryCodesByFactorId.lookup factor.id with
        | none => rfl
        | some records => exact absurd (h.known _ _ hlookup) (hid ▸ Nat.lt_irrefl _)
      rw [recordsFor, hfound other, recordsFor]
      dsimp only [Except.toOption]
      cases store.recoveryCodeFactorForUser other with
      | some found => rfl
      | none =>
        split_ifs
        · rw [Option.none_or, Option.bind_some, hnew]
          rfl
        · rfl

/-- Storing records for a factor changes what its owner's verifications look at, if it is the
    one that they find. -/
theorem RecordsInOrder.storeRecords (h : RecordsInOrder store) {factor : AuthFactorEnrollment}
    (hfactor : store.authFactorsById.lookup factor.id = some factor)
    (records : List StoredRecoveryCode) :
    RecordsInOrder (store.storeRecoveryCodeRecords factor.id records) ∧
    ∀ userId, recordsFor (store.storeRecoveryCodeRecords factor.id records) userId =
      if store.recoveryCodeFactorForUser userId = some factor then records
      else recordsFor store userId := by
  refine ⟨⟨h.owned.of_same rfl rfl rfl, fun factorId found hlookup => ?_⟩, fun userId => ?_⟩
  · rw [AuthStore.storeRecoveryCodeRecords, Table.lookup_insert] at hlookup
    split_ifs at hlookup with hsame
    · rw [hsame]
      exact (h.owned.numbered _ _ hfactor).2.2
    · exact h.known factorId found hlookup
  · have hsame : (store.storeRecoveryCodeRecords factor.id records).recoveryCodeFactorForUser
        userId = store.recoveryCodeFactorForUser userId := rfl
    rw [recordsFor, hsame, recordsFor]
    cases hfound : store.recoveryCodeFactorForUser userId with
    | none => simp
    | some other =>
      rw [Option.bind_some, Option.bind_some, AuthStore.storeRecoveryCodeRecords,
        Table.lookup_insert]
      by_cases hid : other.id = factor.id
      · obtain ⟨hother, -⟩ := h.owned.found hfound
        rw [hid, hfactor] at hother
        rw [if_pos hid, hother, if_pos rfl]
        rfl
      · have hne : some other ≠ some factor := by
          rintro ⟨⟩
          exact hid rfl
        rw [if_neg hid, if_neg hne]

/-- A generation fails, or stores its codes for a new factor. -/
theorem RecordsInOrder.generate (h : RecordsInOrder store) (primitives : Primitives)
    (userId : Nat) (codes : List String) :
    RecordsInOrder (generateBatch primitives store userId codes).1 ∧
    ((∃ error, (generateBatch primitives store userId codes).2 = .error error ∧
        ∀ other, recordsFor (generateBatch primitives store userId codes).1 other =
          recordsFor store other) ∨
      (∃ factor, (generateBatch primitives store userId codes).2 = .ok ⟨factor, codes⟩) ∧
        ∀ other, recordsFor (generateBatch primitives store userId codes).1 other =
          if other = userId ∧ store.recoveryCodeFactorForUser userId = none then
            recoveryCodeRecords primitives codes
          else recordsFor store other) := by
  obtain ⟨horder, hrecords⟩ := h.enrollFactor userId .recoveryCode recoveryCodeFactorLabel
  have hfound := fun other =>
    h.owned.found_enrollFactor userId other .recoveryCode recoveryCodeFactorLabel
  rw [generateBatch]
  rcases store.enrollFactor_cases userId .recoveryCode recoveryCodeFactorLabel with
    ⟨error, heq⟩ | ⟨factor, hid, huser, -, -, heq⟩
  · rw [heq]
    exact ⟨h, Or.inl ⟨error, rfl, fun _ => rfl⟩⟩
  · rw [heq] at horder hrecords hfound ⊢
    dsimp only at horder hrecords hfound ⊢
    have hlookup : AList.lookup factor.id (AList.insert store.nextFactorId factor
        store.authFactorsById) = some factor := by
      rw [hid]
      exact AList.lookup_insert _
    obtain ⟨hafter, hstored⟩ :=
      horder.storeRecords hlookup (recoveryCodeRecords primitives codes)
    refine ⟨hafter, Or.inr ⟨⟨factor, rfl⟩, fun other => ?_⟩⟩
    rw [hstored, hfound, hrecords]
    -- the new factor is found only for its user, and only if there was none before
    have hfresh : store.recoveryCodeFactorForUser other ≠ some factor := by
      intro hold
      have hnumber := (h.owned.numbered _ _ (h.owned.found hold).1).2.2
      rw [hid] at hnumber
      exact Nat.lt_irrefl _ hnumber
    by_cases hother : other = userId
    · subst hother
      cases hbefore : store.recoveryCodeFactorForUser other with
      | none => simp [Except.toOption]
      | some found =>
        rw [hbefore] at hfresh
        simp [hfresh]
    · simp [hother, hfresh]

/-- A verification fails, or takes a record that it finds for its user. -/
theorem RecordsInOrder.verify (h : RecordsInOrder store) (primitives : Primitives) (user : User)
    (entry : String) :
    RecordsInOrder (verifyCode primitives store user entry).1 ∧
    ((∃ error, verifyCode primitives store user entry = (store, .error error)) ∨
      (∃ result, (verifyCode primitives store user entry).2 = .ok result) ∧
        ∀ other hash, unused hash (recordsFor store other) =
          unused hash (recordsFor (verifyCode primitives store user entry).1 other) +
            if other = user.id ∧ hash = hashRecoveryCode primitives entry then 1 else 0) := by
  rw [verifyCode]
  cases hfound : store.recoveryCodeFactorForUser user.id with
  | none => exact ⟨h, Or.inl ⟨_, rfl⟩⟩
  | some factor =>
    dsimp only
    rcases store.useRecoveryCode_cases factor.id (hashRecoveryCode primitives entry) with
      ⟨heq, -⟩ | ⟨records, left, hlookup, hcount, -, heq⟩
    · rw [heq]
      exact ⟨h, Or.inl ⟨_, rfl⟩⟩
    · rw [heq]
      obtain ⟨hfactor, howner⟩ := h.owned.found hfound
      obtain ⟨hafter, hstored⟩ := h.storeRecords hfactor left
      refine ⟨hafter, Or.inr ⟨⟨_, rfl⟩, fun other hash => ?_⟩⟩
      dsimp only
      rw [hstored]
      by_cases hother : other = user.id
      · have hlisted : recordsFor store other = records := by
          rw [recordsFor, hother, hfound, Option.bind_some, hlookup, Option.getD_some]
        rw [hlisted, hcount, hother, hfound, if_pos rfl]
        simp
      · have hne : store.recoveryCodeFactorForUser other ≠ some factor := by
          intro hsame
          exact hother ((h.owned.found hsame).2.symm.trans howner)
        simp [hother, hne]

/-- A regeneration generates, or stores its codes for the factor that verifications find. -/
theorem RecordsInOrder.regenerate (h : RecordsInOrder store) (primitives : Primitives)
    (userId : Nat) (codes : List String) :
    RecordsInOrder (regenerateBatch primitives store userId codes).1 ∧
    ((∃ error, (regenerateBatch primitives store userId codes).2 = .error error ∧
        ∀ other, recordsFor (regenerateBatch primitives store userId codes).1 other =
          recordsFor store other) ∨
      (∃ factor, (regenerateBatch primitives store userId codes).2 = .ok ⟨factor, codes⟩) ∧
        ∀ other, recordsFor (regenerateBatch primitives store userId codes).1 other =
          if other = userId then recoveryCodeRecords primitives codes
          else recordsFor store other) := by
  rw [regenerateBatch]
  cases hfound : store.recoveryCodeFactorForUser userId with
  | none =>
    rw [Option.getD_none, if_pos rfl]
    obtain ⟨horder, hcases⟩ := h.generate primitives userId codes
    refine ⟨horder, hcases.imp_right (fun ⟨hok, hrecords⟩ => ⟨hok, fun other => ?_⟩)⟩
    rw [hrecords]
    by_cases hother : other = userId
    · simp [hother, hfound]
    · simp [hother]
  | some factor =>
    obtain ⟨hfactor, howner⟩ := h.owned.found hfound
    have hpos := (h.owned.numbered _ _ hfactor).2.1
    rw [Option.getD_some, if_neg (Nat.ne_of_gt hpos)]
    obtain ⟨hafter, hstored⟩ := h.storeRecords hfactor (recoveryCodeRecords primitives codes)
    refine ⟨hafter, Or.inr ⟨⟨factor, rfl⟩, fun other => ?_⟩⟩
    rw [hstored]
    by_cases hother : other = userId
    · rw [if_pos hother, hother, if_pos hfound]
    · have hne : store.recoveryCodeFactorForUser other ≠ some factor := by
        intro hsame
        exact hother ((h.owned.found hsame).2.symm.trans howner)
      rw [if_neg hother, if_neg hne]

/-- What a call does, for every user. -/
theorem RecordsInOrder.step (h : RecordsInOrder store) (primitives : Primitives)
    (call : RecoveryCall) :
    RecordsInOrder (serveRecovery primitives store call).1 ∧
    ∀ userId, RecordsStep primitives userId (served (serveRecovery primitives) store call) := by
  cases call with
  | upsertUser email password role =>
    have hsame := store.factorTables_upsertUser primitives email password role
    exact ⟨h.of_same hsame, fun userId =>
      .kept rfl (Or.inl rfl) (fun hash => congrArg _ (recordsFor_of_same hsame userId))⟩
  | enrollFactor named factorType label =>
    obtain ⟨horder, hrecords⟩ := h.enrollFactor named factorType label
    exact ⟨horder, fun userId => .kept rfl (Or.inl rfl) (fun hash => congrArg _ (hrecords userId))⟩
  | generate named codes =>
    obtain ⟨horder, hcases⟩ := h.generate primitives named codes
    refine ⟨horder, fun userId => ?_⟩
    rcases hcases with ⟨error, herror, hrecords⟩ | ⟨⟨factor, hok⟩, hrecords⟩
    · refine .kept rfl (Or.inl ?_) (fun hash => congrArg _ (hrecords userId))
      simp [batchFor, served, serveRecovery, herror]
    · have hissued : batchFor userId (served (serveRecovery primitives) store
          (.generate named codes)) = if named = userId then some codes else none := by
        simp [batchFor, served, serveRecovery, hok]
      by_cases hname : named = userId
      · rw [if_pos hname] at hissued
        cases hfound : store.recoveryCodeFactorForUser userId with
        | none =>
          refine .replaced codes hissued ?_ ((hrecords userId).trans (if_pos ⟨hname.symm, ?_⟩))
          · simp [replaces, served, hfound]
          · rw [hname, hfound]
        | some found =>
          refine .kept rfl (Or.inr ?_)
            (fun hash => congrArg _ ((hrecords userId).trans (if_neg ?_)))
          · simp [replaces, served, hfound]
          · rintro ⟨-, hnone⟩
            rw [hname, hfound] at hnone
            cases hnone
      · rw [if_neg hname] at hissued
        exact .kept rfl (Or.inl hissued) (fun hash =>
          congrArg _ ((hrecords userId).trans (if_neg (fun hsame => hname hsame.1.symm))))
  | regenerate named codes =>
    obtain ⟨horder, hcases⟩ := h.regenerate primitives named codes
    refine ⟨horder, fun userId => ?_⟩
    rcases hcases with ⟨error, herror, hrecords⟩ | ⟨⟨factor, hok⟩, hrecords⟩
    · refine .kept rfl (Or.inl ?_) (fun hash => congrArg _ (hrecords userId))
      simp [batchFor, served, serveRecovery, herror]
    · have hissued : batchFor userId (served (serveRecovery primitives) store
          (.regenerate named codes)) = if named = userId then some codes else none := by
        simp [batchFor, served, serveRecovery, hok]
      by_cases hname : named = userId
      · rw [if_pos hname] at hissued
        exact .replaced codes hissued rfl ((hrecords userId).trans (if_pos hname.symm))
      · rw [if_neg hname] at hissued
        exact .kept rfl (Or.inl hissued)
          (fun hash => congrArg _ ((hrecords userId).trans (if_neg (Ne.symm hname))))
  | verify user entry =>
    obtain ⟨horder, hcases⟩ := h.verify primitives user entry
    refine ⟨horder, fun userId => ?_⟩
    rcases hcases with ⟨error, heq⟩ | ⟨⟨result, hok⟩, hrecords⟩
    · refine .kept ?_ (Or.inl rfl) ?_
      · simp [acceptedFrom, served, serveRecovery, heq]
      · intro hash
        simp [served, serveRecovery, heq]
    · have haccepted : acceptedFrom userId (served (serveRecovery primitives) store
          (.verify user entry)) = if user.id = userId then some entry else none := by
        simp [acceptedFrom, served, serveRecovery, hok]
      by_cases hname : user.id = userId
      · rw [if_pos hname] at haccepted
        refine .taken entry haccepted rfl (fun hash => (hrecords userId hash).trans ?_)
        simp [hname, served, serveRecovery]
      · rw [if_neg hname] at haccepted
        refine .kept haccepted (Or.inl rfl) (fun hash => ?_)
        have hsame := hrecords userId hash
        rw [if_neg (fun heq => hname heq.1.symm), Nat.add_zero] at hsame
        exact hsame.symm

end Steps

/-! Runs. -/

/-- The valid codes of a user after a call, and the entries that were taken for some of them. -/
def validNext (userId : Nat) (valid : List String × List String) (e : RecoveryEvent) :
    List String × List String :=
  match if replaces userId e then batchFor userId e else none, acceptedFrom userId e with
  | some codes, _ => (codes, [])
  | none, some entry => (valid.1, entry :: valid.2)
  | none, none => valid

def validAfter (userId : Nat) (history : List RecoveryEvent) : List String × List String :=
  history.foldl (validNext userId) ([], [])

theorem validAfter_append_one (userId : Nat) (history : List RecoveryEvent) (e : RecoveryEvent) :
    validAfter userId (history ++ [e]) = validNext userId (validAfter userId history) e := by
  rw [validAfter, List.foldl_append]
  rfl

section Runs

variable {primitives : Primitives} {history : List RecoveryEvent} {store : AuthStore}

/-- The invariant: of the valid codes of a hash, those that were not taken are left unused. -/
theorem recordsFor_valid (h : RecoveryRun primitives history store) :
    RecordsInOrder store ∧ ∀ userId hash, unused hash (recordsFor store userId) +
        (validAfter userId history).2.countP
          (fun entry => hashRecoveryCode primitives entry = hash) =
      (validAfter userId history).1.countP
        (fun code => hashRecoveryCode primitives code = hash) := by
  refine h.invariant (I := fun history store => RecordsInOrder store ∧ ∀ userId hash,
    unused hash (recordsFor store userId) + (validAfter userId history).2.countP
      (fun entry => hashRecoveryCode primitives entry = hash) =
    (validAfter userId history).1.countP (fun code => hashRecoveryCode primitives code = hash))
    ⟨⟨FactorsOwned.default, nofun⟩, fun _ _ => rfl⟩ ?_
  rintro history store call - ⟨horder, hvalid⟩
  obtain ⟨hnext, hstep⟩ := horder.step primitives call
  refine ⟨hnext, fun userId hash => ?_⟩
  have hbefore := hvalid userId hash
  rw [validAfter_append_one, validNext]
  cases hstep userId with
  | replaced codes issued replaces after =>
    rw [if_pos replaces, issued]
    dsimp only
    rw [List.countP_nil, Nat.add_zero, ← unused_recoveryCodeRecords]
    exact congrArg _ after
  | taken entry accepted issued after =>
    have hnone : (if replaces userId (served (serveRecovery primitives) store call) then
        batchFor userId (served (serveRecovery primitives) store call) else none) = none := by
      rw [issued, ite_self]
    rw [hnone, accepted]
    dsimp only
    have hcount := after hash
    dsimp only [served] at hcount
    have hsame : (if decide (hashRecoveryCode primitives entry = hash) then 1 else 0) =
        if hash = hashRecoveryCode primitives entry then 1 else 0 := by
      simp [eq_comm]
    rw [List.countP_cons, ← hbefore, hcount, hsame]
    omega
  | kept accepted issued after =>
    have hnone : (if replaces userId (served (serveRecovery primitives) store call) then
        batchFor userId (served (serveRecovery primitives) store call) else none) = none := by
      rcases issued with hnone | hfalse
      · rw [hnone, ite_self]
      · rw [hfalse]
        rfl
    rw [hnone, accepted]
    dsimp only
    have hcount := after hash
    dsimp only [served] at hcount
    rw [hcount]
    exact hbefore

/-- A valid code comes from a call that replaces the user's codes. -/
theorem replaced_of_valid {userId : Nat} {code : String}
    (h : code ∈ (validAfter userId history).1) : ∃ e ∈ history, ∃ codes,
      batchFor userId e = some codes ∧ replaces userId e = true ∧ code ∈ codes := by
  induction history using List.reverseRecOn with
  | nil => cases h
  | append_singleton history e ih =>
    have hearlier : code ∈ (validAfter userId history).1 → ∃ e' ∈ history ++ [e], ∃ codes,
        batchFor userId e' = some codes ∧ replaces userId e' = true ∧ code ∈ codes := by
      intro hmem
      obtain ⟨e', he', rest⟩ := ih hmem
      exact ⟨e', List.mem_append_left _ he', rest⟩
    rw [validAfter_append_one, validNext] at h
    split at h
    · rename_i codes hissued
      split_ifs at hissued with hreplaces
      exact ⟨e, by simp, codes, hissued, hreplaces, h⟩
    · exact hearlier h
    · exact hearlier h

/-- An entry that was taken has been accepted from the user. -/
theorem accepted_of_taken {userId : Nat} {entry : String}
    (h : entry ∈ (validAfter userId history).2) :
    ∃ e ∈ history, acceptedFrom userId e = some entry := by
  induction history using List.reverseRecOn with
  | nil => cases h
  | append_singleton history e ih =>
    have hearlier : entry ∈ (validAfter userId history).2 →
        ∃ e' ∈ history ++ [e], acceptedFrom userId e' = some entry := by
      intro hmem
      obtain ⟨e', he', rest⟩ := ih hmem
      exact ⟨e', List.mem_append_left _ he', rest⟩
    rw [validAfter_append_one, validNext] at h
    split at h
    · cases h
    · rename_i taken _ haccepted
      rcases List.mem_cons.mp h with rfl | h
      · exact ⟨e, by simp, haccepted⟩
      · exact hearlier h
    · exact hearlier h

/-- The codes of a call that replaces the user's codes are valid until the next batch. -/
theorem valid_of_replaced {userId : Nat} {front back : List RecoveryEvent} {e : RecoveryEvent}
    {codes : List String} (issued : batchFor userId e = some codes)
    (hreplaces : replaces userId e = true) (last : ∀ later ∈ back, batchFor userId later = none) :
    (validAfter userId (front ++ e :: back)).1 = codes := by
  induction back using List.reverseRecOn with
  | nil => rw [validAfter_append_one, validNext, if_pos hreplaces, issued]
  | append_singleton back later ih =>
    have hnone : (if replaces userId later then batchFor userId later else none) = none := by
      rw [last later (by simp), ite_self]
    rw [← List.cons_append, ← List.append_assoc, validAfter_append_one, validNext, hnone]
    have hearlier := ih (fun other hother => last other (List.mem_append_left _ hother))
    cases acceptedFrom userId later <;> exact hearlier

/-! The latest batch. -/

theorem returnedCodes_of_batch {userId : Nat} {e : RecoveryEvent} {codes : List String}
    (h : batchFor userId e = some codes) :
    ∃ batch, e.reply = .issued (.ok batch) ∧ batch.codes = codes ∧ returnedCodes e = codes := by
  unfold batchFor at h
  split at h
  · rename_i batch _ hreply
    split_ifs at h
    cases h
    exact ⟨batch, hreply, rfl, by rw [returnedCodes, hreply]⟩
  · rename_i batch _ hreply
    split_ifs at h
    cases h
    exact ⟨batch, hreply, rfl, by rw [returnedCodes, hreply]⟩
  · cases h

/-- Returned codes with the same hash are the same code. -/
theorem DistinctBatches.hash_inj (distinct : DistinctBatches primitives history)
    {code other : String} (hcode : code ∈ history.flatMap returnedCodes)
    (hother : other ∈ history.flatMap returnedCodes)
    (same : hashRecoveryCode primitives code = hashRecoveryCode primitives other) :
    code = other := by
  have hbatch : ∀ {code}, code ∈ history.flatMap returnedCodes →
      ∃ codes, IsGenerated codes ∧ code ∈ codes := by
    intro code hcode
    obtain ⟨e, he, hreturned⟩ := List.mem_flatMap.mp hcode
    unfold returnedCodes at hreturned
    split at hreturned
    · rename_i batch hreply
      exact ⟨batch.codes, distinct.generated e he batch hreply, hreturned⟩
    · cases hreturned
  have hmessage : ∀ {code}, code ∈ history.flatMap returnedCodes →
      codeMessage primitives code ∈ recoveryMessages primitives history :=
    fun hcode => List.mem_map_of_mem (List.mem_append_left _ hcode)
  obtain ⟨codes, generated, hmem⟩ := hbatch hcode
  obtain ⟨others, generated', hmem'⟩ := hbatch hother
  exact generated_inj distinct.keeps distinct.free generated generated' hmem hmem'
    (hmessage hcode) (hmessage hother) same

/-- An unused record of a returned code is there because its batch replaced another one. -/
theorem replaced_of_unused (distinct : DistinctBatches primitives history)
    {front back : List RecoveryEvent} (hsplit : history = front ++ back)
    (h : RecoveryRun primitives front store) {userId : Nat} {code : String}
    (hcode : code ∈ history.flatMap returnedCodes)
    (hunused : 0 < unused (hashRecoveryCode primitives code) (recordsFor store userId)) :
    ∃ e ∈ history, ∃ codes, batchFor userId e = some codes ∧ replaces userId e = true ∧
      code ∈ codes := by
  have hvalid := (recordsFor_valid h).2 userId (hashRecoveryCode primitives code)
  have hpos : 0 < (validAfter userId front).1.countP
      (fun other => hashRecoveryCode primitives other = hashRecoveryCode primitives code) := by
    omega
  obtain ⟨other, hother, hhash⟩ := List.countP_pos_iff.mp hpos
  obtain ⟨e, he, codes, hissued, hreplaces, hmem⟩ := replaced_of_valid hother
  have he : e ∈ history := hsplit ▸ List.mem_append_left _ he
  obtain ⟨-, -, -, hreturned⟩ := returnedCodes_of_batch hissued
  have hsame : other = code := distinct.hash_inj
    (List.mem_flatMap.mpr ⟨e, he, hreturned ▸ hmem⟩) hcode (of_decide_eq_true hhash)
  exact ⟨e, he, codes, hissued, hreplaces, hsame ▸ hmem⟩

private theorem valid_of_replaces (h : RecoveryRun primitives history store)
    (distinct : DistinctBatches primitives history) {userId : Nat}
    (latestReplaces : LatestReplaces userId history) :
    LatestBatchValid primitives userId history store := by
  rintro earlier latest hbatches user rfl
  obtain ⟨front, rest, rfl, hearlier, hrest⟩ := List.filterMap_eq_append_iff.mp hbatches
  obtain ⟨quiet, e, back, rfl, hquiet, hissued, hback⟩ := List.filterMap_eq_cons_iff.mp hrest
  have hlast : ∀ later ∈ back, batchFor user.id later = none :=
    List.filterMap_eq_nil_iff.mp hback
  have hsplit : front ++ (quiet ++ e :: back) = (front ++ quiet) ++ e :: back := by simp
  have hreplaces := latestReplaces (front ++ quiet) e back hsplit (by rw [hissued]; rfl) hlast
  have hcodes : (validAfter user.id (front ++ (quiet ++ e :: back))).1 = latest := by
    rw [hsplit]
    exact valid_of_replaced hissued hreplaces hlast
  have hvalid := fun hash => (recordsFor_valid h).2 user.id hash
  rw [hcodes] at hvalid
  obtain ⟨-, -, -, hreturned⟩ := returnedCodes_of_batch hissued
  have hmem : ∀ {code}, code ∈ latest →
      code ∈ (front ++ (quiet ++ e :: back)).flatMap returnedCodes :=
    fun hcode => List.mem_flatMap.mpr ⟨e, by simp, hreturned ▸ hcode⟩
  constructor
  · -- a code that no accepted entry spells has its record left
    intro code hcode hfresh entry hspells
    rw [takes_iff, hspells.hash_eq]
    have hnone : (validAfter user.id (front ++ (quiet ++ e :: back))).2.countP (fun taken =>
        hashRecoveryCode primitives taken = hashRecoveryCode primitives code) = 0 := by
      refine List.countP_eq_zero.mpr (fun taken htaken hhash => hfresh ?_)
      obtain ⟨v, hv, haccepted⟩ := accepted_of_taken htaken
      refine ⟨v, hv, taken, haccepted, ?_⟩
      have hentry : entryOf v = some taken := by
        unfold acceptedFrom at haccepted
        split at haccepted
        · rename_i hcall _
          split_ifs at haccepted
          cases haccepted
          rw [entryOf, hcall]
        · cases haccepted
      exact spells_of_hash_eq distinct.free
        (List.mem_map_of_mem (List.mem_append_right _ (List.mem_filterMap.mpr ⟨v, hv, hentry⟩)))
        (List.mem_map_of_mem (List.mem_append_left _ (hmem hcode))) (of_decide_eq_true hhash)
    have hone : 0 < latest.countP (fun other =>
        hashRecoveryCode primitives other = hashRecoveryCode primitives code) :=
      List.countP_pos_iff.mpr ⟨code, hcode, by simp⟩
    have hsum := hvalid (hashRecoveryCode primitives code)
    omega
  · -- a code of an earlier batch is none of the latest one
    intro batch hbatch code hcode entry hspells
    rw [takes_iff, hspells.hash_eq]
    intro hunused
    rw [← hearlier] at hbatch
    obtain ⟨d, hd, hissued'⟩ := List.mem_filterMap.mp hbatch
    obtain ⟨-, -, -, hreturned'⟩ := returnedCodes_of_batch hissued'
    have hsum := hvalid (hashRecoveryCode primitives code)
    have hpos : 0 < latest.countP (fun other =>
        hashRecoveryCode primitives other = hashRecoveryCode primitives code) := by
      omega
    obtain ⟨other, hother, hhash⟩ := List.countP_pos_iff.mp hpos
    have hsame : other = code := distinct.hash_inj (hmem hother)
      (List.mem_flatMap.mpr ⟨d, by simp [hd], hreturned' ▸ hcode⟩) (of_decide_eq_true hhash)
    have hapart := distinct.distinct
    rw [List.flatMap_append, List.nodup_append] at hapart
    refine hapart.2.2 code (List.mem_flatMap.mpr ⟨d, hd, hreturned' ▸ hcode⟩) code ?_ rfl
    exact List.mem_flatMap.mpr ⟨e, by simp, hreturned ▸ hsame ▸ hother⟩

private theorem replaces_of_valid (h : RecoveryRun primitives history store)
    (distinct : DistinctBatches primitives history) {userId : Nat}
    (valid : LatestBatchValid primitives userId history store) :
    LatestReplaces userId history := by
  intro front e back hsplit hissued hlast
  by_contra hkept
  obtain ⟨codes, hissued⟩ := Option.isSome_iff_exists.mp hissued
  obtain ⟨batch, hreply, hbatch, hreturned⟩ := returnedCodes_of_batch hissued
  have he : e ∈ history := by simp [hsplit]
  obtain ⟨code, hcode⟩ := (distinct.generated e he batch hreply).exists_mem
  rw [hbatch] at hcode
  have hmem : code ∈ history.flatMap returnedCodes :=
    List.mem_flatMap.mpr ⟨e, he, hreturned ▸ hcode⟩
  -- the batch has replaced nothing, so no record of the code is ever found
  have hnever : ∀ {front back store}, history = front ++ back →
      RecoveryRun primitives front store →
      ¬0 < unused (hashRecoveryCode primitives code) (recordsFor store userId) := by
    intro front back store hsplit hrun hunused
    obtain ⟨d, hd, others, hissued', hreplaces, hother⟩ :=
      replaced_of_unused distinct hsplit hrun hmem hunused
    obtain ⟨-, -, -, hreturned'⟩ := returnedCodes_of_batch hissued'
    obtain rfl := drawn_once distinct.distinct hd he (hreturned' ▸ hother) (hreturned ▸ hcode)
    exact hkept hreplaces
  have hbatches : batches userId history = batches userId front ++ [codes] := by
    have hnone : back.filterMap (batchFor userId) = [] := List.filterMap_eq_nil_iff.mpr hlast
    rw [batches, hsplit, List.filterMap_append, List.filterMap_cons_some hissued, hnone]
    rfl
  have hfresh : ¬UsedCode primitives userId history code := by
    rintro ⟨v, hv, entry, haccepted, hspells⟩
    obtain ⟨early, late, hplace⟩ := List.append_of_mem hv
    obtain ⟨hearly, hserved, -⟩ := h.split hplace
    refine hnever hplace hearly ?_
    have hstep := ((recordsFor_valid hearly).1.step primitives v.call).2 userId
    rw [← hserved] at hstep
    cases hstep with
    | replaced others issued replaces after =>
      obtain ⟨_, hreply', -, -⟩ := returnedCodes_of_batch issued
      unfold acceptedFrom at haccepted
      rw [hreply'] at haccepted
      split at haccepted
      · rename_i heq
        cases heq
      · cases haccepted
    | taken taken accepted issued after =>
      rw [haccepted] at accepted
      cases accepted
      rw [← hspells.hash_eq, after, if_pos rfl]
      exact Nat.succ_pos _
    | kept accepted issued after =>
      rw [haccepted] at accepted
      cases accepted
  have htakes := (valid _ codes hbatches ⟨userId, "", .viewer⟩ rfl).1 code hcode hfresh code rfl
  exact hnever (List.append_nil history).symm h (takes_iff.mp htakes)

end Runs

/-- Ten codes of ten equal bytes each, from this byte on. -/
private def equalBytes (first : Nat) : List String :=
  (List.range 10).map (fun i =>
    Sunbolt.Auth.generateRecoveryCode (List.replicate 10 (UInt8.ofNat (first + i))))

private theorem isGenerated_equalBytes (first : Nat) : IsGenerated (equalBytes first) :=
  ⟨(List.range 10).map (fun i => List.replicate 10 (UInt8.ofNat (first + i))), rfl,
    fun bytes hbytes => by
      obtain ⟨i, -, rfl⟩ := List.mem_map.mp hbytes
      exact List.length_replicate,
    by rw [List.map_map]; rfl⟩

/-- What a run of these calls returns is drawn as the service draws it. -/
private theorem distinctBatches_of_calls {calls : List RecoveryCall} {starts : List Nat}
    (returned : (historyOf (serveRecovery identityDigest) .default calls).all (fun e =>
      match e.reply with
      | .issued (.ok batch) => starts.any (fun first => batch.codes = equalBytes first)
      | _ => true) = true)
    (distinct : ((historyOf (serveRecovery identityDigest) .default calls).flatMap
      returnedCodes).Nodup) :
    DistinctBatches identityDigest (historyOf (serveRecovery identityDigest) .default calls) where
  keeps := by simp [KeepsCodeChars, Sunbolt.Auth.recoveryCodeChars, identityDigest]
  generated e he batch hreply := by
    have hany := List.all_eq_true.mp returned e he
    rw [hreply] at hany
    obtain ⟨first, -, hcodes⟩ := List.any_eq_true.mp hany
    rw [of_decide_eq_true hcodes]
    exact isGenerated_equalBytes first
  distinct := distinct
  free _ _ _ _ same := same

private def firstUser : User := ⟨1, "ops@x", .operator⟩

/-- A user generates recovery codes twice. -/
private def generatedTwice : List RecoveryCall :=
  [.upsertUser "ops@x" "p" .operator, .generate 1 (equalBytes 0), .generate 1 (equalBytes 16)]

/-- A user generates recovery codes and regenerates them. -/
private def regeneratedOnce : List RecoveryCall :=
  [.upsertUser "ops@x" "p" .operator, .generate 1 (equalBytes 0), .regenerate 1 (equalBytes 16)]

end Sunbolt.Control
