/- Module: Sunbolt/Auth/RecoveryCodes
   scope: sunbolt-auth/src/recovery_codes.rs
   digest: What recovery codes are drawn, how one is spelled, and which records are left unused. -/

import Sunbolt.Auth.Spellings

set_option autoImplicit false
set_option relaxedAutoImplicit false

namespace Sunbolt.Auth

open Sunbolt.Library
open Sunbolt.Audit (isWhitespace hexDigit hexDigits hexDigits_injective)

def defaultCodeCount : Nat := 10
def recoveryCodeBytes : Nat := 10

/-- `generate_recovery_code`, for the bytes that are drawn. -/
def generateRecoveryCode (bytes : List UInt8) : String :=
  String.ofList (bytes.zipIdx.flatMap (fun (byte, index) =>
    (if index = 4 ∨ index = 7 then ['-'] else []) ++ hexDigits [byte]))

/-- Some bytes make `generate_recovery_codes` return these codes. -/
def IsGenerated (codes : List String) : Prop :=
  ∃ draws : List (List UInt8), draws.length = defaultCodeCount ∧
    (∀ bytes ∈ draws, bytes.length = recoveryCodeBytes) ∧ codes = draws.map generateRecoveryCode

def recoveryCodeChars : List Char :=
  ['-', '0', '1', '2', '3', '4', '5', '6', '7', '8', '9', 'a', 'b', 'c', 'd', 'e', 'f']

/-- The characters of the codes are their own lower case. -/
def KeepsCodeChars (primitives : Primitives) : Prop :=
  ∀ c ∈ recoveryCodeChars, primitives.toLowercase c = [c]

/-- The entry is the code in some letter case, with some whitespace. -/
def Spells (primitives : Primitives) (entry code : String) : Prop :=
  normalizeRecoveryCode primitives entry = normalizeRecoveryCode primitives code

instance (primitives : Primitives) (entry code : String) :
    Decidable (Spells primitives entry code) :=
  inferInstanceAs (Decidable (_ = _))

/-- What is hashed for a recovery code. -/
def codeMessage (primitives : Primitives) (code : String) : List UInt8 :=
  saltedBytes "sunbolt-recovery-code-v1:" (normalizeRecoveryCode primitives code)

/-- How many records of this hash are still unused. -/
def unused (hash : String) (records : List StoredRecoveryCode) : Nat :=
  records.countP (fun record => record.hash = hash && !record.used)

section Codes

variable {primitives : Primitives}

theorem Spells.hash_eq {entry code : String} (h : Spells primitives entry code) :
    hashRecoveryCode primitives entry = hashRecoveryCode primitives code :=
  congrArg (saltedHash primitives "sunbolt-recovery-code-v1:") h

theorem hexDigit_mem (n : UInt8) : hexDigit n ∈ recoveryCodeChars := by
  have hdigits : "0123456789abcdef".toList = recoveryCodeChars.tail := by decide +kernel
  unfold hexDigit
  rw [hdigits]
  cases hget : recoveryCodeChars.tail[n.toNat]? with
  | none => decide
  | some c => exact List.mem_of_mem_tail (List.mem_of_getElem? hget)

theorem generateRecoveryCode_chars (bytes : List UInt8) :
    ∀ c ∈ (generateRecoveryCode bytes).toList, c ∈ recoveryCodeChars := by
  intro c hc
  rw [generateRecoveryCode, String.toList_ofList] at hc
  obtain ⟨⟨byte, index⟩, -, hc⟩ := List.mem_flatMap.mp hc
  rcases List.mem_append.mp hc with hdash | hdigit
  · have hcases : c = '-' := by
      split_ifs at hdash
      · exact List.mem_singleton.mp hdash
      · cases hdash
    rw [hcases]
    exact List.mem_cons_self ..
  · obtain ⟨other, -, hmem⟩ := List.mem_flatMap.mp hdigit
    simp only [List.mem_cons, List.not_mem_nil, or_false] at hmem
    rcases hmem with rfl | rfl
    · exact hexDigit_mem _
    · exact hexDigit_mem _

/-- A generated code is its own normal form. -/
theorem normalize_generated (keeps : KeepsCodeChars primitives) (bytes : List UInt8) :
    normalizeRecoveryCode primitives (generateRecoveryCode bytes) =
      (generateRecoveryCode bytes).toList := by
  have hchars := generateRecoveryCode_chars bytes
  have hspaces : ∀ c ∈ recoveryCodeChars, isWhitespace c = false := by
    simp [recoveryCodeChars, isWhitespace]
  have hkept : (generateRecoveryCode bytes).toList.filter (fun c => !isWhitespace c) =
      (generateRecoveryCode bytes).toList := by
    refine List.filter_eq_self.mpr (fun c hc => ?_)
    rw [hspaces c (hchars c hc)]
    rfl
  rw [normalizeRecoveryCode, hkept]
  generalize (generateRecoveryCode bytes).toList = text at hchars
  induction text with
  | nil => rfl
  | cons c rest ih =>
    rw [List.flatMap_cons, keeps c (hchars c (List.mem_cons_self ..)),
      ih (fun d hd => hchars d (List.mem_cons_of_mem c hd))]
    rfl

theorem normalize_of_mem (keeps : KeepsCodeChars primitives) {codes : List String} {code : String}
    (generated : IsGenerated codes) (hcode : code ∈ codes) :
    normalizeRecoveryCode primitives code = code.toList := by
  obtain ⟨draws, -, -, rfl⟩ := generated
  obtain ⟨bytes, -, rfl⟩ := List.mem_map.mp hcode
  exact normalize_generated keeps bytes

/-- Entries and codes with the same hash have the same normal form, where they do not collide. -/
theorem spells_of_hash_eq {messages : List (List UInt8)}
    (free : NoCollision primitives.sha256 messages) {entry code : String}
    (hentry : codeMessage primitives entry ∈ messages)
    (hcode : codeMessage primitives code ∈ messages)
    (same : hashRecoveryCode primitives entry = hashRecoveryCode primitives code) :
    Spells primitives entry code :=
  saltedHash_inj free hentry hcode same

/-- Generated codes with the same hash are the same code, where they do not collide. -/
theorem generated_inj {messages : List (List UInt8)} (keeps : KeepsCodeChars primitives)
    (free : NoCollision primitives.sha256 messages) {codes others : List String}
    (generated : IsGenerated codes) (generated' : IsGenerated others) {code other : String}
    (hcode : code ∈ codes) (hother : other ∈ others)
    (hmessage : codeMessage primitives code ∈ messages)
    (hmessage' : codeMessage primitives other ∈ messages)
    (same : hashRecoveryCode primitives code = hashRecoveryCode primitives other) :
    code = other := by
  have hspells := spells_of_hash_eq free hmessage hmessage' same
  rw [Spells, normalize_of_mem keeps generated hcode,
    normalize_of_mem keeps generated' hother] at hspells
  exact String.toList_injective hspells

theorem IsGenerated.exists_mem {codes : List String} (h : IsGenerated codes) :
    ∃ code, code ∈ codes := by
  obtain ⟨draws, hlength, -, rfl⟩ := h
  cases draws with
  | nil => cases hlength
  | cons bytes draws => exact ⟨_, List.mem_cons_self ..⟩

/-- Where all codes are distinct, each was drawn at one place only. -/
theorem drawn_once {α : Type} {draws : α → List String} {l : List α}
    (distinct : (l.flatMap draws).Nodup) {a b : α} (ha : a ∈ l) (hb : b ∈ l) {code : String}
    (hcode : code ∈ draws a) (hcode' : code ∈ draws b) : a = b := by
  by_contra hne
  have hsymm : Std.Symm (Function.onFun List.Disjoint draws) :=
    ⟨fun _ _ hxy => List.disjoint_symm hxy⟩
  exact (List.nodup_flatMap.mp distinct).2.forall ha hb hne hcode hcode'

end Codes

/-! Records. -/

section Records

variable {hash other : String} {records : List StoredRecoveryCode}

theorem unused_cons (record : StoredRecoveryCode) : unused hash (record :: records) =
    unused hash records + if record.hash = hash ∧ record.used = false then 1 else 0 := by
  rw [unused, List.countP_cons]
  congr 1
  simp only [Bool.and_eq_true, decide_eq_true_eq, Bool.not_eq_true']

theorem unused_recoveryCodeRecords (primitives : Primitives) (codes : List String) :
    unused hash (recoveryCodeRecords primitives codes) =
      codes.countP (fun code => hashRecoveryCode primitives code = hash) := by
  rw [unused, recoveryCodeRecords, List.countP_map]
  congr 1
  funext code
  simp

/-- A use fails where no record of the hash is unused, and else takes one of them. -/
theorem markUsed_cases (hash : String) (records : List StoredRecoveryCode) :
    AuthStore.markUsed hash records = none ∧ unused hash records = 0 ∨
    ∃ next, AuthStore.markUsed hash records = some next ∧
      (∀ h, unused h records = unused h next + if h = hash then 1 else 0) ∧
      next.map (·.hash) = records.map (·.hash) := by
  induction records with
  | nil => exact Or.inl ⟨rfl, rfl⟩
  | cons record rest ih =>
    rw [AuthStore.markUsed]
    by_cases hfirst : record.hash = hash ∧ record.used = false
    · obtain ⟨rfl, hunused⟩ := hfirst
      refine Or.inr ⟨{ record with used := true } :: rest, by simp [hunused], fun h => ?_, rfl⟩
      rw [unused_cons, unused_cons]
      by_cases hh : h = record.hash
      · simp [hh, hunused]
      · simp [hh, Ne.symm hh]
    · have hskip : ¬(decide (record.hash = hash) && !record.used) = true := by
        simpa using hfirst
      rw [if_neg hskip]
      rcases ih with ⟨hnone, hzero⟩ | ⟨next, hsome, hcount, hhashes⟩
      · rw [hnone, unused_cons, hzero, if_neg hfirst]
        exact Or.inl ⟨rfl, rfl⟩
      · refine Or.inr ⟨record :: next, by rw [hsome]; rfl, fun h => ?_, ?_⟩
        · rw [unused_cons, unused_cons, hcount h]
          omega
        · rw [List.map_cons, List.map_cons, hhashes]

end Records

/-! The factors of the users. -/

namespace AuthStore

variable (primitives : Primitives) (store : AuthStore)

/-- Where the factors and their recovery codes are kept. -/
def factorTables : Table Nat AuthFactorEnrollment × Table Nat (List Nat) ×
    Table Nat (List StoredRecoveryCode) × Nat :=
  (store.authFactorsById, store.factorIdsByUserId, store.recoveryCodesByFactorId,
    store.nextFactorId)

theorem factorTables_upsertUser (email password : String) (role : UserRole) :
    (store.upsertUser primitives email password role).1.factorTables = store.factorTables := by
  rcases store.upsertUser_cases primitives email password role with
    ⟨error, heq⟩ | ⟨known, stored, -, -, heq⟩ | ⟨-, heq⟩
  · rw [heq]
  · rw [heq]
    rfl
  · rw [heq]
    rfl

theorem factorTables_login (config : AuthConfig) (email password : String) (now : Nat)
    (token : String) :
    (store.login primitives config email password now token).1.factorTables =
      store.factorTables := by
  rcases store.login_cases primitives config email password now token with
    ⟨error, heq, -⟩ | ⟨userId, stored, -, -, -, heq⟩
  · rw [heq]
  · rw [heq]
    rfl

theorem factorTables_recordMfaSuccess (token : String) (now : Nat) :
    (store.recordMfaSuccess token now).1.factorTables = store.factorTables := by
  rcases store.recordMfaSuccess_cases token now with ⟨heq, -⟩ | ⟨session, -, -, heq⟩
  · rw [heq]
    rfl
  · rw [heq]
    rfl

/-- An enrollment fails, or adds a factor of a known user under the next number. -/
theorem enrollFactor_cases (userId : Nat) (factorType : FactorType) (label : String) :
    (∃ error, store.enrollFactor userId factorType label = (store, .error error)) ∨
    ∃ factor : AuthFactorEnrollment, factor.id = store.nextFactorId ∧ factor.userId = userId ∧
      factor.factorType = factorType ∧ factor.enabled = true ∧
      store.enrollFactor userId factorType label =
        ({ store with
            factorIdsByUserId := store.factorIdsByUserId.push userId store.nextFactorId
            authFactorsById := AList.insert store.nextFactorId factor store.authFactorsById
            nextFactorId := store.nextFactorId + 1 }, .ok factor) := by
  rw [enrollFactor]
  split_ifs with hlabel huser
  · exact Or.inl ⟨_, rfl⟩
  · exact Or.inl ⟨_, rfl⟩
  · exact Or.inr ⟨⟨store.nextFactorId, userId, factorType, _, true⟩, rfl, rfl, rfl, rfl, rfl⟩

/-- A use fails where the factor has no unused record of the hash, and else takes one. -/
theorem useRecoveryCode_cases (factorId : Nat) (hash : String) :
    store.useRecoveryCode factorId hash = (store, false) ∧
      unused hash ((store.recoveryCodesByFactorId.lookup factorId).getD []) = 0 ∨
    ∃ records next, store.recoveryCodesByFactorId.lookup factorId = some records ∧
      (∀ h, unused h records = unused h next + if h = hash then 1 else 0) ∧
      next.map (·.hash) = records.map (·.hash) ∧
      store.useRecoveryCode factorId hash =
        (store.storeRecoveryCodeRecords factorId next, true) := by
  rw [useRecoveryCode]
  cases hlookup : store.recoveryCodesByFactorId.lookup factorId with
  | none => exact Or.inl ⟨rfl, rfl⟩
  | some records =>
    rw [Option.bind_some, Option.getD_some]
    rcases markUsed_cases hash records with ⟨hnone, hzero⟩ | ⟨next, hsome, hcount, hhashes⟩
    · rw [hnone]
      exact Or.inl ⟨rfl, hzero⟩
    · rw [hsome]
      exact Or.inr ⟨records, next, rfl, hcount, hhashes, rfl⟩

end AuthStore

/-- Every factor has its own number, and is listed for its own user only. -/
structure FactorsOwned (store : AuthStore) : Prop where
  listed : ∀ userId, ∀ factorId ∈ (store.factorIdsByUserId.lookup userId).getD [],
    ∃ factor, store.authFactorsById.lookup factorId = some factor ∧ factor.userId = userId
  numbered : ∀ factorId factor, store.authFactorsById.lookup factorId = some factor →
    factor.id = factorId ∧ 0 < factorId ∧ factorId < store.nextFactorId
  positive : 0 < store.nextFactorId

section Factors

variable {store : AuthStore}

theorem FactorsOwned.of_same {next : AuthStore} (h : FactorsOwned store)
    (factors : next.authFactorsById = store.authFactorsById)
    (listed : next.factorIdsByUserId = store.factorIdsByUserId)
    (numbers : next.nextFactorId = store.nextFactorId) : FactorsOwned next := by
  refine ⟨?_, ?_, ?_⟩
  · rw [factors, listed]
    exact h.listed
  · rw [factors, numbers]
    exact h.numbered
  · rw [numbers]
    exact h.positive

theorem FactorsOwned.default : FactorsOwned .default :=
  ⟨fun _ _ hmem => absurd hmem List.not_mem_nil, nofun, Nat.one_pos⟩

/-- The next number belongs to no factor yet. -/
theorem FactorsOwned.fresh (h : FactorsOwned store) :
    store.authFactorsById.lookup store.nextFactorId = none := by
  cases hlookup : store.authFactorsById.lookup store.nextFactorId with
  | none => rfl
  | some factor => exact absurd (h.numbered _ _ hlookup).2.2 (Nat.lt_irrefl _)

theorem FactorsOwned.enrollFactor (h : FactorsOwned store) (userId : Nat)
    (factorType : FactorType) (label : String) :
    FactorsOwned (store.enrollFactor userId factorType label).1 := by
  rcases store.enrollFactor_cases userId factorType label with
    ⟨error, heq⟩ | ⟨factor, hid, huser, -, -, heq⟩
  · rw [heq]
    exact h
  · rw [heq]
    have hkeep : ∀ factorId found, store.authFactorsById.lookup factorId = some found →
        AList.lookup factorId (AList.insert store.nextFactorId factor store.authFactorsById) =
          some found := by
      intro factorId found hfound
      rw [Table.lookup_insert, if_neg (Nat.ne_of_lt (h.numbered factorId found hfound).2.2)]
      exact hfound
    refine ⟨fun other factorId hmem => ?_, fun factorId found hfound => ?_, Nat.succ_pos _⟩
    · dsimp only at hmem ⊢
      have hcases : factorId ∈ (store.factorIdsByUserId.lookup other).getD [] ∨
          other = userId ∧ factorId = store.nextFactorId := by
        rw [Table.lookup_push] at hmem
        split_ifs at hmem with hother
        · rcases List.mem_append.mp hmem with hmem | hmem
          · exact Or.inl hmem
          · exact Or.inr ⟨hother, List.mem_singleton.mp hmem⟩
        · exact Or.inl hmem
      rcases hcases with hold | ⟨rfl, rfl⟩
      · obtain ⟨found, hfound, howner⟩ := h.listed other factorId hold
        exact ⟨found, hkeep factorId found hfound, howner⟩
      · exact ⟨factor, AList.lookup_insert _, huser⟩
    · dsimp only at hfound ⊢
      rw [Table.lookup_insert] at hfound
      split_ifs at hfound with hnew
      · cases hfound
        subst hnew
        exact ⟨hid, h.positive, Nat.lt_succ_self _⟩
      · obtain ⟨hown, hpos, hlt⟩ := h.numbered factorId found hfound
        exact ⟨hown, hpos, Nat.lt_succ_of_lt hlt⟩

/-- The factor found for a user is one of its own. -/
theorem FactorsOwned.found (h : FactorsOwned store) {userId : Nat}
    {factor : AuthFactorEnrollment} (found : store.recoveryCodeFactorForUser userId = some factor) :
    store.authFactorsById.lookup factor.id = some factor ∧ factor.userId = userId := by
  have hmem := List.mem_of_find?_eq_some found
  obtain ⟨factorId, hid, hlookup⟩ := List.mem_filterMap.mp hmem
  obtain ⟨other, hother, howner⟩ := h.listed userId factorId hid
  obtain rfl := Option.some.inj (hother.symm.trans hlookup)
  rw [(h.numbered factorId _ hlookup).1]
  exact ⟨hlookup, howner⟩

/-- The factors of a user after an enrollment: a new one comes last. -/
theorem FactorsOwned.factorsOf_enrollFactor (h : FactorsOwned store) (userId other : Nat)
    (factorType : FactorType) (label : String) :
    (store.enrollFactor userId factorType label).1.factorsOf other =
      store.factorsOf other ++ (if other = userId then
        (store.enrollFactor userId factorType label).2.toOption.toList else []) := by
  rcases store.enrollFactor_cases userId factorType label with
    ⟨error, heq⟩ | ⟨factor, hid, -, -, -, heq⟩
  · rw [heq]
    simp [Except.toOption]
  · rw [heq]
    have hold : ∀ factorId ∈ (store.factorIdsByUserId.lookup other).getD [],
        AList.lookup factorId (AList.insert store.nextFactorId factor store.authFactorsById) =
          store.authFactorsById.lookup factorId := by
      intro factorId hmem
      obtain ⟨found, hfound, -⟩ := h.listed other factorId hmem
      rw [Table.lookup_insert, if_neg (Nat.ne_of_lt (h.numbered factorId found hfound).2.2)]
    simp only [AuthStore.factorsOf, Table.lookup_push, Except.toOption]
    by_cases hother : other = userId
    · rw [if_pos hother, if_pos hother, List.filterMap_append, List.filterMap_congr hold]
      simp
    · rw [if_neg hother, if_neg hother, List.filterMap_congr hold, List.append_nil]

theorem FactorsOwned.found_enrollFactor (h : FactorsOwned store) (userId other : Nat)
    (factorType : FactorType) (label : String) :
    (store.enrollFactor userId factorType label).1.recoveryCodeFactorForUser other =
      (store.recoveryCodeFactorForUser other).or
        (if other = userId ∧ factorType = .recoveryCode then
          (store.enrollFactor userId factorType label).2.toOption
        else none) := by
  rw [AuthStore.recoveryCodeFactorForUser, AuthStore.enrolled,
    h.factorsOf_enrollFactor userId other factorType label, List.find?_append]
  rcases store.enrollFactor_cases userId factorType label with
    ⟨error, heq⟩ | ⟨factor, -, -, htype, henabled, heq⟩
  · rw [heq]
    simp [Except.toOption, AuthStore.recoveryCodeFactorForUser, AuthStore.enrolled]
  · rw [heq]
    by_cases hother : other = userId
    · simp [hother, htype, henabled, Except.toOption, AuthStore.recoveryCodeFactorForUser,
        AuthStore.enrolled, List.find?_singleton]
    · simp [hother, AuthStore.recoveryCodeFactorForUser, AuthStore.enrolled]

end Factors

end Sunbolt.Auth
