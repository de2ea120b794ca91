/- Module: Sunbolt/Audit/Integrity
   scope: sunbolt-audit/src/chain.rs, sunbolt-audit/src/log.rs
   digest: The invariant of the audit log and what the chain check accepts. -/

import Sunbolt.Audit.Canonical
import Mathlib

set_option autoImplicit false
set_option relaxedAutoImplicit false

namespace Sunbolt.Audit

open Sunbolt.Library

variable (sha256 : ByteArray → List UInt8)

/-- The audit log as a chain of canonical texts. -/
def auditChain : HashChain AuditEvent String String where
  previous := AuditEvent.previousHash
  hash := AuditEvent.eventHash
  content := AuditEvent.canonical
  digest text := hexSha256 sha256 text.toByteArray
  genesis := genesisHash

/-- Two different canonical texts of these events have two different digests, and none of them
    has the digest that stands for the empty log. -/
structure CollisionFree (events : List AuditEvent) : Prop where
  collision : ∀ {event other}, event ∈ events → other ∈ events →
    sha256 event.canonical.toByteArray = sha256 other.canonical.toByteArray →
    event.canonical = other.canonical
  genesis : ∀ {event}, event ∈ events → event.expectedHash sha256 ≠ genesisHash

section Chain

variable {sha256}

theorem verifyFrom_iff {expected : String} {events : List AuditEvent} :
    verifyFrom sha256 expected events = true ↔ (auditChain sha256).Valid expected events := by
  induction events generalizing expected with
  | nil => simp [verifyFrom, HashChain.Valid]
  | cons event events ih =>
    rw [verifyFrom, HashChain.Valid, ← ih]
    by_cases hprevious : event.previousHash = expected
    · by_cases hhash : event.eventHash = event.expectedHash sha256
      · rw [if_neg (by simpa using hprevious), if_neg (by simpa using hhash)]
        exact ⟨fun h => ⟨hprevious, hhash, h⟩, fun h => h.2.2⟩
      · rw [if_neg (by simpa using hprevious), if_pos hhash]
        exact ⟨fun h => absurd h (by decide), fun h => absurd h.2.1 hhash⟩
    · rw [if_pos hprevious]
      exact ⟨fun h => absurd h (by decide), fun h => absurd h.1 hprevious⟩

theorem verifyChain_iff {events : List AuditEvent} :
    verifyChain sha256 events = true ↔ (auditChain sha256).Valid genesisHash events :=
  verifyFrom_iff

private theorem colon_not_mem_genesis : ':' ∉ genesisHash.toList := by decide

/-- In an accepted list no event refers to a text with a colon. -/
private theorem colon_not_mem_previous {expected : String} {events : List AuditEvent}
    (valid : (auditChain sha256).Valid expected events) (hexpected : ':' ∉ expected.toList)
    {event : AuditEvent} (hmem : event ∈ events) : ':' ∉ event.previousHash.toList := by
  induction events generalizing expected with
  | nil => cases hmem
  | cons first events ih =>
    obtain ⟨hprevious, hhash, hrest⟩ := valid
    rcases List.mem_cons.mp hmem with rfl | hmem
    · change event.previousHash = expected at hprevious
      rw [hprevious]
      exact hexpected
    · refine ih hrest ?_ hmem
      rw [hhash]
      change ':' ∉ (hexSha256 sha256 first.canonical.toByteArray).toList
      rw [hexSha256, String.toList_ofList]
      exact colon_not_mem_hexDigits _

private theorem soundOn {events : List AuditEvent} (free : CollisionFree sha256 events)
    (colons : ∀ event ∈ events, ':' ∉ event.previousHash.toList) :
    (auditChain sha256).SoundOn events where
  digest he hother h := by
    have hdigits : hexDigits _ = hexDigits _ := String.ofList_injective h
    exact free.collision he hother (hexDigits_injective hdigits)
  genesis he := free.genesis he
  previous he hother h := previousHash_of_canonical (colons _ he) (colons _ hother) h

theorem soundOn_of_valid {events : List AuditEvent} (free : CollisionFree sha256 events)
    (valid : (auditChain sha256).Valid genesisHash events) :
    (auditChain sha256).SoundOn events :=
  soundOn free (fun _ hmem => colon_not_mem_previous valid colon_not_mem_genesis hmem)

end Chain

/-! Two logouts, with the digests that SHA-256 has for their texts and for one changed text. -/

private def sampleText (previous : String) (id : Nat) (rest : String) : ByteArray :=
  (previous ++ ":" ++ toString id ++ ":user.logout::" ++ rest).toByteArray

private def sampleHash : String :=
  "9166a7f0ad18bf12a08ba86ff7ac59fb19747ae7093f409ed609c3004af0bf63"

private def sampleSha256 (data : ByteArray) : List UInt8 :=
  if data = sampleText genesisHash 1 "out:5" then
    [145, 102, 167, 240, 173, 24, 191, 18, 160, 139, 168, 111, 247, 172, 89, 251,
      25, 116, 122, 231, 9, 63, 64, 158, 214, 9, 195, 0, 74, 240, 191, 99]
  else if data = sampleText sampleHash 2 "out:6" then
    [163, 213, 148, 124, 211, 172, 222, 51, 18, 216, 149, 183, 18, 46, 130, 29,
      93, 74, 4, 51, 243, 155, 175, 240, 30, 135, 88, 112, 1, 149, 190, 83]
  else if data = sampleText genesisHash 1 "exit:5" then
    [168, 70, 129, 178, 76, 128, 93, 119, 196, 17, 106, 216, 102, 77, 2, 143,
      139, 182, 207, 161, 1, 17, 131, 182, 208, 35, 5, 224, 206, 34, 119, 153]
  else []

private def sampleCalls : List (UInt64 × AuditEventInput) :=
  [(5, ⟨.userLogout, none, "out"⟩), (6, ⟨.userLogout, none, "out"⟩)]

private def sampleLog : List AuditEvent := (recordAll sampleSha256 sampleCalls).events

private def sampleEvent (message : String) : AuditEvent :=
  ⟨1, .userLogout, none, message, 5, genesisHash, sampleHash⟩

private theorem sampleLog_eq : sampleLog = [sampleEvent "out",
    ⟨2, .userLogout, none, "out", 6, sampleHash,
      "a3d5947cd3acde3312d895b7122e821d5d4a0433f39baff01e8758700195be53"⟩] := by
  decide +kernel

/-! Recording. -/

theorem recordAll_concat (calls : List (UInt64 × AuditEventInput))
    (call : UInt64 × AuditEventInput) :
    recordAll sha256 (calls ++ [call]) = (recordAll sha256 calls).record sha256 call.1 call.2 := by
  rw [recordAll, List.foldl_append]
  rfl

/-- What an event keeps of the call that recorded it. -/
def StoredBy (call : UInt64 × AuditEventInput) (event : AuditEvent) : Prop :=
  event.kind = call.2.kind ∧ event.actorEmail = call.2.actorEmail ∧
    event.message = redactSensitive call.2.message ∧ event.createdAtUnixSecs = call.1

/-- The invariant of the log, strong enough for the induction over the calls. -/
private structure Recorded (calls : List (UInt64 × AuditEventInput)) (state : AuditLogState) :
    Prop where
  valid : (auditChain sha256).Valid genesisHash state.events
  last : state.lastHash = (auditChain sha256).tip genesisHash state.events
  stored : List.Forall₂ StoredBy calls state.events
  nextId : state.nextId = UInt64.ofNat (state.events.length + 1)
  ids : ∀ i event, state.events[i]? = some event → event.id = UInt64.ofNat (i + 1)

private theorem Recorded.record {calls : List (UInt64 × AuditEventInput)}
    {state : AuditLogState} (h : Recorded sha256 calls state)
    (call : UInt64 × AuditEventInput) :
    Recorded sha256 (calls ++ [call]) (state.record sha256 call.1 call.2) where
  valid := HashChain.valid_concat.mpr ⟨h.valid, h.last, rfl⟩
  last := by
    simp only [AuditLogState.record]
    rw [HashChain.tip_concat]
    rfl
  stored := List.rel_append h.stored
    (List.Forall₂.cons ⟨rfl, rfl, rfl, rfl⟩ List.Forall₂.nil)
  nextId := by
    change state.nextId + 1 = _
    rw [h.nextId]
    simp [AuditLogState.record, UInt64.ofNat_add]
  ids i event hget := by
    rcases Nat.lt_trichotomy i state.events.length with hlt | heq | hgt
    · rw [AuditLogState.record, List.getElem?_append_left hlt] at hget
      exact h.ids i event hget
    · rw [AuditLogState.record, List.getElem?_append_right heq.ge, heq, Nat.sub_self] at hget
      cases hget
      rw [heq]
      exact h.nextId
    · have hlength : (state.record sha256 call.1 call.2).events.length ≤ i := by
        simp only [AuditLogState.record, List.length_append, List.length_singleton]
        omega
      rw [List.getElem?_eq_none hlength] at hget
      cases hget

private theorem recorded (calls : List (UInt64 × AuditEventInput)) :
    Recorded sha256 calls (recordAll sha256 calls) := by
  induction calls using List.reverseRecOn with
  | nil => exact ⟨trivial, rfl, List.Forall₂.nil, rfl, fun i event h => by cases h⟩
  | append_singleton calls call ih =>
    rw [recordAll_concat]
    exact ih.record sha256 call

/-- Literals that start in different characters. -/
private theorem literal_ne {first second : String} {c d : Char} {cs ds : List Char}
    (hfirst : first = String.ofList (c :: cs)) (hsecond : second = String.ofList (d :: ds))
    (h : c ≠ d) : first ≠ second := by
  intro heq
  rw [hfirst, hsecond] at heq
  exact h (List.cons.inj (String.ofList_injective heq)).1

/-- What has been recorded is accepted, and its digests are the two that are stored. -/
private theorem sampleLog_valid : (auditChain sampleSha256).Valid genesisHash sampleLog :=
  (recorded sampleSha256 sampleCalls).valid

private theorem sampleLog_accepted : verifyChain sampleSha256 sampleLog = true :=
  verifyChain_iff.mpr sampleLog_valid

private theorem sample_collisionFree : CollisionFree sampleSha256 sampleLog := by
  have hdigest : ∀ event ∈ sampleLog,
      event.eventHash = String.ofList (hexDigits (sampleSha256 event.canonical.toByteArray)) :=
    fun event he => sampleLog_valid.digest he
  have apart : ∀ event ∈ sampleLog, ∀ other ∈ sampleLog, event.eventHash = other.eventHash →
      event = other := by
    have hne : sampleHash ≠ "a3d5947cd3acde3312d895b7122e821d5d4a0433f39baff01e8758700195be53" :=
      literal_ne rfl rfl (by decide)
    rw [sampleLog_eq]
    simp [sampleEvent, hne, hne.symm]
  have genesis : ∀ event ∈ sampleLog, event.eventHash ≠ genesisHash := by
    rw [sampleLog_eq, List.forall_mem_cons, List.forall_mem_singleton]
    exact ⟨literal_ne rfl rfl (by decide), literal_ne rfl rfl (by decide)⟩
  constructor
  · intro event other he hother hsame
    have hhash : event.eventHash = other.eventHash := by
      rw [hdigest event he, hdigest other hother, hsame]
    rw [apart event he other hother hhash]
  · intro event he
    have hstored : event.eventHash = event.expectedHash sampleSha256 := sampleLog_valid.digest he
    rw [← hstored]
    exact genesis event he

/-- The log after these calls, as the chain check and a reader of the events see it. -/
structure Chained (calls : List (UInt64 × AuditEventInput)) (state : AuditLogState) :
    Prop where
  ids : ∀ i event, state.events[i]? = some event → event.id.toNat = i + 1
  first : ∀ event, state.events[0]? = some event → event.previousHash = genesisHash
  linked : ∀ i event next, state.events[i]? = some event → state.events[i + 1]? = some next →
    next.previousHash = event.eventHash
  last : state.lastHash = (state.events.getLast?.map (·.eventHash)).getD genesisHash
  stored : List.Forall₂ StoredBy calls state.events
  hashed : ∀ event ∈ state.events, event.eventHash = event.expectedHash sha256
  verified : state.verifyIntegrity sha256 = true
  kept : ∀ earlier, earlier <+: calls → (recordAll sha256 earlier).events <+: state.events

private theorem events_isPrefix (calls more : List (UInt64 × AuditEventInput)) :
    (recordAll sha256 calls).events <+: (recordAll sha256 (calls ++ more)).events := by
  induction more using List.reverseRecOn with
  | nil => rw [List.append_nil]
  | append_singleton more call ih =>
    rw [← List.append_assoc, recordAll_concat]
    exact ih.trans (List.prefix_append ..)

/-- The invariant of the audit log, after any calls. -/
theorem recordAll_chained (calls : List (UInt64 × AuditEventInput))
    (bound : calls.length < 2 ^ 64) : Chained sha256 calls (recordAll sha256 calls) := by
  have h := recorded sha256 calls
  constructor
  · intro i event hget
    have hi : i < calls.length := by
      rw [h.stored.length_eq]
      exact (List.getElem?_eq_some_iff.mp hget).1
    have hsize : UInt64.size = 2 ^ 64 := rfl
    rw [h.ids i event hget, UInt64.toNat_ofNat_of_lt' (by omega)]
  · exact fun event hget => h.valid.head hget
  · exact fun i event next hget hnext => h.valid.link hget hnext
  · rw [h.last, HashChain.tip_eq_getLast]
    rfl
  · exact h.stored
  · exact fun event hmem => h.valid.digest hmem
  · exact verifyChain_iff.mpr h.valid
  · rintro earlier ⟨more, rfl⟩
    exact events_isPrefix sha256 earlier more

theorem recordAll_chained_two : Chained sampleSha256 sampleCalls
    (recordAll sampleSha256 sampleCalls) :=
  recordAll_chained sampleSha256 sampleCalls (by decide)

/-! What the chain check accepts. -/

variable {sha256}

/-- A stored event is told from another one with its hashes, unless only the border between its
    actor and its message moves. -/
theorem canonical_covers_content_iff {first second : AuditEvent}
    (same : first.previousHash = second.previousHash) :
    ((first.canonical = second.canonical → SameContent first second) ↔
      ¬MovesBorder first second) ∧
    ∀ {sha256 : ByteArray → List UInt8} {events : List AuditEvent} {i : Nat},
      verifyChain sha256 events = true → events[i]? = some first →
      second.eventHash = first.eventHash → CollisionFree sha256 [first, second] →
      ((verifyChain sha256 (events.set i second) = true → SameContent first second) ↔
        ¬MovesBorder first second) := by
  have covers : (first.canonical = second.canonical → SameContent first second) ↔
      ¬MovesBorder first second := by
    rw [canonical_eq_iff same, sameJoined_iff]
    constructor
    · intro h hmoves
      exact not_sameContent_of_movesBorder hmoves (h (Or.inr hmoves))
    · intro h hjoined
      exact hjoined.resolve_right h
  refine ⟨covers, ?_⟩
  intro sha256 events i accepted hget hhash free
  rw [← covers]
  refine imp_congr_left ?_
  have valid := verifyChain_iff.mp accepted
  rw [verifyChain_iff, HashChain.valid_set valid hget same.symm hhash, valid.digest
    (List.mem_of_getElem? hget)]
  constructor
  · intro h
    have hdigits : hexDigits _ = hexDigits _ := String.ofList_injective h
    exact free.collision (by simp) (by simp) (hexDigits_injective hdigits)
  · intro h
    rw [show (auditChain sha256).content second = first.canonical from h.symm]
    rfl

theorem canonical_covers_content_message :
    (verifyChain sampleSha256 (sampleLog.set 0 (sampleEvent "exit")) = true →
      SameContent (sampleEvent "out") (sampleEvent "exit")) ↔
      ¬MovesBorder (sampleEvent "out") (sampleEvent "exit") := by
  have collision : ∀ event ∈ [sampleEvent "out", sampleEvent "exit"],
      ∀ other ∈ [sampleEvent "out", sampleEvent "exit"],
      sampleSha256 event.canonical.toByteArray = sampleSha256 other.canonical.toByteArray →
      event.canonical = other.canonical := by decide +kernel
  have genesis : ∀ event ∈ [sampleEvent "out", sampleEvent "exit"],
      event.expectedHash sampleSha256 ≠ genesisHash := by decide +kernel
  have found : sampleLog[0]? = some (sampleEvent "out") := by rw [sampleLog_eq]; rfl
  have same : (sampleEvent "out").previousHash = (sampleEvent "exit").previousHash := rfl
  have hhash : (sampleEvent "exit").eventHash = (sampleEvent "out").eventHash := rfl
  exact (canonical_covers_content_iff same).2 sampleLog_accepted found hhash
    ⟨fun he hother => collision _ he _ hother, fun he => genesis _ he⟩

private def opsEvent (actor message : String) : AuditEvent :=
  ⟨1, .terminalFailed, some actor, message, 5, genesisHash, sampleHash⟩

theorem canonical_misses_border :
    (opsEvent "ops" "a: b").previousHash = (opsEvent "ops:a" " b").previousHash ∧
      (opsEvent "ops" "a: b").canonical = (opsEvent "ops:a" " b").canonical ∧
      ¬SameContent (opsEvent "ops" "a: b") (opsEvent "ops:a" " b") := by
  refine ⟨rfl, by decide +kernel, ?_⟩
  rintro ⟨-, -, hactor, -⟩
  exact absurd hactor (by decide)

/-- A list over the events of a log is accepted only if it is the log, unless it is a proper
    start of the log. -/
theorem verifyChain_only_log_iff {calls : List (UInt64 × AuditEventInput)}
    {events : List AuditEvent} (made : events ⊆ (recordAll sha256 calls).events)
    (free : CollisionFree sha256 (recordAll sha256 calls).events) :
    (verifyChain sha256 events = true → events = (recordAll sha256 calls).events) ↔
      ¬(events <+: (recordAll sha256 calls).events ∧
        events ≠ (recordAll sha256 calls).events) := by
  have valid := (recorded sha256 calls).valid
  have accepted : verifyChain sha256 events = true ↔
      events <+: (recordAll sha256 calls).events := by
    rw [verifyChain_iff]
    constructor
    · intro h
      exact HashChain.prefix_of_subset valid (soundOn_of_valid free valid) h made
    · exact fun h => valid.of_prefix h
  rw [accepted]
  tauto

theorem verifyChain_only_log_dropped :
    (verifyChain sampleSha256 (sampleLog.drop 1) = true → sampleLog.drop 1 = sampleLog) ↔
      ¬(sampleLog.drop 1 <+: sampleLog ∧ sampleLog.drop 1 ≠ sampleLog) :=
  verifyChain_only_log_iff (List.drop_subset 1 sampleLog) sample_collisionFree

theorem verifyChain_accepts_start : sampleLog.take 1 ⊆ sampleLog ∧
    CollisionFree sampleSha256 sampleLog ∧
    verifyChain sampleSha256 (sampleLog.take 1) = true ∧ sampleLog.take 1 ≠ sampleLog := by
  refine ⟨List.take_subset 1 sampleLog, sample_collisionFree, ?_, ?_⟩
  · exact verifyChain_iff.mpr (sampleLog_valid.of_prefix (List.take_prefix 1 sampleLog))
  · rw [sampleLog_eq]
    decide

/-- Two accepted lists with one last hash agree event by event, back to the first. -/
theorem tip_pins_log {events others : List AuditEvent}
    (accepted : verifyChain sha256 events = true) (accepted' : verifyChain sha256 others = true)
    (free : CollisionFree sha256 (events ++ others)) {last last' : AuditEvent}
    (hlast : events.getLast? = some last) (hlast' : others.getLast? = some last')
    (tips : last.eventHash = last'.eventHash) :
    List.Forall₂ (fun event other => event.previousHash = other.previousHash ∧
      event.eventHash = other.eventHash ∧ event.canonical = other.canonical) events others := by
  have valid := verifyChain_iff.mp accepted
  have valid' := verifyChain_iff.mp accepted'
  have colons : ∀ event ∈ events ++ others, ':' ∉ event.previousHash.toList := by
    intro event hmem
    rcases List.mem_append.mp hmem with hmem | hmem
    · exact colon_not_mem_previous valid colon_not_mem_genesis hmem
    · exact colon_not_mem_previous valid' colon_not_mem_genesis hmem
  refine HashChain.same_of_tip_eq valid valid' (soundOn free colons) ?_
  rw [HashChain.tip_eq_getLast, HashChain.tip_eq_getLast, hlast, hlast']
  exact tips

theorem tip_pins_log_two :
    List.Forall₂ (fun event other => event.previousHash = other.previousHash ∧
      event.eventHash = other.eventHash ∧ event.canonical = other.canonical)
      sampleLog sampleLog := by
  obtain ⟨last, hlast⟩ : ∃ last, sampleLog.getLast? = some last := by
    rw [sampleLog_eq]
    exact ⟨_, rfl⟩
  have free : CollisionFree sampleSha256 (sampleLog ++ sampleLog) :=
    ⟨fun he hother => sample_collisionFree.collision (by simpa using he) (by simpa using hother),
      fun he => sample_collisionFree.genesis (by simpa using he)⟩
  exact tip_pins_log sampleLog_accepted sampleLog_accepted free hlast hlast rfl

end Sunbolt.Audit
