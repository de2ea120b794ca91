/- Module: Sunbolt/Audit/Canonical
   scope: sunbolt-audit/src/chain.rs
   digest: Which audit events the hashed text tells apart. -/

import Sunbolt.Audit.Chain

set_option autoImplicit false
set_option relaxedAutoImplicit false

namespace Sunbolt.Audit

open Sunbolt.Library

/-! Digits, hex digests and kind names contain no colon. -/

private theorem colon_not_mem_digits (n : Nat) : ':' ∉ (toString n).toList := by
  intro hmem
  have hdigits : ':' ∈ Nat.toDigits 10 n := by simpa using hmem
  have hdigit := Nat.isDigit_of_mem_toDigits (by decide) (by decide) hdigits
  exact absurd hdigit (by decide)

private theorem colon_not_mem_kind (kind : AuditEventKind) : ':' ∉ kind.asStr.toList := by
  cases kind <;> decide

private def auditEventKinds : List AuditEventKind :=
  [.userLoginSuccess, .userLoginFailed, .userLogout, .userMfaChallenge, .userMfaSuccess,
    .terminalOpened, .terminalDetached, .terminalReattached, .terminalTerminated,
    .terminalClosed, .terminalFailed, .agentTransportNegotiated, .agentConnected,
    .agentDisconnected, .agentAuthenticationFailed, .nodeEnrolled, .nodeCredentialRotated,
    .nodeRevoked, .routeSelected, .routeFailed]

private theorem asStr_injective {kind other : AuditEventKind}
    (h : kind.asStr = other.asStr) : kind = other := by
  have listed : ∀ kind : AuditEventKind, kind ∈ auditEventKinds := by
    intro kind
    cases kind <;> decide
  have table : ∀ kind ∈ auditEventKinds, ∀ other ∈ auditEventKinds,
      kind.asStr = other.asStr → kind = other := by decide
  exact table kind (listed kind) other (listed other) h

private theorem hexDigit_ne_colon (n : UInt8) : hexDigit n ≠ ':' := by
  have hdigits : ':' ∉ "0123456789abcdef".toList := by decide
  unfold hexDigit
  cases hget : "0123456789abcdef".toList[n.toNat]? with
  | none => decide
  | some c =>
    intro heq
    exact hdigits (heq ▸ List.mem_of_getElem? hget)

theorem colon_not_mem_hexDigits (bytes : List UInt8) : ':' ∉ hexDigits bytes := by
  intro hmem
  obtain ⟨byte, -, hbyte⟩ := List.mem_flatMap.mp hmem
  rcases List.mem_cons.mp hbyte with heq | hbyte
  · exact hexDigit_ne_colon _ heq.symm
  · exact hexDigit_ne_colon _ (List.mem_singleton.mp hbyte).symm

private theorem hexDigit_injective {m n : UInt8} (hm : m.toNat < 16) (hn : n.toNat < 16)
    (h : hexDigit m = hexDigit n) : m = n := by
  have table : ∀ i : Fin 16, ∀ j : Fin 16,
      ("0123456789abcdef".toList[i.val]?).getD '0' =
        ("0123456789abcdef".toList[j.val]?).getD '0' → i = j := by decide
  have hval := congrArg Fin.val (table ⟨m.toNat, hm⟩ ⟨n.toNat, hn⟩ h)
  exact UInt8.toNat_inj.mp hval

/-- A hex text spells one list of bytes. -/
theorem hexDigits_injective {bytes others : List UInt8}
    (h : hexDigits bytes = hexDigits others) : bytes = others := by
  induction bytes generalizing others with
  | nil =>
    cases others with
    | nil => rfl
    | cons other others => cases h
  | cons byte bytes ih =>
    cases others with
    | nil => cases h
    | cons other others =>
      have hsplit : hexDigit (byte / 16) = hexDigit (other / 16) ∧
          hexDigit (byte % 16) = hexDigit (other % 16) ∧
          hexDigits bytes = hexDigits others := by
        simpa [hexDigits] using h
      obtain ⟨hhigh, hlow, hrest⟩ := hsplit
      have bound : ∀ n : UInt8, (n / 16).toNat < 16 ∧ (n % 16).toNat < 16 := by
        intro n
        have hn := n.toNat_lt
        rw [UInt8.toNat_div, UInt8.toNat_mod]
        constructor
        · change n.toNat / 16 < 16
          omega
        · change n.toNat % 16 < 16
          omega
      have hdiv := hexDigit_injective (bound byte).1 (bound other).1 hhigh
      have hmod := hexDigit_injective (bound byte).2 (bound other).2 hlow
      have hbyte : byte = other := by
        rw [← UInt8.toNat_inj, UInt8.toNat_div, UInt8.toNat_div] at hdiv
        rw [← UInt8.toNat_inj, UInt8.toNat_mod, UInt8.toNat_mod] at hmod
        change byte.toNat / 16 = other.toNat / 16 at hdiv
        change byte.toNat % 16 = other.toNat % 16 at hmod
        apply UInt8.toNat_inj.mp
        omega
      rw [hbyte, ih hrest]

private theorem toString_injective {m n : UInt64} (h : toString m.toNat = toString n.toNat) :
    m = n := by
  have hdigits : Nat.toDigits 10 m.toNat = Nat.toDigits 10 n.toNat := by
    have hlist := congrArg String.toList h
    simpa using hlist
  have hvalue := congrArg (fun digits => Nat.ofDigitChars 10 digits 0) hdigits
  exact UInt64.toNat_inj.mp (by simpa [Nat.ofDigitChars_toDigits] using hvalue)

/-! Reading the fields back. -/

/-- The actor as the hashed text has it. -/
def AuditEvent.actorText (event : AuditEvent) : String := event.actorEmail.getD ""

/-- The fields of an event that its hash is meant to cover. -/
def SameContent (first second : AuditEvent) : Prop :=
  first.id = second.id ∧ first.kind = second.kind ∧ first.actorEmail = second.actorEmail ∧
    first.message = second.message ∧ first.createdAtUnixSecs = second.createdAtUnixSecs

/-- Everything but the border between the actor and the message. -/
def SameJoined (first second : AuditEvent) : Prop :=
  first.id = second.id ∧ first.kind = second.kind ∧
    first.actorText ++ ":" ++ first.message = second.actorText ++ ":" ++ second.message ∧
    first.createdAtUnixSecs = second.createdAtUnixSecs

private theorem split_first_colon {front late other rest : List Char} (hfront : ':' ∉ front)
    (hother : ':' ∉ other) (h : front ++ ':' :: late = other ++ ':' :: rest) :
    front = other ∧ late = rest := by
  induction front generalizing other with
  | nil =>
    cases other with
    | nil => exact ⟨rfl, (List.cons.inj h).2⟩
    | cons c other =>
      have hc : ':' = c := (List.cons.inj h).1
      exact absurd (hc ▸ List.mem_cons_self ..) hother
  | cons b front ih =>
    cases other with
    | nil =>
      have hb : b = ':' := (List.cons.inj h).1
      exact absurd (hb ▸ List.mem_cons_self ..) hfront
    | cons c other =>
      obtain ⟨hhead, htail⟩ := List.cons.inj h
      obtain ⟨heq, hrest⟩ := ih (fun hmem => hfront (List.mem_cons_of_mem b hmem))
        (fun hmem => hother (List.mem_cons_of_mem c hmem)) htail
      exact ⟨by rw [hhead, heq], hrest⟩

private theorem split_last_colon {front late other rest : List Char} (hlate : ':' ∉ late)
    (hrest : ':' ∉ rest) (h : front ++ ':' :: late = other ++ ':' :: rest) :
    front = other ∧ late = rest := by
  have hreverse := congrArg List.reverse h
  simp only [List.reverse_append, List.reverse_cons, List.append_assoc, List.cons_append,
    List.nil_append] at hreverse
  obtain ⟨heq, hback⟩ := split_first_colon (by simpa using hlate) (by simpa using hrest) hreverse
  exact ⟨List.reverse_injective hback, List.reverse_injective heq⟩

private theorem canonical_toList (event : AuditEvent) : event.canonical.toList =
    event.previousHash.toList ++ ':' :: ((toString event.id.toNat).toList ++
      ':' :: (event.kind.asStr.toList ++ ':' :: ((event.actorText ++ ":" ++ event.message).toList ++
        ':' :: (toString event.createdAtUnixSecs.toNat).toList))) := by
  simp [AuditEvent.canonical, canonicalText, AuditEvent.actorText]

/-- Two events after one hash have one canonical text when only the border between the actor
    and the message moves. -/
theorem canonical_eq_iff {first second : AuditEvent}
    (same : first.previousHash = second.previousHash) :
    first.canonical = second.canonical ↔ SameJoined first second := by
  constructor
  · intro h
    have hlist := congrArg String.toList h
    rw [canonical_toList, canonical_toList, same] at hlist
    have hid := List.append_cancel_left hlist
    obtain ⟨hdigits, hkinds⟩ := split_first_colon (colon_not_mem_digits _)
      (colon_not_mem_digits _) (List.cons.inj hid).2
    obtain ⟨hkind, hbodies⟩ := split_first_colon (colon_not_mem_kind _) (colon_not_mem_kind _)
      hkinds
    obtain ⟨hjoined, htime⟩ := split_last_colon (colon_not_mem_digits _)
      (colon_not_mem_digits _) hbodies
    exact ⟨toString_injective (String.toList_injective hdigits),
      asStr_injective (String.toList_injective hkind), String.toList_injective hjoined,
      toString_injective (String.toList_injective htime)⟩
  · rintro ⟨hid, hkind, hjoined, htime⟩
    apply String.toList_injective
    rw [canonical_toList, canonical_toList, same, hid, hkind, hjoined, htime]

/-- The border between the actor and the message is moved across a colon, or an actor that is
    absent is exchanged for an empty one. -/
def MovesBorder (first second : AuditEvent) : Prop :=
  first.id = second.id ∧ first.kind = second.kind ∧
    first.createdAtUnixSecs = second.createdAtUnixSecs ∧
    ((∃ moved, second.actorText = first.actorText ++ ":" ++ moved ∧
        first.message = moved ++ ":" ++ second.message) ∨
      (∃ moved, first.actorText = second.actorText ++ ":" ++ moved ∧
        second.message = moved ++ ":" ++ first.message) ∨
      (first.actorEmail ≠ second.actorEmail ∧ first.actorText = second.actorText ∧
        first.message = second.message))

private theorem border_of_append {actor message other late : List Char}
    (h : actor ++ ':' :: message = other ++ ':' :: late) :
    (actor = other ∧ message = late) ∨
      (∃ moved, other = actor ++ ':' :: moved ∧ message = moved ++ ':' :: late) ∨
      (∃ moved, actor = other ++ ':' :: moved ∧ late = moved ++ ':' :: message) := by
  rcases List.append_eq_append_iff.mp h with ⟨between, hother, hmessage⟩ |
    ⟨between, hactor, hlate⟩
  · cases between with
    | nil => exact Or.inl ⟨by simpa using hother.symm, by simpa using hmessage⟩
    | cons c moved =>
      obtain ⟨rfl, hmoved⟩ := List.cons.inj hmessage
      exact Or.inr (Or.inl ⟨moved, hother, hmoved⟩)
  · cases between with
    | nil => exact Or.inl ⟨by simpa using hactor, by simpa using hlate.symm⟩
    | cons c moved =>
      obtain ⟨rfl, hmoved⟩ := List.cons.inj hlate
      exact Or.inr (Or.inr ⟨moved, hactor, hmoved⟩)

private theorem joined_of_border {actor message other late : String}
    (h : (∃ moved, other = actor ++ ":" ++ moved ∧ message = moved ++ ":" ++ late)) :
    actor ++ ":" ++ message = other ++ ":" ++ late := by
  obtain ⟨moved, rfl, rfl⟩ := h
  simp [String.append_assoc]

theorem sameJoined_iff {first second : AuditEvent} :
    SameJoined first second ↔ SameContent first second ∨ MovesBorder first second := by
  constructor
  · rintro ⟨hid, hkind, hjoined, htime⟩
    have hlist := congrArg String.toList hjoined
    simp only [String.toList_append, List.append_assoc] at hlist
    have pieces : ∀ {text front late : String}, text.toList = front.toList ++ ':' :: late.toList →
        text = front ++ ":" ++ late := by
      intro text front late h
      apply String.toList_injective
      simpa using h
    have texts : ∀ moved : List Char, ∃ text : String, text.toList = moved :=
      fun moved => ⟨String.ofList moved, String.toList_ofList⟩
    rcases border_of_append hlist with ⟨hactor, hmessage⟩ | ⟨moved, hactor, hmessage⟩ |
      ⟨moved, hactor, hmessage⟩
    · have htext := String.toList_injective hactor
      have hbody := String.toList_injective hmessage
      by_cases hemail : first.actorEmail = second.actorEmail
      · exact Or.inl ⟨hid, hkind, hemail, hbody, htime⟩
      · exact Or.inr ⟨hid, hkind, htime, Or.inr (Or.inr ⟨hemail, htext, hbody⟩)⟩
    · obtain ⟨text, rfl⟩ := texts moved
      exact Or.inr ⟨hid, hkind, htime, Or.inl ⟨text, pieces hactor, pieces hmessage⟩⟩
    · obtain ⟨text, rfl⟩ := texts moved
      exact Or.inr ⟨hid, hkind, htime, Or.inr (Or.inl ⟨text, pieces hactor, pieces hmessage⟩)⟩
  · rintro (⟨hid, hkind, hemail, hbody, htime⟩ | ⟨hid, hkind, htime, hborder⟩)
    · exact ⟨hid, hkind, by rw [AuditEvent.actorText, hemail, hbody, AuditEvent.actorText], htime⟩
    · refine ⟨hid, hkind, ?_, htime⟩
      rcases hborder with hmoved | hmoved | ⟨-, htext, hbody⟩
      · exact joined_of_border hmoved
      · exact (joined_of_border hmoved).symm
      · rw [htext, hbody]

private theorem ne_append_colon (text moved : String) : text ≠ text ++ ":" ++ moved := by
  intro h
  have hlength := congrArg (fun s => s.toList.length) h
  simp at hlength

theorem not_sameContent_of_movesBorder {first second : AuditEvent}
    (h : MovesBorder first second) : ¬SameContent first second := by
  rintro ⟨-, -, hemail, -, -⟩
  have htext : first.actorText = second.actorText := by
    rw [AuditEvent.actorText, hemail, AuditEvent.actorText]
  obtain ⟨-, -, -, ⟨moved, hactor, -⟩ | ⟨moved, hactor, -⟩ | ⟨hne, -⟩⟩ := h
  · exact ne_append_colon first.actorText moved (htext.trans hactor)
  · exact ne_append_colon second.actorText moved (htext.symm.trans hactor)
  · exact hne hemail

/-- The hash an event refers to can be read off its canonical text when it has no colon. -/
theorem previousHash_of_canonical {first second : AuditEvent}
    (hfirst : ':' ∉ first.previousHash.toList) (hsecond : ':' ∉ second.previousHash.toList)
    (h : first.canonical = second.canonical) : first.previousHash = second.previousHash := by
  have hlist := congrArg String.toList h
  rw [canonical_toList, canonical_toList] at hlist
  exact String.toList_injective (split_first_colon hfirst hsecond hlist).1

end Sunbolt.Audit
