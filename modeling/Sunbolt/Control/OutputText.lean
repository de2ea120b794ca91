/- Module: Sunbolt/Control/OutputText
   scope: sunbolt-control/src/terminal/mod.rs, sunbolt-agent/src/lib.rs
   digest: The recorded output of a terminal is the text of its stream exactly when no read cuts a
     character. -/

import Sunbolt.Agent.TerminalRuntime
import Sunbolt.Control.SessionLedger

set_option autoImplicit false
set_option relaxedAutoImplicit false

namespace Sunbolt.Control

open Sunbolt.Library
open Sunbolt.Library.Service (own)
open Sunbolt.Protocol (TerminalSessionId TerminalServerMessage)
open Sunbolt.Agent (ReadCall)

/-- The data of the output a call recorded. -/
def recordedText (x : Interaction Action Reply) : List Char :=
  match recordedBy x with
  | some (.output _ _ data) => data.toList
  | _ => []

/-- Every output of the task found its session in the registry. -/
def FindsSession (past : Past) : Prop :=
  ∀ sessionId data, ¬Did past (.terminal (.recordOutput sessionId data)) none

/-- The reader starts a turn of its loop, or has left it. -/
def BetweenReads (pty : Nat) (action : Action) : Prop :=
  action = .terminal (.isClosed pty) ∨ action = .terminal (.waitExit pty)

theorem recordedText_eq {past : Past} (found : FindsSession past)
    (recorded : ∀ {sessionId data message},
      Did past (.terminal (.recordOutput sessionId data)) (some message) →
      ∃ sequence, message = .output sessionId sequence data) :
    past.flatMap recordedText = (texts past).flatMap String.toList := by
  rw [texts, List.flatMap_assoc]
  refine List.flatMap_congr fun x hx => ?_
  obtain ⟨action, reply⟩ := x
  cases action with
  | terminal action =>
    cases action with
    | recordOutput sessionId data =>
      cases reply with
      | none => exact absurd hx (found sessionId data)
      | some message =>
        obtain ⟨sequence, rfl⟩ := recorded hx
        simp [recordedText, recordedBy, textOf]
    | _ => rfl
  | _ => rfl

theorem flatMap_outputText (chunks : List (List UInt8)) :
    (chunks.map outputText).flatMap String.toList = chunks.flatMap Utf8Lossy.decode := by
  rw [List.flatMap_map]
  refine List.flatMap_congr fun chunk _ => ?_
  rw [outputText, String.toList_ofList]

section Readers

variable {config : TerminalSessionConfig} {nodes : NodeEnrollmentState} {history : History}
  {pool : ControlPool}

/-- Between two reads the reader has recorded the text of every chunk it has read. -/
theorem Reaches.recorded_chunks (h : Reaches config nodes history pool)
    {front back : History} {e : ControlEvent} (hsplit : history = front ++ e :: back)
    {pty output : Nat} {sessionId : TerminalSessionId}
    (reader : e.origin = .ptyReader pty sessionId output) (between : BetweenReads pty e.action)
    (found : FindsSession (own e.task front)) :
    (own e.task front).flatMap recordedText =
      (chunks (own e.task front)).flatMap Utf8Lossy.decode := by
  have next := h.next hsplit
  have act : readerAct pty sessionId output (own e.task front) e.action := by
    have hact := next.act
    rw [reader] at hact
    exact hact
  have idle : ReaderIdle (own e.task front) := by
    rcases between with haction | haction
    · rw [haction] at act
      exact act.2
    · rw [haction] at act
      exact act.2
  rw [recordedText_eq found next.ledger.recorded, idle.texts, flatMap_outputText]

/-- What a reader of the control plane records, and what an agent reports of a series of reads,
    is the text of the stream exactly when no read starts inside a character. -/
theorem output_text_iff (config : TerminalSessionConfig) (nodes : NodeEnrollmentState) :
    (∀ {history pool front back e pty sessionId output text},
      Reaches config nodes history pool → history = front ++ e :: back →
      e.origin = .ptyReader pty sessionId output → BetweenReads pty e.action →
      FindsSession (own e.task front) →
      (chunks (own e.task front)).flatten = Utf8Lossy.encode text →
      ((own e.task front).flatMap recordedText = text ↔
        ∀ chunk ∈ chunks (own e.task front), Utf8Lossy.StartsClean chunk)) ∧
    ∀ (sessionId : TerminalSessionId) (calls : List ReadCall) (text : List Char),
      (calls.flatMap (·.chunk sessionId)).flatten = Utf8Lossy.encode text →
      (calls.flatMap (·.text sessionId) = text ↔
        ∀ chunk ∈ calls.flatMap (·.chunk sessionId), Utf8Lossy.StartsClean chunk) := by
  constructor
  · intro history pool front back e pty sessionId output text h hsplit reader between found stream
    rw [h.recorded_chunks hsplit reader between found]
    exact Utf8Lossy.flatMap_decode_eq_iff stream
  · intro sessionId calls text stream
    exact Agent.readOutput_text_iff sessionId calls stream

end Readers

/-- The reader of Alice's session reads a two-byte character at once. -/
private def wholeRead : List (Label Arrival Choice) :=
  [.move 1 .none, .move 1 (.read (.ok [0xC3, 0xA9])), .move 1 .none, .move 1 .none,
    .move 1 .none]

/-- It reads the character's bytes one by one. -/
private def cutRead : List (Label Arrival Choice) :=
  [.move 1 .none, .move 1 (.read (.ok [0xC3])), .move 1 .none, .move 1 .none,
    .move 1 .none, .move 1 (.read (.ok [0xA9])), .move 1 .none, .move 1 .none, .move 1 .none]

private def whole : History :=
  calls defaultTerminalSessionConfig ⟨[], [], []⟩ (localOpening 0 "alice" "t0" ++ wholeRead)

private def cut : History :=
  calls defaultTerminalSessionConfig ⟨[], [], []⟩ (localOpening 0 "alice" "t0" ++ cutRead)

private theorem findsSession_of_all {past : Past} (h : past.all (fun x => match x with
      | ⟨.terminal (.recordOutput ..), none⟩ => false
      | _ => true) = true) : FindsSession past := by
  intro sessionId data hd
  have hx := List.all_eq_true.mp h _ hd
  cases hx

theorem output_text_whole : ∃ pool,
    Reaches defaultTerminalSessionConfig ⟨[], [], []⟩ whole pool ∧
    chunks (own 1 (whole.take 14)) = [[0xC3, 0xA9]] ∧
    (own 1 (whole.take 14)).flatMap recordedText = ['é'] := by
  obtain ⟨pool, h⟩ : ∃ pool, Reaches defaultTerminalSessionConfig ⟨[], [], []⟩ whole pool :=
    reaches_calls rfl
  obtain ⟨e, he, htask, reader, haction⟩ : ∃ e, whole[14]? = some e ∧ e.task = 1 ∧
      e.origin = .ptyReader 0 (sessionIdOf 1) 0 ∧ e.action = .terminal (.isClosed 0) :=
    ⟨_, rfl, rfl, rfl, rfl⟩
  have found : FindsSession (own 1 (whole.take 14)) := findsSession_of_all rfl
  have read : chunks (own 1 (whole.take 14)) = [[0xC3, 0xA9]] := rfl
  have clean : ∀ chunk ∈ chunks (own 1 (whole.take 14)), Utf8Lossy.StartsClean chunk := by
    rw [read]
    intro chunk hchunk
    obtain rfl := List.mem_singleton.mp hchunk
    intro b hb
    obtain rfl : 0xC3 = b := Option.some.inj hb
    rfl
  have stream : (chunks (own 1 (whole.take 14))).flatten = Utf8Lossy.encode ['é'] := by
    rw [read]
    decide
  rw [← htask] at found clean stream
  have htext := ((output_text_iff _ _).1 h (split_at he) reader (Or.inl haction) found stream).mpr
    clean
  exact ⟨pool, h, read, htask ▸ htext⟩

/-- A character whose bytes come in two reads is recorded as two replacement characters. -/
theorem cut_read_loses_character : ∃ pool e,
    Reaches defaultTerminalSessionConfig ⟨[], [], []⟩ cut pool ∧
    cut = cut.take 18 ++ e :: cut.drop 19 ∧ e.origin = .ptyReader 0 (sessionIdOf 1) 0 ∧
    BetweenReads 0 e.action ∧ FindsSession (own e.task (cut.take 18)) ∧
    (chunks (own e.task (cut.take 18))).flatten = Utf8Lossy.encode ['é'] ∧
    (own e.task (cut.take 18)).flatMap recordedText ≠ ['é'] := by
  obtain ⟨pool, h⟩ : ∃ pool, Reaches defaultTerminalSessionConfig ⟨[], [], []⟩ cut pool :=
    reaches_calls rfl
  obtain ⟨e, he, htask, reader, haction⟩ : ∃ e, cut[18]? = some e ∧ e.task = 1 ∧
      e.origin = .ptyReader 0 (sessionIdOf 1) 0 ∧ e.action = .terminal (.isClosed 0) :=
    ⟨_, rfl, rfl, rfl, rfl⟩
  have found : FindsSession (own 1 (cut.take 18)) := findsSession_of_all rfl
  have read : chunks (own 1 (cut.take 18)) = [[0xC3], [0xA9]] := rfl
  have stream : (chunks (own 1 (cut.take 18))).flatten = Utf8Lossy.encode ['é'] := by
    rw [read]
    decide
  have shown : (own 1 (cut.take 18)).flatMap recordedText ≠ ['é'] := by
    decide +kernel
  rw [← htask] at found stream shown
  exact ⟨pool, e, h, split_at he, reader, Or.inl haction, found, stream, shown⟩

end Sunbolt.Control
