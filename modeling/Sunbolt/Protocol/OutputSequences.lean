/- Module: Sunbolt/Protocol/OutputSequences
   scope: sunbolt-protocol/src/transport.rs
   digest: The output sequences that a stream may have, one accepted after the other. -/

import Sunbolt.Protocol.Transport
import Mathlib.Data.List.Chain

set_option autoImplicit false
set_option relaxedAutoImplicit false

namespace Sunbolt.Protocol

/-- Each sequence is accepted as the next of the one before it. -/
def AcceptedStream (sequences : List TerminalOutputSequence) : Prop :=
  sequences.IsChain (fun previous received =>
    validateNextTerminalOutputSequence previous received = .ok ())

/-- Each number is one more than the one before it, and none comes twice. -/
def CountsUp (sequences : List TerminalOutputSequence) : Prop :=
  sequences.IsChain (fun previous received => received.val = previous.val + 1) ∧ sequences.Nodup

/-- The largest number is its own successor, and is accepted again. -/
theorem last_sequence_repeats :
    AcceptedStream [⟨u64Max⟩, ⟨u64Max⟩] ∧ ¬CountsUp [⟨u64Max⟩, ⟨u64Max⟩] := by
  constructor
  · exact List.isChain_pair.mpr (validateNextTerminalOutputSequence_eq_ok.mpr rfl)
  · rintro ⟨-, nodup⟩
    exact (List.nodup_cons.mp nodup).1 List.mem_cons_self

/-- What holds between a number and any later one of its stream. -/
private def Precedes (previous received : TerminalOutputSequence) : Prop :=
  received.val ≤ u64Max ∧ (previous.val < u64Max → previous.val < received.val) ∧
    (u64Max ≤ previous.val → received.val = u64Max)

private instance : Trans Precedes Precedes Precedes where
  trans := by
    rintro first middle last ⟨hmiddle, hrises, hstays⟩ ⟨hlast, rises, stays⟩
    refine ⟨hlast, fun hbelow => ?_, fun hfull => stays (hstays hfull).ge⟩
    rcases lt_or_eq_of_le hmiddle with hlow | hhigh
    · exact (hrises hbelow).trans (rises hlow)
    · exact hbelow.trans_eq (stays hhigh.ge).symm

private theorem precedes_next {previous received : TerminalOutputSequence}
    (accepted : validateNextTerminalOutputSequence previous received = .ok ()) :
    Precedes previous received := by
  rw [validateNextTerminalOutputSequence_eq_ok] at accepted
  have hval : received.val = min (previous.val + 1) u64Max :=
    congrArg TerminalOutputSequence.val accepted
  rw [Precedes, hval]
  omega

variable {sequences : List TerminalOutputSequence}

theorem AcceptedStream.val_succ (accepted : AcceptedStream sequences) (i : Nat)
    (h : i + 1 < sequences.length) :
    sequences[i + 1].val = min (sequences[i].val + 1) u64Max :=
  congrArg TerminalOutputSequence.val
    (validateNextTerminalOutputSequence_eq_ok.mp (List.IsChain.getElem accepted i h))

/-- Counted from the first one, the numbers go up by one until they stay at the largest. -/
theorem AcceptedStream.val_getElem (accepted : AcceptedStream sequences) (i : Nat)
    (h : i + 1 < sequences.length) :
    sequences[i + 1].val = min (sequences[0].val + (i + 1)) u64Max := by
  induction i with
  | zero => exact accepted.val_succ 0 h
  | succ i ih =>
    rw [accepted.val_succ (i + 1) h, ih (by omega)]
    omega

/-- An accepted stream goes up by one until it stays at the largest number; no other number
    comes twice. -/
theorem accepted_stream_counts (accepted : AcceptedStream sequences) :
    sequences.IsChain (fun previous received =>
        received.val = if previous.val < u64Max then previous.val + 1 else u64Max) ∧
      (∀ (i : Nat) (h : i + 1 < sequences.length),
        sequences[i + 1].val = min (sequences[0].val + (i + 1)) u64Max) ∧
      sequences.Pairwise (fun previous received =>
        previous = received → previous.val = u64Max) := by
  refine ⟨accepted.imp fun previous received hnext => ?_, accepted.val_getElem, ?_⟩
  · obtain ⟨hrange, hrises, hstays⟩ := precedes_next hnext
    rw [validateNextTerminalOutputSequence_eq_ok] at hnext
    have hval : received.val = min (previous.val + 1) u64Max :=
      congrArg TerminalOutputSequence.val hnext
    split_ifs with hbelow
    · omega
    · omega
  · have hlater : sequences.Pairwise Precedes :=
      List.isChain_iff_pairwise.mp (accepted.imp fun _ _ hnext => precedes_next hnext)
    refine hlater.imp fun hprecedes heq => ?_
    obtain ⟨hrange, hrises, hstays⟩ := hprecedes
    rw [← heq] at hrange hrises hstays
    exact le_antisymm hrange (not_lt.mp fun hbelow => lt_irrefl _ (hrises hbelow))

/-- The end of the range, reached and repeated. -/
private def lastSequences : List TerminalOutputSequence :=
  [⟨u64Max - 1⟩, ⟨u64Max⟩, ⟨u64Max⟩]

theorem accepted_stream_counts_last :
    lastSequences.IsChain (fun previous received =>
        received.val = if previous.val < u64Max then previous.val + 1 else u64Max) ∧
      (∀ (i : Nat) (h : i + 1 < lastSequences.length),
        lastSequences[i + 1].val = min (lastSequences[0].val + (i + 1)) u64Max) ∧
      lastSequences.Pairwise (fun previous received =>
        previous = received → previous.val = u64Max) := by
  refine accepted_stream_counts ?_
  have hnext : ∀ previous : TerminalOutputSequence,
      validateNextTerminalOutputSequence previous previous.next = .ok () :=
    fun _ => validateNextTerminalOutputSequence_eq_ok.mpr rfl
  exact List.isChain_cons_cons.mpr ⟨hnext ⟨u64Max - 1⟩, List.isChain_pair.mpr (hnext ⟨u64Max⟩)⟩

end Sunbolt.Protocol
