/- Module: Sunbolt/Library/HashChain
   scope: general
   digest: Lists of entries linked by the hash of the entry before. -/

import Mathlib.Data.List.Induction
import Mathlib.Data.List.Infix
import Mathlib.Data.List.Forall2

set_option autoImplicit false
set_option relaxedAutoImplicit false

namespace Sunbolt.Library

universe u v w

/-- What an entry says of the entry before it, its own hash, what that hash should be the digest
    of, and the hash the first entry refers to. -/
structure HashChain (E : Type u) (C : Type v) (H : Type w) where
  previous : E → H
  hash : E → H
  content : E → C
  digest : C → H
  genesis : H

namespace HashChain

variable {E : Type u} {C : Type v} {H : Type w} (K : HashChain E C H)

/-- The entries are linked from `expected` on, and each hash is the digest of its content. -/
def Valid : H → List E → Prop
  | _, [] => True
  | expected, e :: es =>
    K.previous e = expected ∧ K.hash e = K.digest (K.content e) ∧ Valid (K.hash e) es

/-- The hash the next entry has to refer to. -/
def tip : H → List E → H
  | start, [] => start
  | _, e :: es => tip (K.hash e) es

/-- No two of the entries collide, none of them hashes to the genesis value, and the content of
    an entry fixes the hash it refers to. -/
structure SoundOn (es : List E) : Prop where
  digest : ∀ {e other}, e ∈ es → other ∈ es →
    K.digest (K.content e) = K.digest (K.content other) → K.content e = K.content other
  genesis : ∀ {e}, e ∈ es → K.digest (K.content e) ≠ K.genesis
  previous : ∀ {e other}, e ∈ es → other ∈ es → K.content e = K.content other →
    K.previous e = K.previous other

/-- Two entries that no hash of the chain tells apart. -/
def Same (e other : E) : Prop :=
  K.previous e = K.previous other ∧ K.hash e = K.hash other ∧ K.content e = K.content other

variable {K} {start : H} {es rest : List E} {e : E}

@[simp] theorem tip_append : K.tip start (es ++ rest) = K.tip (K.tip start es) rest := by
  induction es generalizing start with
  | nil => rfl
  | cons e es ih => exact ih

theorem valid_append :
    K.Valid start (es ++ rest) ↔ K.Valid start es ∧ K.Valid (K.tip start es) rest := by
  induction es generalizing start with
  | nil => simp [Valid, tip]
  | cons e es ih =>
    simp only [List.cons_append, Valid, tip, ih]
    tauto

theorem valid_concat : K.Valid start (es ++ [e]) ↔
    K.Valid start es ∧ K.previous e = K.tip start es ∧ K.hash e = K.digest (K.content e) := by
  rw [valid_append]
  simp [Valid]

theorem tip_concat : K.tip start (es ++ [e]) = K.hash e := by
  rw [tip_append]
  rfl

theorem tip_eq_getLast : K.tip start es = (es.getLast?.map K.hash).getD start := by
  rcases List.eq_nil_or_concat es with rfl | ⟨front, last, rfl⟩
  · rfl
  · rw [List.concat_eq_append, tip_concat, List.getLast?_concat]
    rfl

theorem Valid.head (h : K.Valid start es) (hfirst : es[0]? = some e) : K.previous e = start := by
  cases es with
  | nil => cases hfirst
  | cons first es =>
    cases hfirst
    exact h.1

theorem Valid.link (h : K.Valid start es) {i : Nat} {next : E} (hget : es[i]? = some e)
    (hnext : es[i + 1]? = some next) : K.previous next = K.hash e := by
  induction es generalizing start i with
  | nil => cases hget
  | cons first es ih =>
    obtain ⟨-, -, hrest⟩ := h
    cases i with
    | zero =>
      cases hget
      exact hrest.head hnext
    | succ i => exact ih hrest hget hnext

theorem Valid.digest (h : K.Valid start es) (hmem : e ∈ es) :
    K.hash e = K.digest (K.content e) := by
  induction es generalizing start with
  | nil => cases hmem
  | cons first es ih =>
    obtain ⟨-, hfirst, hrest⟩ := h
    rcases List.mem_cons.mp hmem with rfl | hmem
    · exact hfirst
    · exact ih hrest hmem

/-- An entry may be replaced by one with the same hashes when its content has the digest. -/
theorem valid_set {i : Nat} {other : E} (h : K.Valid start es) (hget : es[i]? = some e)
    (hprevious : K.previous other = K.previous e) (hhash : K.hash other = K.hash e) :
    K.Valid start (es.set i other) ↔ K.hash e = K.digest (K.content other) := by
  induction es generalizing start i with
  | nil => cases hget
  | cons first es ih =>
    obtain ⟨hfirst, hdigest, hrest⟩ := h
    cases i with
    | zero =>
      cases hget
      simp [Valid, hprevious, hfirst, hhash, hrest]
    | succ i =>
      rw [List.set_cons_succ, Valid, ih hrest hget]
      exact ⟨fun h => h.2.2, fun h => ⟨hfirst, hdigest, h⟩⟩

/-- What a valid chain starts with is valid. -/
theorem Valid.of_prefix (h : K.Valid start es) (hfront : rest <+: es) : K.Valid start rest := by
  obtain ⟨late, rfl⟩ := hfront
  exact (valid_append.mp h).1

theorem SoundOn.mono (h : K.SoundOn es) (hsub : rest ⊆ es) : K.SoundOn rest where
  digest he hother := h.digest (hsub he) (hsub hother)
  genesis he := h.genesis (hsub he)
  previous he hother := h.previous (hsub he) (hsub hother)

/-- The tip of a non-empty chain is a digest, never the genesis value. -/
theorem tip_ne_genesis (valid : K.Valid start (es ++ [e])) (sound : K.SoundOn (es ++ [e])) :
    K.tip start (es ++ [e]) ≠ K.genesis := by
  obtain ⟨-, -, hhash⟩ := valid_concat.mp valid
  rw [tip_concat, hhash]
  exact sound.genesis (List.mem_append_right es (List.mem_singleton_self e))

/-- Two chains with one tip agree entry by entry: walk back from the tip. -/
theorem same_of_tip_eq {others : List E} (valid : K.Valid K.genesis es)
    (valid' : K.Valid K.genesis others) (sound : K.SoundOn (es ++ others))
    (tips : K.tip K.genesis es = K.tip K.genesis others) : List.Forall₂ K.Same es others := by
  induction es using List.reverseRecOn generalizing others with
  | nil =>
    rcases List.eq_nil_or_concat others with rfl | ⟨front, last, rfl⟩
    · exact List.Forall₂.nil
    · rw [List.concat_eq_append] at valid' sound tips
      have hne := tip_ne_genesis valid' (sound.mono (List.subset_append_right [] _))
      exact absurd tips.symm hne
  | append_singleton es e ih =>
    rcases List.eq_nil_or_concat others with rfl | ⟨front, last, rfl⟩
    · have hne := tip_ne_genesis valid (sound.mono (List.subset_append_left _ []))
      exact absurd tips hne
    · rw [List.concat_eq_append] at valid' sound tips ⊢
      have he : e ∈ es ++ [e] ++ (front ++ [last]) := by simp
      have hlast : last ∈ es ++ [e] ++ (front ++ [last]) := by simp
      obtain ⟨hes, hprevious, hhash⟩ := valid_concat.mp valid
      obtain ⟨hfront, hprevious', hhash'⟩ := valid_concat.mp valid'
      rw [tip_concat, tip_concat] at tips
      have hcontent : K.content e = K.content last :=
        sound.digest he hlast (hhash.symm.trans (tips.trans hhash'))
      have hback : K.previous e = K.previous last := sound.previous he hlast hcontent
      have hsub : es ++ front ⊆ es ++ [e] ++ (front ++ [last]) := by
        intro x hx
        rcases List.mem_append.mp hx with hx | hx
        · simp [hx]
        · simp [hx]
      have hinit := ih hes hfront (sound.mono hsub)
        (hprevious.symm.trans (hback.trans hprevious'))
      exact List.rel_append hinit (List.Forall₂.cons ⟨hback, tips, hcontent⟩ List.Forall₂.nil)

/-- A valid chain made of entries of another valid chain starts that chain. -/
theorem prefix_of_subset (valid : K.Valid K.genesis es) (sound : K.SoundOn es)
    (valid' : K.Valid K.genesis rest) (hsub : rest ⊆ es) : rest <+: es := by
  induction rest using List.reverseRecOn with
  | nil => exact List.nil_prefix
  | append_singleton rest e ih =>
    obtain ⟨hrest, hprevious, -⟩ := valid_concat.mp valid'
    have hinit : rest <+: es := ih hrest (fun x hx => hsub (List.mem_append_left _ hx))
    obtain ⟨front, back, hsplit⟩ :=
      List.append_of_mem (hsub (List.mem_append_right rest (List.mem_singleton_self e)))
    have hfront : front <+: es := ⟨e :: back, hsplit.symm⟩
    have hlink : K.previous e = K.tip K.genesis front := by
      have hvalid := valid
      rw [hsplit] at hvalid
      exact (valid_append.mp hvalid).2.1
    have hsound : K.SoundOn (rest ++ front) :=
      sound.mono (List.append_subset.mpr ⟨hinit.subset, hfront.subset⟩)
    have hsame := same_of_tip_eq hrest (valid.of_prefix hfront) hsound
      (hprevious.symm.trans hlink)
    have heq : rest = front :=
      (List.prefix_of_prefix_length_le hinit hfront hsame.length_eq.le).eq_of_length
        hsame.length_eq
    rw [heq, hsplit]
    exact ⟨back, by simp⟩

end HashChain

end Sunbolt.Library
