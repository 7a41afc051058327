import CrashTriage.Proofs.Pairing.Counterparts
import CrashTriage.Proofs.Pairing.SecondScan

/-!
# Pairing twice

The frames that were labelled count as resolved when two threads are paired once more, and some of
them become anchors. Nothing else comes of it: **threads that were paired are not changed by pairing
them again** (`Pairing.pair_idempotent`).

Behind a labelled frame there is no unresolved one, nor in front of it
(`Pairing.AreLabelled.resolved_next`, `Pairing.AreLabelled.resolved_previous`): the segment that the
frame belongs to was labelled as a whole, and resolved frames are on either side of it. So a segment
that can be paired has no pair at its ends. It lies between anchors of the first scan
(`Pairing.AreLabelled.isSegment`), and the first time it would have been labelled
(`Pairing.AreLabelled.not_isPairable`).
-/

namespace CrashTriage

namespace Pairing

/-! ### Segments of labelled sequences -/

namespace AreLabelled

variable {α : Type} {same : α → α → Bool} {resolved : α → Bool} {a b a' b' : List α} {i j : Nat}
  {x : α} {c : Anchor} {g : Gap} (h : AreLabelled same resolved a b a' b')

include h

/-- A segment that can be paired has no labelled frame of the first sequence. -/
theorem not_mem_left (hg : IsPairable same resolved a' b' g) (hstart : g.leftStart ≤ i)
    (hstop : i < g.leftStop) : i ∉ (pairedPositions same resolved a b).map Prod.fst := by
  intro hi
  obtain ⟨-, hle, -, -⟩ := hg.isSegment.inside
  have hx := List.getElem?_eq_getElem (Nat.lt_of_lt_of_le hstop hle)
  have hunresolved := hg.left_unresolved i _ hstart hstop hx
  rw [h.left_resolved i hi _ hx] at hunresolved
  exact absurd hunresolved (by simp)

/-- A segment that can be paired has no labelled frame of the second sequence. -/
theorem not_mem_right (hg : IsPairable same resolved a' b' g) (hstart : g.rightStart ≤ j)
    (hstop : j < g.rightStop) : j ∉ (pairedPositions same resolved a b).map Prod.snd := by
  intro hj
  obtain ⟨-, -, -, hle⟩ := hg.isSegment.inside
  have hy := List.getElem?_eq_getElem (Nat.lt_of_lt_of_le hstop hle)
  have hunresolved := hg.right_unresolved j _ hstart hstop hy
  rw [h.right_resolved j hj _ hy] at hunresolved
  exact absurd hunresolved (by simp)

variable (hsame : ∀ x y, same x y = same y x)
  (hresolved : ∀ x y, same x y = true → resolved x = true)

include hsame hresolved

/-- An anchored frame is kept, and resolved. -/
theorem resolved_anchor (hc : c ∈ anchors same resolved a b) (hx : a'[c.left]? = some x) :
    resolved x = true := by
  obtain ⟨x', y, hx', -, hxr, -⟩ := of_mem_anchors hc
  rw [h.left_kept c.left (not_mem_of_mem_anchors hsame hresolved hc).1, hx'] at hx
  exact Option.some.inj hx ▸ hxr

/-- **The frame behind a labelled one is resolved.** -/
theorem resolved_next (hi : i ∈ (pairedPositions same resolved a b).map Prod.fst)
    (hx : a'[i + 1]? = some x) : resolved x = true := by
  obtain ⟨g, hg, hstart, hstop⟩ := mem_map_fst_pairedPositions_iff.mp hi
  by_cases hnext : i + 1 < g.leftStop
  · exact h.left_resolved _ (mem_map_fst_pairedPositions_iff.mpr ⟨g, hg, by omega, hnext⟩) x hx
  · -- the segment ends with the sequence or at an anchor
    obtain ⟨c, rfl | hc, hleft, -⟩ := of_mem_gapsFrom (mem_gaps_iff.mpr hg.isSegment)
    · have hlt := (List.getElem?_eq_some_iff.mp hx).1
      have hlength := h.left_length
      dsimp only at hleft
      omega
    · obtain rfl : i = c.left - 1 := by omega
      rw [Nat.sub_add_cancel (by omega)] at hx
      exact h.resolved_anchor hsame hresolved hc hx

/-- **The frame in front of a labelled one is resolved.** -/
theorem resolved_previous (hi : i + 1 ∈ (pairedPositions same resolved a b).map Prod.fst)
    (hx : a'[i]? = some x) : resolved x = true := by
  obtain ⟨g, hg, hstart, hstop⟩ := mem_map_fst_pairedPositions_iff.mp hi
  by_cases hprevious : g.leftStart ≤ i
  · exact h.left_resolved _ (mem_map_fst_pairedPositions_iff.mpr ⟨g, hg, hprevious, by omega⟩) x hx
  · -- the segment starts behind an anchor, as it does not start with the sequence
    obtain ⟨before, after, hcs, hleft, -⟩ := hg.isSegment
    rcases hlast : before.getLast? with _ | c
    · rw [hlast, Option.elim_none] at hleft
      omega
    · rw [hlast, Option.elim_some] at hleft
      obtain rfl : i = c.left := by omega
      have hc : c ∈ anchors same resolved a b :=
        hcs ▸ List.mem_append_left after (List.mem_of_getLast? hlast)
      exact h.resolved_anchor hsame hresolved hc hx

/-- **A segment that can be paired lies between anchors of the first scan**: beside a pair at one of
its ends there would be a resolved frame in it. -/
theorem isSegment (hg : IsPairable same resolved a' b' g) :
    IsSegment ⟨a.length, b.length⟩ (anchors same resolved a b) g := by
  obtain ⟨-, hle, -, -⟩ := hg.isSegment.inside
  have hnonempty := hg.nonempty
  have hunresolved : ∀ i x, g.leftStart ≤ i → i < g.leftStop → a'[i]? = some x →
      resolved x ≠ true := fun i x hstart hstop hx => by
    rw [hg.left_unresolved i x hstart hstop hx]
    exact Bool.false_ne_true
  rw [← h.left_length, ← h.right_length, ← h.filter_anchors hsame hresolved]
  refine hg.isSegment.filter (fun c _ hc => decide_eq_true fun hp => ?_)
    (fun c _ hc => decide_eq_true fun hp => ?_)
  · -- the segment starts behind a pair
    have hmem : c.left ∈ (pairedPositions same resolved a b).map Prod.fst := List.mem_map_of_mem hp
    have hx := List.getElem?_eq_getElem (show c.left + 1 < a'.length by omega)
    exact hunresolved _ _ (by omega) (by omega) hx (h.resolved_next hsame hresolved hmem hx)
  · -- the segment ends at a pair
    have hmem : c.left ∈ (pairedPositions same resolved a b).map Prod.fst := List.mem_map_of_mem hp
    obtain ⟨k, hk⟩ := Nat.exists_eq_succ_of_ne_zero (show c.left ≠ 0 by omega)
    rw [hk] at hmem
    have hx := List.getElem?_eq_getElem (show k < a'.length by omega)
    exact hunresolved _ _ (by omega) (by omega) hx (h.resolved_previous hsame hresolved hmem hx)

/-- **No segment is left that could be paired.** It would be one of the first scan, and so it would
be labelled. -/
theorem not_isPairable : ¬IsPairable same resolved a' b' g := by
  intro hg
  have hpairable : IsPairable same resolved a b g := by
    refine ⟨fun hnil => ?_, h.isSegment hsame hresolved hg, hg.nonempty, hg.sameLength,
      fun i x hstart hstop hx => ?_, fun j y hstart hstop hy => ?_⟩
    · -- without anchors nothing is labelled, so the second scan finds none either
      have hfilter := h.filter_anchors hsame hresolved
      rw [hnil, pairedPositions_of_eq_nil hnil] at hfilter
      exact hg.anchored (by simpa using hfilter)
    · exact hg.left_unresolved i x hstart hstop
        ((h.left_kept i (h.not_mem_left hg hstart hstop)).trans hx)
    · exact hg.right_unresolved j y hstart hstop
        ((h.right_kept j (h.not_mem_right hg hstart hstop)).trans hy)
  exact h.not_mem_left hg (Nat.le_refl _) hg.nonempty
    (mem_map_fst_pairedPositions_iff.mpr ⟨g, hpairable, Nat.le_refl _, hg.nonempty⟩)

/-- **Nothing is paired a second time.** -/
theorem pairedPositions_again : pairedPositions same resolved a' b' = [] := by
  refine List.eq_nil_iff_forall_not_mem.mpr fun p hp => ?_
  obtain ⟨g, hg, -⟩ := mem_pairedPositions_iff.mp hp
  exact h.not_isPairable hsame hresolved hg

end AreLabelled

/-! ### Threads -/

/-- Without any position nothing is labelled. -/
theorem labelAt_nil (frames : List Frame) : labelAt [] frames = frames := by
  refine List.ext_getElem? fun i => ?_
  rw [getElem?_labelAt, List.idxOf?_nil]
  exact Option.map_id'

/-- Threads with nothing to pair are not changed. -/
theorem pair_of_eq_nil {a b : Thread}
    (h : pairedPositions Frame.sameSite Frame.isResolved a.frames b.frames = []) :
    pair a b = (a, b) := by
  simp only [pair, h, List.map_nil, labelAt_nil]

section Relabelled

variable {positions : List Nat} {t t' : Thread} {i : Nat} {f g : Frame}

/-- The frames at the positions are resolved. -/
theorem IsRelabelled.isResolved (h : IsRelabelled positions t t') (hi : i ∈ positions)
    (hf : t'.frames[i]? = some f) : f.isResolved = true := by
  obtain ⟨k, hk⟩ := List.mem_iff_getElem?.mp hi
  obtain ⟨label, f₀, -, -, -, hget⟩ := h.labelled k i hk
  obtain rfl := Option.some.inj (hf.symm.trans hget)
  exact Frame.isResolved_relabel label f₀

/-- **What is the same site as a frame at a position** has the label of the position. -/
theorem IsRelabelled.label_of_sameSite (h : IsRelabelled positions t t') (hi : i ∈ positions)
    (hf : t'.frames[i]? = some f) (hsame : f.sameSite g = true) :
    ∃ label : UInt32, positions[label.toNat]? = some i ∧ g.symbol = .paired label := by
  obtain ⟨k, hk⟩ := List.mem_iff_getElem?.mp hi
  obtain ⟨label, f₀, rfl, -, hunresolved, hget⟩ := h.labelled k i hk
  obtain rfl := Option.some.inj (hf.symm.trans hget)
  exact ⟨label, hk, ((Frame.sameSite_relabel hunresolved label g).mp hsame).1⟩

end Relabelled

/-- The positions with the same index are those of a pair. -/
theorem mem_of_getElem?_map {places : List (Nat × Nat)} {k i j : Nat}
    (hi : (places.map Prod.fst)[k]? = some i) (hj : (places.map Prod.snd)[k]? = some j) :
    (i, j) ∈ places := by
  rw [List.getElem?_map] at hi hj
  obtain ⟨p, hp, rfl⟩ := Option.map_eq_some_iff.mp hi
  obtain ⟨q, hq, rfl⟩ := Option.map_eq_some_iff.mp hj
  obtain rfl := Option.some.inj (hp.symm.trans hq)
  exact List.mem_of_getElem? hp

/-- **Pairing labels threads where they are paired**, if there were no labels before. -/
theorem areLabelled_pair {a b : Thread} (ha : a.IsUnlabelled) (hb : b.IsUnlabelled)
    (hcount : a.frames.countP Frame.isUnresolved < 2 ^ 32
      ∨ b.frames.countP Frame.isUnresolved < 2 ^ 32) :
    AreLabelled Frame.sameSite Frame.isResolved a.frames b.frames (pair a b).1.frames
      (pair a b).2.frames := by
  obtain ⟨hleft, hright⟩ := isRelabelled_pair hcount
  refine ⟨hleft.length_eq, hright.length_eq, hleft.unchanged, hright.unchanged,
    fun i hi f hf => hleft.isResolved hi hf, fun j hj g hg => hright.isResolved hj hg, ?_⟩
  rintro i j f g hf hg hsame (hi | hj)
  · obtain ⟨label, hlabel, hsymbol⟩ := hleft.label_of_sameSite hi hf hsame
    exact mem_of_getElem?_map hlabel (hright.of_label hb hg hsymbol)
  · rw [Frame.sameSite_comm] at hsame
    obtain ⟨label, hlabel, hsymbol⟩ := hright.label_of_sameSite hj hg hsame
    exact mem_of_getElem?_map (hleft.of_label ha hf hsymbol) hlabel

/-- **Pairing is idempotent**: two threads without labels are not changed by pairing them a second
time. -/
theorem pair_idempotent {a b : Thread} (ha : a.IsUnlabelled) (hb : b.IsUnlabelled)
    (hcount : a.frames.countP Frame.isUnresolved < 2 ^ 32
      ∨ b.frames.countP Frame.isUnresolved < 2 ^ 32) :
    pair (pair a b).1 (pair a b).2 = pair a b :=
  pair_of_eq_nil ((areLabelled_pair ha hb hcount).pairedPositions_again Frame.sameSite_comm
    fun _ _ hsame => Frame.isResolved_of_sameSite hsame)

/-- Two threads with a shared anchor, and with unresolved frames of two libraries: these are paired,
and are no anchor the second time, as they are different sites. -/
theorem pair_idempotent_two_libraries :
    let frame (s : Symbol) (library : Option String) : Frame := ⟨s, .debugger { library }⟩
    let a : Thread := ⟨0, .debugger, [frame .unknown none, frame (.named "walk") none,
      frame (.named "walk") none, frame .unknown (some "libfoo.so"), frame .unknown none,
      frame (.named "main") none, frame .unknown none]⟩
    let b : Thread := ⟨1, .debugger, [frame .unknown none, frame (.named "walk") none,
      frame .unknown (some "libbar.so"), frame .unknown none, frame (.named "main") none]⟩
    a.IsUnlabelled ∧ b.IsUnlabelled ∧ a.frames.countP Frame.isUnresolved < 2 ^ 32
      ∧ (pair a b).1.frames.map Frame.symbol = [.paired 0, .named "walk", .named "walk", .paired 1,
          .paired 2, .named "main", .unknown]
      ∧ pair (pair a b).1 (pair a b).2 = pair a b := by
  intro frame a b
  have ha : a.IsUnlabelled := by simp [Thread.IsUnlabelled, a, frame]
  have hb : b.IsUnlabelled := by simp [Thread.IsUnlabelled, b, frame]
  have hcount : a.frames.countP Frame.isUnresolved < 2 ^ 32 := by decide
  exact ⟨ha, hb, hcount, by decide, pair_idempotent ha hb (Or.inl hcount)⟩

end Pairing

end CrashTriage
