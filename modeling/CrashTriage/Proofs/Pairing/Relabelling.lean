import CrashTriage.Proofs.Pairing.Labels
import CrashTriage.Proofs.Pairing.Segments
import Mathlib.Algebra.Group.Nat.Defs
import Mathlib.Data.List.Nodup
import Mathlib.Data.List.Perm.Subperm

/-!
# What pairing changes

Pairing gives labels to frames, and that is all it does: **each thread is relabelled at rising
positions** (`Pairing.IsRelabelled`). The frame at the `k`-th of them was unresolved, and now has
the label `k` in place of its symbol; its details, all other frames, the number and the kind of the
thread are as they were.

**Both threads are relabelled in step** (`Pairing.pair_isRelabelled`): the two frames with the same
label are on the same side of every anchor, and the frames with a label are those of the segments
that can be paired.

A label is a machine word. There are no more pairs than unresolved frames in either thread
(`Pairing.length_pairedPositions_le_left`), so no label is given twice as long as one of the threads
has fewer unresolved frames than there are labels.

A thread that is paired with itself is relabelled at all its unresolved frames, if it has a resolved
one (`Pairing.pair_self_isRelabelling`).
-/

namespace CrashTriage

theorem Frame.not_isResolved (f : Frame) : (!f.isResolved) = f.isUnresolved :=
  Bool.not_not _

namespace Pairing

/-! ### How many positions there are -/

/-- Rising positions of values with a property are at most as many as those values. -/
theorem length_le_countP {α : Type} {l : List α} {p : α → Bool} {positions : List Nat}
    (hrising : positions.Pairwise (· < ·))
    (h : ∀ i ∈ positions, ∃ x, l[i]? = some x ∧ p x = true) : positions.length ≤ l.countP p := by
  have hsubset : positions ⊆ l.findIdxs p := by
    intro i hi
    obtain ⟨x, hx, hpx⟩ := h i hi
    obtain ⟨hlt, rfl⟩ := List.getElem?_eq_some_iff.mp hx
    exact (List.mem_findIdxs_iff_pos_getElem hlt).mpr hpx
  have hnodup : positions.Nodup := hrising.imp Nat.ne_of_lt
  calc positions.length
      ≤ (l.findIdxs p).length := (hnodup.subperm hsubset).length_le
    _ = l.countP p := List.length_findIdxs

section Sequences

variable {α : Type} {same : α → α → Bool} {resolved : α → Bool} {a b : List α}

theorem rising_map_fst_pairedPositions :
    ((pairedPositions same resolved a b).map Prod.fst).Pairwise (· < ·) :=
  List.pairwise_map.mpr (pairwise_pairedPositions.imp And.left)

theorem rising_map_snd_pairedPositions :
    ((pairedPositions same resolved a b).map Prod.snd).Pairwise (· < ·) :=
  List.pairwise_map.mpr (pairwise_pairedPositions.imp And.right)

/-- The positions in the first sequence are those of unresolved frames. -/
theorem unresolved_of_mem_map_fst {i : Nat}
    (hi : i ∈ (pairedPositions same resolved a b).map Prod.fst) :
    ∃ x, a[i]? = some x ∧ (!resolved x) = true := by
  obtain ⟨p, hp, rfl⟩ := List.mem_map.mp hi
  obtain ⟨x, hx, hunresolved⟩ := (unresolved_of_mem_pairedPositions hp).1
  exact ⟨x, hx, by rw [hunresolved]; rfl⟩

/-- The positions in the second sequence are those of unresolved frames. -/
theorem unresolved_of_mem_map_snd {j : Nat}
    (hj : j ∈ (pairedPositions same resolved a b).map Prod.snd) :
    ∃ y, b[j]? = some y ∧ (!resolved y) = true := by
  obtain ⟨p, hp, rfl⟩ := List.mem_map.mp hj
  obtain ⟨y, hy, hunresolved⟩ := (unresolved_of_mem_pairedPositions hp).2
  exact ⟨y, hy, by rw [hunresolved]; rfl⟩

/-- **There are no more pairs than unresolved frames** of the first sequence. -/
theorem length_pairedPositions_le_left :
    (pairedPositions same resolved a b).length ≤ a.countP (!resolved ·) := by
  rw [← List.length_map Prod.fst]
  exact length_le_countP rising_map_fst_pairedPositions fun _ => unresolved_of_mem_map_fst

/-- **There are no more pairs than unresolved frames** of the second sequence. -/
theorem length_pairedPositions_le_right :
    (pairedPositions same resolved a b).length ≤ b.countP (!resolved ·) := by
  rw [← List.length_map Prod.snd]
  exact length_le_countP rising_map_snd_pairedPositions fun _ => unresolved_of_mem_map_snd

end Sequences

/-! ### Relabelling one thread -/

/-- **A thread is relabelled at positions** if the frame at the `k`-th of them, which was
unresolved, has the label `k` in place of its symbol, and nothing else is changed. -/
structure IsRelabelled (positions : List Nat) (t t' : Thread) : Prop where
  /-- The number is kept. -/
  id_eq : t'.id = t.id
  /-- The kind is kept. -/
  kind_eq : t'.kind = t.kind
  /-- No frame is added or taken away. -/
  length_eq : t'.frames.length = t.frames.length
  /-- The positions come in the order of the frames. -/
  rising : positions.Pairwise (· < ·)
  /-- At the positions, unresolved frames are labelled in turn. -/
  labelled : ∀ k i, positions[k]? = some i → ∃ (label : UInt32) (f : Frame),
    label.toNat = k ∧ t.frames[i]? = some f ∧ f.isUnresolved = true
      ∧ t'.frames[i]? = some (f.relabel (.paired label))
  /-- All other frames are kept. -/
  unchanged : ∀ i, i ∉ positions → t'.frames[i]? = t.frames[i]?

/-- A position that comes once is found where it is. -/
theorem idxOf?_eq_some {positions : List Nat} (hnodup : positions.Nodup) {k i : Nat}
    (hk : positions[k]? = some i) : positions.idxOf? i = some k := by
  obtain ⟨hlt, rfl⟩ := List.getElem?_eq_some_iff.mp hk
  refine List.findIdx?_eq_some_iff_getElem.mpr ⟨hlt, beq_self_eq_true _, fun j hj => ?_⟩
  rw [beq_iff_eq, hnodup.getElem_inj_iff]
  exact Nat.ne_of_lt hj

/-- **Labelling at rising positions of unresolved frames** relabels the thread there, as long as
there is a label for each. -/
theorem isRelabelled_labelAt {t : Thread} {positions : List Nat}
    (hrising : positions.Pairwise (· < ·))
    (hunresolved : ∀ i ∈ positions, ∃ f, t.frames[i]? = some f ∧ (!f.isResolved) = true)
    (hlength : positions.length ≤ 2 ^ 32) :
    IsRelabelled positions t { t with frames := labelAt positions t.frames } where
  id_eq := rfl
  kind_eq := rfl
  length_eq := length_labelAt _ _
  rising := hrising
  labelled := by
    intro k i hk
    obtain ⟨f, hf, hfrom⟩ := hunresolved i (List.mem_of_getElem? hk)
    have hlt : k < 2 ^ 32 :=
      Nat.lt_of_lt_of_le (List.getElem?_eq_some_iff.mp hk).1 hlength
    refine ⟨UInt32.ofNat k, f, UInt32.toNat_ofNat_of_lt' hlt, hf, f.not_isResolved ▸ hfrom, ?_⟩
    rw [getElem?_labelAt, hf, idxOf?_eq_some (hrising.imp Nat.ne_of_lt) hk]
    rfl
  unchanged := by
    intro i hi
    rw [getElem?_labelAt, List.idxOf?_eq_none_iff.mpr hi]
    exact Option.map_id'

/-! ### Relabelling two threads -/

/-- **Pairing relabels each thread at its paired positions.** -/
theorem isRelabelled_pair {a b : Thread}
    (hcount : a.frames.countP Frame.isUnresolved < 2 ^ 32
      ∨ b.frames.countP Frame.isUnresolved < 2 ^ 32) :
    let places := pairedPositions Frame.sameSite Frame.isResolved a.frames b.frames
    IsRelabelled (places.map Prod.fst) a (pair a b).1
      ∧ IsRelabelled (places.map Prod.snd) b (pair a b).2 := by
  intro places
  have hlength : places.length ≤ 2 ^ 32 := by
    rcases hcount with ha | hb
    · exact Nat.le_of_lt (Nat.lt_of_le_of_lt length_pairedPositions_le_left
        (by simpa only [Frame.not_isResolved] using ha))
    · exact Nat.le_of_lt (Nat.lt_of_le_of_lt length_pairedPositions_le_right
        (by simpa only [Frame.not_isResolved] using hb))
  constructor
  · exact isRelabelled_labelAt rising_map_fst_pairedPositions
      (fun _ => unresolved_of_mem_map_fst) (by rwa [List.length_map])
  · exact isRelabelled_labelAt rising_map_snd_pairedPositions
      (fun _ => unresolved_of_mem_map_snd) (by rwa [List.length_map])

/-- **Pairing relabels both threads in step**, and changes nothing else. The frames that get a label
are those of the segments that can be paired, and two frames with the same label are on the same
side of every anchor. No anchor and no segment reaches out of a thread. -/
theorem pair_isRelabelling (a b : Thread)
    (hcount : a.frames.countP Frame.isUnresolved < 2 ^ 32
      ∨ b.frames.countP Frame.isUnresolved < 2 ^ 32) :
    let cs := anchors Frame.sameSite Frame.isResolved a.frames b.frames
    let isPairable := IsPairable Frame.sameSite Frame.isResolved a.frames b.frames
    ∃ places : List (Nat × Nat),
      IsRelabelled (places.map Prod.fst) a (pair a b).1
        ∧ IsRelabelled (places.map Prod.snd) b (pair a b).2
        ∧ (∀ p ∈ places, ∀ c ∈ cs, p.1 < c.left ↔ p.2 < c.right)
        ∧ (∀ i, i ∈ places.map Prod.fst ↔
          ∃ g, isPairable g ∧ g.leftStart ≤ i ∧ i < g.leftStop)
        ∧ (∀ j, j ∈ places.map Prod.snd ↔
          ∃ g, isPairable g ∧ g.rightStart ≤ j ∧ j < g.rightStop)
        ∧ (cs = [] → places = [])
        ∧ (∀ c ∈ cs, c.left < a.frames.length ∧ c.right < b.frames.length)
        ∧ ∀ g, IsSegment ⟨a.frames.length, b.frames.length⟩ cs g →
          g.leftStart ≤ g.leftStop ∧ g.leftStop ≤ a.frames.length
            ∧ g.rightStart ≤ b.frames.length ∧ g.rightStop ≤ b.frames.length := by
  intro cs isPairable
  obtain ⟨hleft, hright⟩ := isRelabelled_pair hcount
  refine ⟨_, hleft, hright, ?_, ?_, ?_, ?_, ?_, ?_⟩
  · exact fun p hp c hc => lt_anchor_iff_of_mem_pairedPositions hp hc
  · exact fun i => mem_map_fst_pairedPositions_iff
  · exact fun j => mem_map_snd_pairedPositions_iff
  · exact pairedPositions_of_eq_nil
  · exact fun c hc => lt_of_mem_anchors hc
  · exact fun g hg => hg.inside

/-- A recursion that is one call deeper in the first thread shares an anchor of the second one. The
frames in front of it and behind it are labelled; the outermost frame has no counterpart. -/
theorem pair_isRelabelling_shared_anchor :
    let thread (symbols : List Symbol) : Thread := ⟨0, .debugger, symbols.map .ofDebuggerSymbol⟩
    let a := thread [.unknown, .named "walk", .named "walk", .unknown, .unknown, .named "main",
      .unknown]
    let b := thread [.unknown, .named "walk", .unknown, .unknown, .named "main"]
    a.frames.countP Frame.isUnresolved < 2 ^ 32
      ∧ (pair a b).1.frames.map Frame.symbol = [.paired 0, .named "walk", .named "walk", .paired 1,
          .paired 2, .named "main", .unknown]
      ∧ (pair a b).2.frames.map Frame.symbol = [.paired 0, .named "walk", .paired 1, .paired 2,
          .named "main"]
      ∧ ∃ places : List (Nat × Nat), IsRelabelled (places.map Prod.fst) a (pair a b).1
        ∧ IsRelabelled (places.map Prod.snd) b (pair a b).2 := by
  intro thread a b
  have hcount : a.frames.countP Frame.isUnresolved < 2 ^ 32 := by decide
  obtain ⟨places, ha, hb, -⟩ := pair_isRelabelling a b (Or.inl hcount)
  exact ⟨hcount, by decide, by decide, places, ha, hb⟩

/-! ### A thread that is paired with itself -/

/-- **A thread that is paired with itself is resolved completely**, if it has a resolved frame. Both
threads become the same one: the unresolved frames are labelled in turn, wherever they are, and the
resolved ones are kept. -/
theorem pair_self_isRelabelling {t : Thread} (hresolved : ∃ f ∈ t.frames, f.isResolved = true)
    (hcount : t.frames.countP Frame.isUnresolved < 2 ^ 32) :
    (pair t t).1 = (pair t t).2
      ∧ (∀ f ∈ (pair t t).1.frames, f.isUnresolved = false)
      ∧ IsRelabelled (t.frames.findIdxs Frame.isUnresolved) t (pair t t).1 := by
  obtain ⟨t', hpair, -, -, hall⟩ := pair_self hresolved
  have hplaces := pairedPositions_self Frame.sameSite_comm Frame.sameSite_self
    (fun _ _ hsame => Frame.isResolved_of_sameSite hsame) hresolved
  obtain ⟨hrelabelled, -⟩ := isRelabelled_pair (a := t) (b := t) (Or.inl hcount)
  -- the positions on the left are those of all unresolved frames
  have hfst : (Prod.fst : Nat × Nat → Nat) ∘ (fun k => (k, k)) = id := rfl
  rw [hplaces, List.map_map, hfst, List.map_id, funext Frame.not_isResolved] at hrelabelled
  refine ⟨by rw [hpair], fun f hf => ?_, hrelabelled⟩
  rw [hpair] at hf
  exact Frame.isResolved_iff.mp (hall f hf)

/-- A core dump with a repeated function and a frame that only its build locates: the frames that
nothing locates are labelled around them, though one label was there before. -/
theorem pair_self_isRelabelling_repeated_function :
    let t : Thread := ⟨7, .core, [.ofCoreSymbol (.named "walk"), .ofCoreSymbol .unknown,
      .ofCoreSymbol (.named "walk"), .ofBuildId "a1" 16, .ofCoreSymbol .unknown,
      .ofCoreSymbol (.paired 0), .ofCoreSymbol .unknown]⟩
    (∃ f ∈ t.frames, f.isResolved = true) ∧ t.frames.countP Frame.isUnresolved < 2 ^ 32
      ∧ t.frames.findIdxs Frame.isUnresolved = [1, 4, 6]
      ∧ (pair t t).1 = (pair t t).2 ∧ IsRelabelled [1, 4, 6] t (pair t t).1
      ∧ (pair t t).1.frames.map Frame.symbol = [.named "walk", .paired 0, .named "walk", .unknown,
          .paired 1, .paired 0, .paired 2] := by
  intro t
  have hresolved : ∃ f ∈ t.frames, f.isResolved = true := by decide
  have hcount : t.frames.countP Frame.isUnresolved < 2 ^ 32 := by decide
  obtain ⟨heq, -, hrelabelled⟩ := pair_self_isRelabelling hresolved hcount
  exact ⟨hresolved, hcount, by decide, heq, hrelabelled, by decide⟩

end Pairing

end CrashTriage
