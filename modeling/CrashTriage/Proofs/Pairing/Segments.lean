import CrashTriage.Proofs.Pairing.Gaps

/-!
# The segments between the anchors

The anchors rise on the left and never fall on the right (`Pairing.pairwise_anchors`). Wherever they
are cut into two parts, **a segment** of the two sequences lies between the last one in front of the
cut and the first one behind it (`Pairing.IsSegment`); the gaps are these segments
(`Pairing.mem_gaps_iff`). An anchor stands in front of a segment on both sides or behind it on both
sides (`Pairing.IsSegment.beside`), so that the segments, too, come one behind the other.

A segment **can be paired** if its sides are equally long and hold unresolved frames only
(`Pairing.IsPairable`). The paired positions are those in such segments
(`Pairing.mem_pairedPositions_iff`), and they rise on both sides
(`Pairing.pairwise_pairedPositions`).
-/

namespace CrashTriage

namespace Pairing

variable {α : Type} {same : α → α → Bool} {resolved : α → Bool} {a b : List α}
  {last : Option Nat} {i j : Nat} {x : α} {xs : List α} {c : Anchor} {cs : List Anchor}
  {ends : Anchor} {g : Gap} {p : Nat × Nat}

/-! ### The order of the anchors -/

/-- **An anchor comes before another one** if it is further in on the left, and not further out on
the right. -/
def Anchor.Before (c d : Anchor) : Prop :=
  c.left < d.left ∧ c.right ≤ d.right

/-- **No frame is anchored in front of the anchor before.** -/
theorem le_of_chosen?_eq_some (h : chosen? same resolved b last x = some j) :
    ∀ k ∈ last, k ≤ j := by
  rintro k rfl
  obtain ⟨-, hnearest | ⟨-, hshared⟩⟩ := chosen?_eq_some_iff.mp h
  · exact Nat.le_of_succ_le (nearest?_eq_some_iff.mp hnearest).1
  · exact Nat.le_of_eq (Option.some.inj (shared?_eq_some_iff.mp hshared).1)

/-- The anchors of the frames from a position on are not in front of it, nor of the anchor
before. -/
theorem le_of_mem_anchorsFrom (h : c ∈ anchorsFrom same resolved b last i xs) :
    i ≤ c.left ∧ ∀ k ∈ last, k ≤ c.right := by
  induction xs generalizing last i with
  | nil => exact absurd h List.not_mem_nil
  | cons x xs ih =>
    rcases hchosen : chosen? same resolved b last x with _ | j
    · rw [anchorsFrom_cons_of_none hchosen] at h
      obtain ⟨hleft, hright⟩ := ih h
      exact ⟨by omega, hright⟩
    · have hj := le_of_chosen?_eq_some hchosen
      rw [anchorsFrom_cons_of_some hchosen] at h
      rcases List.mem_cons.mp h with rfl | h
      · exact ⟨le_rfl, hj⟩
      · obtain ⟨hleft, hright⟩ := ih h
        exact ⟨by omega, fun k hk => Nat.le_trans (hj k hk) (hright j rfl)⟩

theorem pairwise_anchorsFrom :
    (anchorsFrom same resolved b last i xs).Pairwise Anchor.Before := by
  induction xs generalizing last i with
  | nil => exact List.Pairwise.nil
  | cons x xs ih =>
    rcases hchosen : chosen? same resolved b last x with _ | j
    · rw [anchorsFrom_cons_of_none hchosen]
      exact ih
    · rw [anchorsFrom_cons_of_some hchosen]
      refine List.pairwise_cons.mpr ⟨fun d hd => ?_, ih⟩
      obtain ⟨hleft, hright⟩ := le_of_mem_anchorsFrom hd
      exact ⟨hleft, hright j rfl⟩

/-- **The anchors rise on the left and never fall on the right.** -/
theorem pairwise_anchors : (anchors same resolved a b).Pairwise Anchor.Before :=
  pairwise_anchorsFrom

/-- **An anchor is a position of either sequence.** -/
theorem lt_of_mem_anchors (h : c ∈ anchors same resolved a b) :
    c.left < a.length ∧ c.right < b.length := by
  obtain ⟨x, y, hx, hy, -⟩ := of_mem_anchors h
  exact ⟨(List.getElem?_eq_some_iff.mp hx).1, (List.getElem?_eq_some_iff.mp hy).1⟩

/-! ### Segments -/

/-- **A segment of two sequences** lies between two neighbours among their anchors, in front of the
first anchor or behind the last one: the anchors are cut into two parts, and it reaches from behind
the last one of the first part to the first one of the second part. -/
def IsSegment (ends : Anchor) (cs : List Anchor) (g : Gap) : Prop :=
  ∃ before after, cs = before ++ after
    ∧ g.leftStart = before.getLast?.elim 0 (·.left + 1)
    ∧ g.leftStop = (after.head?.getD ends).left
    ∧ g.rightStart = before.getLast?.elim 0 (·.right + 1)
    ∧ g.rightStop = (after.head?.getD ends).right

/-- A start behind the last anchor, with one more anchor in front. -/
theorem elim_getLast?_cons (f : Anchor → Nat) (c : Anchor) (before : List Anchor) (i : Nat) :
    (c :: before).getLast?.elim i f = before.getLast?.elim (f c) f := by
  rw [List.getLast?_cons]
  cases before.getLast? <;> rfl

/-- The gaps from a start on. -/
theorem mem_gapsFrom_iff :
    g ∈ gapsFrom ends i j cs ↔ ∃ before after, cs = before ++ after
      ∧ g.leftStart = before.getLast?.elim i (·.left + 1)
      ∧ g.leftStop = (after.head?.getD ends).left
      ∧ g.rightStart = before.getLast?.elim j (·.right + 1)
      ∧ g.rightStop = (after.head?.getD ends).right := by
  obtain ⟨leftStart, leftStop, rightStart, rightStop⟩ := g
  induction cs generalizing i j with
  | nil => simp [gapsFrom]
  | cons c cs ih =>
    rw [gapsFrom, List.mem_cons, ih]
    constructor
    · rintro (hg | ⟨before, after, rfl, hg⟩)
      · -- the cut is in front of all anchors
        exact ⟨[], c :: cs, by simpa using hg⟩
      · exact ⟨c :: before, after, rfl, by rwa [elim_getLast?_cons, elim_getLast?_cons]⟩
    · rintro ⟨_ | ⟨d, before⟩, after, hcs, hg⟩
      · obtain rfl : c :: cs = after := hcs
        exact Or.inl (by simpa using hg)
      · obtain ⟨rfl, rfl⟩ := List.cons.inj hcs
        exact Or.inr ⟨before, after, rfl, by rwa [elim_getLast?_cons, elim_getLast?_cons] at hg⟩

/-- **The gaps are the segments.** -/
theorem mem_gaps_iff : g ∈ gaps ends cs ↔ IsSegment ends cs g :=
  mem_gapsFrom_iff

/-- **An anchor stands beside a segment**: in front of it on both sides, or behind it on both
sides. -/
theorem IsSegment.beside (hg : IsSegment ends cs g) (hcs : cs.Pairwise Anchor.Before)
    (hc : c ∈ cs) :
    (c.left < g.leftStart ∧ c.right < g.rightStart)
      ∨ (g.leftStop ≤ c.left ∧ g.rightStop ≤ c.right) := by
  obtain ⟨before, after, rfl, hleftStart, hleftStop, hrightStart, hrightStop⟩ := hg
  obtain ⟨hbefore, hafter, -⟩ := List.pairwise_append.mp hcs
  rcases List.mem_append.mp hc with hc | hc
  · -- the segment starts behind the last anchor in front of it
    left
    obtain ⟨init, d, rfl⟩ := List.eq_nil_or_concat' before |>.resolve_left (List.ne_nil_of_mem hc)
    rw [List.getLast?_concat, Option.elim_some] at hleftStart hrightStart
    rcases List.mem_append.mp hc with hc | hc
    · obtain ⟨hleft, hright⟩ :=
        (List.pairwise_append.mp hbefore).2.2 c hc d (List.mem_singleton_self d)
      omega
    · obtain rfl := List.mem_singleton.mp hc
      omega
  · -- and it ends at the first one behind it
    right
    obtain ⟨d, rest, rfl⟩ := List.exists_cons_of_ne_nil (List.ne_nil_of_mem hc)
    rw [List.head?_cons, Option.getD_some] at hleftStop hrightStop
    rcases List.mem_cons.mp hc with rfl | hc
    · omega
    · obtain ⟨hleft, hright⟩ := (List.pairwise_cons.mp hafter).1 c hc
      omega

/-- **A segment lies inside the sequences.** -/
theorem IsSegment.inside
    (hg : IsSegment ⟨a.length, b.length⟩ (anchors same resolved a b) g) :
    g.leftStart ≤ g.leftStop ∧ g.leftStop ≤ a.length
      ∧ g.rightStart ≤ b.length ∧ g.rightStop ≤ b.length := by
  obtain ⟨hleftLe, hrightLe⟩ := stop_le_of_mem_gaps (mem_gaps_iff.mpr hg)
  obtain ⟨before, after, hcs, hleftStart, hleftStop, hrightStart, -⟩ := hg
  rcases hlast : before.getLast? with _ | d
  · -- the segment starts with the sequences
    rw [hlast, Option.elim_none] at hleftStart hrightStart
    exact ⟨by omega, hleftLe, by omega, hrightLe⟩
  rw [hlast, Option.elim_some] at hleftStart hrightStart
  have hd : d ∈ before := List.mem_of_getLast? hlast
  obtain ⟨hdleft, hdright⟩ := lt_of_mem_anchors (hcs ▸ List.mem_append_left after hd)
  refine ⟨?_, hleftLe, by omega, hrightLe⟩
  -- the anchor in front of it is in front of the one behind it, or of the end
  rcases hhead : after.head? with _ | e
  · rw [hhead, Option.getD_none] at hleftStop
    rw [hleftStart, hleftStop]
    exact hdleft
  · rw [hhead, Option.getD_some] at hleftStop
    have hpairwise : (anchors same resolved a b).Pairwise Anchor.Before := pairwise_anchors
    rw [hcs] at hpairwise
    obtain ⟨hleft, -⟩ :=
      (List.pairwise_append.mp hpairwise).2.2 d hd e (List.mem_of_head? hhead)
    omega

/-- **A segment remains one if anchors are left out**, as long as those at its ends are kept. -/
theorem IsSegment.filter {keep : Anchor → Bool}
    (hg : IsSegment ends cs g) (hstart : ∀ c ∈ cs, c.left + 1 = g.leftStart → keep c = true)
    (hstop : ∀ c ∈ cs, c.left = g.leftStop → keep c = true) :
    IsSegment ends (cs.filter keep) g := by
  obtain ⟨before, after, rfl, hleftStart, hleftStop, hrightStart, hrightStop⟩ := hg
  have hlast : (before.filter keep).getLast? = before.getLast? := by
    rcases before.eq_nil_or_concat' with rfl | ⟨init, d, rfl⟩
    · rfl
    · rw [List.getLast?_concat, Option.elim_some] at hleftStart
      have hd : keep d = true := hstart d (by simp) hleftStart.symm
      rw [List.filter_append, List.filter_cons_of_pos hd, List.filter_nil, List.getLast?_concat,
        List.getLast?_concat]
  have hhead : (after.filter keep).head? = after.head? := by
    rcases after with _ | ⟨e, rest⟩
    · rfl
    · rw [List.head?_cons, Option.getD_some] at hleftStop
      have he : keep e = true := hstop e (by simp) hleftStop.symm
      rw [List.filter_cons_of_pos he, List.head?_cons, List.head?_cons]
  exact ⟨before.filter keep, after.filter keep, List.filter_append .., by rw [hlast, hleftStart],
    by rw [hhead, hleftStop], by rw [hlast, hrightStart], by rw [hhead, hrightStop]⟩

/-! ### Segments that can be paired -/

/-- **A segment can be paired** if its sides are equally long, not empty, and hold unresolved frames
only. Sequences without any anchor have no such segment. -/
structure IsPairable (same : α → α → Bool) (resolved : α → Bool) (a b : List α) (g : Gap) :
    Prop where
  /-- There is an anchor. -/
  anchored : anchors same resolved a b ≠ []
  /-- It lies between the anchors. -/
  isSegment : IsSegment ⟨a.length, b.length⟩ (anchors same resolved a b) g
  /-- It is not empty. -/
  nonempty : g.leftStart < g.leftStop
  /-- Its sides are equally long. -/
  sameLength : g.leftStop - g.leftStart = g.rightStop - g.rightStart
  /-- It holds unresolved frames of the first sequence. -/
  left_unresolved : ∀ i x, g.leftStart ≤ i → i < g.leftStop → a[i]? = some x → resolved x = false
  /-- It holds unresolved frames of the second sequence. -/
  right_unresolved : ∀ j y, g.rightStart ≤ j → j < g.rightStop → b[j]? = some y →
    resolved y = false

/-- A stretch is unresolved if its frames are. -/
theorem allUnresolved_iff_forall {l : List α} {start stop : Nat} :
    allUnresolved resolved l start (stop - start) = true
      ↔ ∀ k x, start ≤ k → k < stop → l[k]? = some x → resolved x = false := by
  rw [allUnresolved_iff]
  constructor
  · intro h k x hstart hstop hx
    refine h (k - start) (by omega) x ?_
    rwa [Nat.add_sub_cancel' hstart]
  · intro h k hk x hx
    exact h (start + k) x (Nat.le_add_right _ _) (by omega) hx

theorem isPairable_iff :
    IsPairable same resolved a b g
      ↔ anchors same resolved a b ≠ []
        ∧ g ∈ gaps ⟨a.length, b.length⟩ (anchors same resolved a b)
        ∧ isBlank resolved a b g = true := by
  rw [mem_gaps_iff, isBlank_iff, Gap.leftLength, Gap.rightLength, allUnresolved_iff_forall,
    allUnresolved_iff_forall]
  constructor
  · intro h
    exact ⟨h.anchored, h.isSegment, h.sameLength, by have := h.nonempty; omega,
      h.left_unresolved, h.right_unresolved⟩
  · rintro ⟨hanchored, hsegment, hlength, hne, hleft, hright⟩
    exact ⟨hanchored, hsegment, by omega, hlength, hleft, hright⟩

/-- The positions of a segment with equal sides, one by one. -/
theorem Gap.positions_eq (h : g.leftLength = g.rightLength) :
    g.positions
      = (List.range g.leftLength).map fun k => (g.leftStart + k, g.rightStart + k) := by
  rw [positions, ← h, List.range'_eq_map_range, List.range'_eq_map_range, List.zip_map']

/-- **The paired positions** are those of the segments that can be paired. -/
theorem mem_pairedPositions_iff :
    p ∈ pairedPositions same resolved a b
      ↔ ∃ g, IsPairable same resolved a b g
        ∧ ∃ k < g.leftLength, p = (g.leftStart + k, g.rightStart + k) := by
  by_cases hnil : anchors same resolved a b = []
  · rw [pairedPositions_of_eq_nil hnil]
    refine iff_of_false List.not_mem_nil ?_
    rintro ⟨g, hg, -⟩
    exact hg.anchored hnil
  rw [pairedPositions_of_ne_nil hnil, List.mem_flatMap]
  refine exists_congr fun g => ?_
  rw [List.mem_filter, isPairable_iff, and_iff_right hnil]
  refine and_congr_right fun hblank => ?_
  rw [Gap.positions_eq (isBlank_iff.mp hblank.2).1, List.mem_map]
  simp only [List.mem_range, eq_comm]

/-- The positions in the first sequence are those on the first sides. -/
theorem mem_map_fst_pairedPositions_iff :
    i ∈ (pairedPositions same resolved a b).map Prod.fst
      ↔ ∃ g, IsPairable same resolved a b g ∧ g.leftStart ≤ i ∧ i < g.leftStop := by
  rw [List.mem_map]
  constructor
  · rintro ⟨p, hp, rfl⟩
    obtain ⟨g, hg, k, hk, rfl⟩ := mem_pairedPositions_iff.mp hp
    unfold Gap.leftLength at hk
    exact ⟨g, hg, Nat.le_add_right _ _, by dsimp only; omega⟩
  · rintro ⟨g, hg, hstart, hstop⟩
    refine ⟨_, mem_pairedPositions_iff.mpr ⟨g, hg, i - g.leftStart, ?_, rfl⟩,
      Nat.add_sub_cancel' hstart⟩
    unfold Gap.leftLength
    omega

/-- The positions in the second sequence are those on the second sides. -/
theorem mem_map_snd_pairedPositions_iff :
    j ∈ (pairedPositions same resolved a b).map Prod.snd
      ↔ ∃ g, IsPairable same resolved a b g ∧ g.rightStart ≤ j ∧ j < g.rightStop := by
  rw [List.mem_map]
  constructor
  · rintro ⟨p, hp, rfl⟩
    obtain ⟨g, hg, k, hk, rfl⟩ := mem_pairedPositions_iff.mp hp
    have hlength := hg.sameLength
    unfold Gap.leftLength at hk
    exact ⟨g, hg, Nat.le_add_right _ _, by dsimp only; omega⟩
  · rintro ⟨g, hg, hstart, hstop⟩
    refine ⟨_, mem_pairedPositions_iff.mpr ⟨g, hg, j - g.rightStart, ?_, rfl⟩,
      Nat.add_sub_cancel' hstart⟩
    have hlength := hg.sameLength
    unfold Gap.leftLength
    omega

/-- **Paired frames are unresolved**, on both sides. -/
theorem unresolved_of_mem_pairedPositions (hp : p ∈ pairedPositions same resolved a b) :
    (∃ x, a[p.1]? = some x ∧ resolved x = false)
      ∧ ∃ y, b[p.2]? = some y ∧ resolved y = false := by
  obtain ⟨g, hg, hstart, hstop⟩ := mem_map_fst_pairedPositions_iff.mp (List.mem_map_of_mem hp)
  obtain ⟨g', hg', hstart', hstop'⟩ :=
    mem_map_snd_pairedPositions_iff.mp (List.mem_map_of_mem hp)
  obtain ⟨-, hlt, -⟩ := hg.isSegment.inside
  obtain ⟨-, -, -, hlt'⟩ := hg'.isSegment.inside
  have hx := List.getElem?_eq_getElem (Nat.lt_of_lt_of_le hstop hlt)
  have hy := List.getElem?_eq_getElem (Nat.lt_of_lt_of_le hstop' hlt')
  exact ⟨⟨_, hx, hg.left_unresolved _ _ hstart hstop hx⟩,
    ⟨_, hy, hg'.right_unresolved _ _ hstart' hstop' hy⟩⟩

/-- **Paired positions are beside the same anchors** on both sides. -/
theorem lt_anchor_iff_of_mem_pairedPositions (hp : p ∈ pairedPositions same resolved a b)
    (hc : c ∈ anchors same resolved a b) : p.1 < c.left ↔ p.2 < c.right := by
  obtain ⟨g, hg, k, hk, rfl⟩ := mem_pairedPositions_iff.mp hp
  have hlength := hg.sameLength
  have hbeside := hg.isSegment.beside pairwise_anchors hc
  unfold Gap.leftLength at hk
  dsimp only
  omega

/-! ### The order of the positions -/

/-- **A segment comes before another one** if it ends in front of it on both sides. -/
def Gap.Before (g h : Gap) : Prop :=
  g.leftStop ≤ h.leftStart ∧ g.rightStop ≤ h.rightStart

/-- The gaps from a start on are not in front of it. -/
theorem le_of_mem_gapsFrom (hcs : cs.Pairwise Anchor.Before)
    (hstart : ∀ c ∈ cs, i ≤ c.left ∧ j ≤ c.right + 1) (hg : g ∈ gapsFrom ends i j cs) :
    i ≤ g.leftStart ∧ j ≤ g.rightStart := by
  induction cs generalizing i j with
  | nil =>
    obtain rfl := List.mem_singleton.mp hg
    exact ⟨le_rfl, le_rfl⟩
  | cons c cs ih =>
    obtain ⟨hc, hcs⟩ := List.pairwise_cons.mp hcs
    obtain ⟨hleft, hright⟩ := hstart c List.mem_cons_self
    rcases List.mem_cons.mp hg with rfl | hg
    · exact ⟨le_rfl, le_rfl⟩
    · obtain ⟨hleft', hright'⟩ :=
        ih hcs (fun d hd => ⟨(hc d hd).1, Nat.succ_le_succ (hc d hd).2⟩) hg
      omega

theorem pairwise_gapsFrom (hcs : cs.Pairwise Anchor.Before) :
    (gapsFrom ends i j cs).Pairwise Gap.Before := by
  induction cs generalizing i j with
  | nil => exact List.pairwise_singleton _ _
  | cons c cs ih =>
    obtain ⟨hc, hcs⟩ := List.pairwise_cons.mp hcs
    refine List.pairwise_cons.mpr ⟨fun g hg => ?_, ih hcs⟩
    obtain ⟨hleft, hright⟩ :=
      le_of_mem_gapsFrom hcs (fun d hd => ⟨(hc d hd).1, Nat.succ_le_succ (hc d hd).2⟩) hg
    exact ⟨by dsimp only; omega, by dsimp only; omega⟩

/-- **The paired positions rise on both sides.** -/
theorem pairwise_pairedPositions :
    (pairedPositions same resolved a b).Pairwise fun p q => p.1 < q.1 ∧ p.2 < q.2 := by
  by_cases hnil : anchors same resolved a b = []
  · rw [pairedPositions_of_eq_nil hnil]
    exact List.Pairwise.nil
  rw [pairedPositions_of_ne_nil hnil, List.pairwise_flatMap]
  have hlength : ∀ g ∈ (gaps ⟨a.length, b.length⟩ (anchors same resolved a b)).filter
      (isBlank resolved a b), g.leftLength = g.rightLength := fun g hg =>
    (isBlank_iff.mp (List.mem_filter.mp hg).2).1
  constructor
  · -- in one segment
    intro g hg
    rw [Gap.positions_eq (hlength g hg), List.pairwise_map]
    exact List.pairwise_lt_range.imp fun hlt => ⟨by dsimp only; omega, by dsimp only; omega⟩
  · -- in one segment and a later one
    refine ((pairwise_gapsFrom pairwise_anchors).filter _).imp_of_mem fun {g h} hg hh hbefore => ?_
    rw [Gap.positions_eq (hlength g hg), Gap.positions_eq (hlength h hh)]
    have hlengthg := hlength g hg
    obtain ⟨hleft, hright⟩ := hbefore
    intro p hp q hq
    obtain ⟨k, hk, rfl⟩ := List.mem_map.mp hp
    obtain ⟨l, hl, rfl⟩ := List.mem_map.mp hq
    rw [List.mem_range] at hk hl
    unfold Gap.leftLength Gap.rightLength at *
    exact ⟨by dsimp only; omega, by dsimp only; omega⟩

end Pairing

end CrashTriage
