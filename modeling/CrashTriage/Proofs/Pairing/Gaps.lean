import CrashTriage.Pairing.Gap
import CrashTriage.Proofs.Pairing.Anchors
import Mathlib.Data.List.Zip

/-!
# Which frames are paired

The gaps lie between the anchors, so their positions are positions of the two sequences. Which gaps
are paired depends on the two sides in the same way (`Pairing.isBlank_swap`): with the anchors
mirrored, the paired positions are mirrored as well (`Pairing.pairedPositions_comm`). If one of the
sequences has no unresolved frame, then no gap can be paired (`Pairing.pairedPositions_eq_nil`).

**A sequence that is paired with itself** is paired in all its unresolved frames, each with itself
(`Pairing.pairedPositions_self`), as long as it has an anchor at all.
-/

namespace CrashTriage

namespace Pairing

variable {α : Type} {same : α → α → Bool} {resolved : α → Bool} {a b : List α}
  {i : Nat}

/-! ### Blank gaps -/

/-- No frame of a stretch is resolved. -/
theorem allUnresolved_iff {l : List α} {start length : Nat} :
    allUnresolved resolved l start length = true
      ↔ ∀ k < length, ∀ x, l[start + k]? = some x → resolved x = false := by
  unfold allUnresolved
  rw [List.all_eq_true]
  constructor
  · intro h k hk x hx
    have hmem : x ∈ (l.drop start).take length := by
      refine List.mem_of_getElem? (i := k) ?_
      rw [List.getElem?_take_of_lt hk, List.getElem?_drop, hx]
    simpa using h x hmem
  · intro h x hx
    obtain ⟨k, hk⟩ := List.mem_iff_getElem?.mp hx
    rw [List.getElem?_take] at hk
    obtain ⟨hlt, hx⟩ := Option.ite_none_right_eq_some.mp hk
    rw [List.getElem?_drop] at hx
    simpa using h k hlt x hx

/-- A stretch of resolved frames is not unresolved, unless it is empty. -/
theorem allUnresolved_eq_false {l : List α} {start length : Nat}
    (h : ∀ x ∈ l, resolved x = true) (hlt : start < l.length) (hpos : 0 < length) :
    allUnresolved resolved l start length = false := by
  refine eq_false_of_ne_true fun hall => ?_
  have hfirst := allUnresolved_iff.mp hall 0 hpos l[start] (List.getElem?_eq_getElem hlt)
  rw [h _ (List.getElem_mem hlt)] at hfirst
  exact absurd hfirst (by simp)

theorem isBlank_iff {g : Gap} :
    isBlank resolved a b g = true
      ↔ g.leftLength = g.rightLength ∧ g.leftLength ≠ 0
        ∧ allUnresolved resolved a g.leftStart g.leftLength = true
        ∧ allUnresolved resolved b g.rightStart g.rightLength = true := by
  unfold isBlank
  simp only [Bool.and_eq_true, beq_iff_eq, bne_iff_ne, and_assoc]

/-- The gap as it is seen from the other sequence. -/
def Gap.swap (g : Gap) : Gap :=
  ⟨g.rightStart, g.rightStop, g.leftStart, g.leftStop⟩

@[simp] theorem Gap.leftLength_swap (g : Gap) : g.swap.leftLength = g.rightLength := rfl

@[simp] theorem Gap.rightLength_swap (g : Gap) : g.swap.rightLength = g.leftLength := rfl

/-- **Whether a gap can be paired is asked of both sides alike.** -/
theorem isBlank_swap (g : Gap) : isBlank resolved b a g.swap = isBlank resolved a b g := by
  rw [Bool.eq_iff_iff, isBlank_iff, isBlank_iff, Gap.leftLength_swap, Gap.rightLength_swap]
  constructor
  · rintro ⟨hlength, hne, hb, ha⟩
    exact ⟨hlength.symm, by omega, ha, hb⟩
  · rintro ⟨hlength, hne, ha, hb⟩
    exact ⟨hlength.symm, by omega, hb, ha⟩

theorem Gap.positions_swap (g : Gap) : g.swap.positions = g.positions.map Prod.swap := by
  rw [positions, positions, List.zip_swap]
  rfl

theorem gapsFrom_swap (ends : Anchor) (i j : Nat) (cs : List Anchor) :
    gapsFrom ends.swap j i (cs.map Anchor.swap) = (gapsFrom ends i j cs).map Gap.swap := by
  induction cs generalizing i j with
  | nil => rfl
  | cons c cs ih =>
    rw [List.map_cons, gapsFrom, gapsFrom, List.map_cons, ← ih]
    rfl

/-- Without any anchor nothing is paired. -/
theorem pairedPositions_of_eq_nil (h : anchors same resolved a b = []) :
    pairedPositions same resolved a b = [] := by
  rw [pairedPositions, h]

/-- With an anchor, the positions of the blank gaps are paired. -/
theorem pairedPositions_of_ne_nil (h : anchors same resolved a b ≠ []) :
    pairedPositions same resolved a b
      = ((gaps ⟨a.length, b.length⟩ (anchors same resolved a b)).filter
          (isBlank resolved a b)).flatMap Gap.positions := by
  obtain ⟨c, cs, hcs⟩ := List.exists_cons_of_ne_nil h
  rw [pairedPositions, hcs]

/-- **With mirrored anchors the mirrored positions are paired.** -/
theorem pairedPositions_comm
    (h : anchors same resolved b a = (anchors same resolved a b).map Anchor.swap) :
    pairedPositions same resolved b a = (pairedPositions same resolved a b).map Prod.swap := by
  by_cases hnil : anchors same resolved a b = []
  · rw [hnil] at h
    rw [pairedPositions_of_eq_nil hnil, pairedPositions_of_eq_nil h]
    rfl
  · have hgaps : gaps ⟨b.length, a.length⟩ (anchors same resolved b a)
        = (gaps ⟨a.length, b.length⟩ (anchors same resolved a b)).map Gap.swap := by
      rw [h]
      exact gapsFrom_swap ⟨a.length, b.length⟩ 0 0 (anchors same resolved a b)
    have hblank : isBlank resolved b a ∘ Gap.swap = isBlank resolved a b := funext isBlank_swap
    rw [pairedPositions_of_ne_nil hnil,
      pairedPositions_of_ne_nil (by rw [h]; simpa using hnil), hgaps, List.filter_map, hblank,
      List.flatMap_map, List.map_flatMap]
    exact List.flatMap_congr fun g _ => Gap.positions_swap g

/-! ### Nothing to pair -/

/-- The gaps end at an anchor or at the ends of the sequences. -/
theorem of_mem_gapsFrom {ends : Anchor} {i j : Nat} {cs : List Anchor} {g : Gap}
    (h : g ∈ gapsFrom ends i j cs) :
    ∃ c, (c = ends ∨ c ∈ cs) ∧ g.leftStop = c.left ∧ g.rightStop = c.right := by
  induction cs generalizing i j with
  | nil =>
    obtain rfl := List.mem_singleton.mp h
    exact ⟨ends, Or.inl rfl, rfl, rfl⟩
  | cons c cs ih =>
    rcases List.mem_cons.mp h with rfl | h
    · exact ⟨c, Or.inr List.mem_cons_self, rfl, rfl⟩
    · obtain ⟨c', hc', hstop⟩ := ih h
      exact ⟨c', hc'.imp id (List.mem_cons_of_mem c), hstop⟩

/-- **A gap lies inside the sequences.** -/
theorem stop_le_of_mem_gaps {g : Gap}
    (h : g ∈ gaps ⟨a.length, b.length⟩ (anchors same resolved a b)) :
    g.leftStop ≤ a.length ∧ g.rightStop ≤ b.length := by
  obtain ⟨c, rfl | hc, hleft, hright⟩ := of_mem_gapsFrom h
  · exact ⟨Nat.le_of_eq hleft, Nat.le_of_eq hright⟩
  · obtain ⟨x, y, hx, hy, -⟩ := of_mem_anchors hc
    obtain ⟨hlt, -⟩ := List.getElem?_eq_some_iff.mp hx
    obtain ⟨hlt', -⟩ := List.getElem?_eq_some_iff.mp hy
    exact ⟨by omega, by omega⟩

/-- **No gap can be paired if one of the sequences has no unresolved frame.** -/
theorem pairedPositions_eq_nil
    (h : (∀ x ∈ a, resolved x = true) ∨ ∀ y ∈ b, resolved y = true) :
    pairedPositions same resolved a b = [] := by
  have hblank : ∀ g ∈ gaps ⟨a.length, b.length⟩ (anchors same resolved a b),
      isBlank resolved a b g = false := by
    intro g hg
    by_contra hne
    obtain ⟨hlength, hpos, ha, hb⟩ := isBlank_iff.mp (eq_true_of_ne_false hne)
    obtain ⟨hleft, hright⟩ := stop_le_of_mem_gaps hg
    -- a gap that is not empty starts at a frame, on either side
    rcases h with h | h
    · have hlt : g.leftStart < a.length := by
        unfold Gap.leftLength at hpos
        omega
      rw [allUnresolved_eq_false h hlt (by omega)] at ha
      exact absurd ha Bool.false_ne_true
    · have hlt : g.rightStart < b.length := by
        unfold Gap.rightLength at hlength
        omega
      rw [allUnresolved_eq_false h hlt (by omega)] at hb
      exact absurd hb Bool.false_ne_true
  by_cases hnil : anchors same resolved a b = []
  · exact pairedPositions_of_eq_nil hnil
  · rw [pairedPositions_of_ne_nil hnil, List.filter_eq_nil_iff.mpr fun g hg => by
      rw [hblank g hg]; exact Bool.false_ne_true]
    rfl

/-! ### A sequence paired with itself -/

/-- A gap of a sequence with itself that has nothing but unresolved frames is paired, unless it is
empty. -/
theorem positions_self_gap {before pre rest : List α} (ha : a = before ++ (pre ++ rest))
    (hpre : ∀ x ∈ pre, resolved x = false) (gs : List Gap) :
    (((⟨before.length, before.length + pre.length, before.length, before.length + pre.length⟩ :
        Gap) :: gs).filter (isBlank resolved a a)).flatMap Gap.positions
      = (List.range' before.length pre.length).map (fun k => (k, k))
        ++ (gs.filter (isBlank resolved a a)).flatMap Gap.positions := by
  have hlength : before.length + pre.length - before.length = pre.length :=
    Nat.add_sub_cancel_left _ _
  -- behind the part in front of it, the stretch of the sequence is `pre`
  have hunresolved : allUnresolved resolved a before.length pre.length = true := by
    refine allUnresolved_iff.mpr fun k hk x hx => hpre x ?_
    rw [ha, List.getElem?_append_right (Nat.le_add_right _ _), Nat.add_sub_cancel_left,
      List.getElem?_append_left hk] at hx
    exact List.mem_of_getElem? hx
  rw [List.filter_cons]
  split
  · rw [List.flatMap_cons, Gap.positions, Gap.leftLength, Gap.rightLength]
    dsimp only
    rw [hlength, List.zip, List.zipWith_self]
  · next hblank =>
    -- the gap is only left out if it is empty
    have hzero : pre.length = 0 := by
      by_contra hne
      refine hblank (isBlank_iff.mpr ⟨rfl, ?_, ?_, ?_⟩)
      · rwa [Gap.leftLength, hlength]
      · rwa [Gap.leftLength, hlength]
      · rwa [Gap.rightLength, hlength]
    rw [hzero]
    rfl

/-- **The blank gaps of a sequence with itself** are its stretches of unresolved frames. Here the
frames `xs` from position `i` on are left, and `pre` are the unresolved ones in front of them, from
the last anchor on. -/
theorem flatMap_positions_self (before pre xs : List α) (ha : a = before ++ (pre ++ xs))
    (hpre : ∀ x ∈ pre, resolved x = false) (hi : i = before.length + pre.length) :
    ((gapsFrom ⟨a.length, a.length⟩ before.length before.length
        (List.zipWith Anchor.mk (xs.findIdxs resolved i) (xs.findIdxs resolved i))).filter
          (isBlank resolved a a)).flatMap Gap.positions
      = (List.range' before.length pre.length ++ xs.findIdxs (fun x => !resolved x) i).map
          fun k => (k, k) := by
  induction xs generalizing before pre i with
  | nil =>
    have hend : a.length = before.length + pre.length := by
      rw [ha, List.append_nil, List.length_append]
    rw [List.findIdxs_nil, List.findIdxs_nil, List.zipWith_nil_left, gapsFrom, hend,
      positions_self_gap ha hpre, List.map_append]
    rfl
  | cons x xs ih =>
    rw [List.findIdxs_cons, List.findIdxs_cons]
    rcases hx : resolved x with _ | _
    · -- one more unresolved frame behind the last anchor
      have ha' : a = before ++ ((pre ++ [x]) ++ xs) := by simpa using ha
      have hpre' : ∀ y ∈ pre ++ [x], resolved y = false := by
        intro y hy
        rcases List.mem_append.mp hy with hy | hy
        · exact hpre y hy
        · rw [List.mem_singleton.mp hy]
          exact hx
      have hi' : i + 1 = before.length + (pre ++ [x]).length := by
        rw [List.length_append, List.length_singleton, hi, Nat.add_assoc]
      rw [if_neg (by simp), if_pos (by simp), ih before (pre ++ [x]) ha' hpre' hi',
        List.length_append, List.length_singleton, List.range'_concat, hi]
      simp
    · -- an anchor: the gap in front of it ends, and the next one starts behind it
      have ha' : a = (before ++ pre ++ [x]) ++ ([] ++ xs) := by simpa using ha
      have hlength : (before ++ pre ++ [x]).length = i + 1 := by
        rw [List.length_append, List.length_append, List.length_singleton, hi]
      have hrest := ih (before ++ pre ++ [x]) [] ha' (by simp) (by rw [hlength])
      rw [hlength, List.length_nil, List.range'_zero, List.nil_append] at hrest
      rw [if_pos rfl, if_neg (by simp), List.zipWith_cons_cons, gapsFrom, hi,
        positions_self_gap ha hpre, ← hi, hrest, List.map_append]

/-- Among the frames of a sequence itself, the resolved ones are shared. -/
theorem isShared_self (hself : ∀ x, same x x = resolved x) {x : α} (hx : x ∈ a) :
    isShared same resolved a x = resolved x := by
  rcases hresolved : resolved x with _ | _
  · rw [isShared, hresolved, Bool.false_and]
  · rw [isShared, hresolved, Bool.true_and, List.any_eq_true]
    exact ⟨x, hx, by rw [hself, hresolved]; rfl⟩

theorem findIdxs_congr {p q : α → Bool} {xs : List α} (h : ∀ x ∈ xs, p x = q x) (i : Nat) :
    xs.findIdxs p i = xs.findIdxs q i := by
  induction xs generalizing i with
  | nil => rfl
  | cons x xs ih =>
    obtain ⟨hx, hxs⟩ := List.forall_mem_cons.mp h
    rw [List.findIdxs_cons, List.findIdxs_cons, hx, ih hxs]

/-- **A sequence that is paired with itself** is paired in all its unresolved frames, if it has a
resolved one. -/
theorem pairedPositions_self (hsame : ∀ x y, same x y = same y x)
    (hself : ∀ x, same x x = resolved x) (hresolved : ∀ x y, same x y = true → resolved x = true)
    (h : ∃ x ∈ a, resolved x = true) :
    pairedPositions same resolved a a
      = (a.findIdxs fun x => !resolved x).map fun k => (k, k) := by
  have hanchors : anchors same resolved a a
      = List.zipWith Anchor.mk (a.findIdxs resolved) (a.findIdxs resolved) := by
    rw [anchors_of_inStep hsame hresolved (inStep_self hself a),
      findIdxs_congr (fun x hx => isShared_self hself hx)]
  have hne : anchors same resolved a a ≠ [] := by
    obtain ⟨x, hx, hxr⟩ := h
    rw [hanchors, List.zipWith_self]
    intro hnil
    have hnone := List.findIdxs_eq_nil_iff.mp (List.map_eq_nil_iff.mp hnil) x hx
    rw [hxr] at hnone
    exact absurd hnone (by simp)
  rw [pairedPositions_of_ne_nil hne, hanchors]
  exact flatMap_positions_self [] [] a rfl (by simp) rfl

end Pairing

end CrashTriage
