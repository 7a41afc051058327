import CrashTriage.Proofs.Pairing.Relabelling

/-!
# Scanning labelled sequences for anchors

A label tells where a frame is. So when two sequences that were labelled where they are paired
(`Pairing.AreLabelled`) are scanned for anchors once more, the labelled frames count as resolved,
and those that are the same as their counterparts become anchors.

This second scan is compared with the first one, frame by frame. The invariant is that **it keeps
step with the first scan** (`Pairing.KeepsStep`): the anchor before is the same one in both scans,
or in the second it is a pair that lies behind. No frame without a label is the same as one of a
pair, and none is anchored in front of a pair that it lies behind. So it is anchored where it was
before (`Pairing.AreLabelled.chosen?_eq`), and **the anchors of the first scan are those of the
second one that are no pairs** (`Pairing.AreLabelled.filter_anchors`).
-/

namespace CrashTriage

namespace Pairing

variable {α : Type} {same : α → α → Bool} {resolved : α → Bool} {a b a' b' : List α}
  {last last' : Option Nat} {i j : Nat} {x y : α} {c : Anchor}

/-- The positions of an anchor. -/
def Anchor.place (c : Anchor) : Nat × Nat :=
  (c.left, c.right)

/-- **Two sequences are labelled where they are paired**: at the paired positions their frames are
resolved now, and none is the same as a frame outside of its pair. All other frames are kept. -/
structure AreLabelled (same : α → α → Bool) (resolved : α → Bool) (a b a' b' : List α) :
    Prop where
  /-- The first sequence is as long as it was. -/
  left_length : a'.length = a.length
  /-- The second sequence is as long as it was. -/
  right_length : b'.length = b.length
  /-- The other frames of the first sequence are kept. -/
  left_kept : ∀ i, i ∉ (pairedPositions same resolved a b).map Prod.fst → a'[i]? = a[i]?
  /-- The other frames of the second sequence are kept. -/
  right_kept : ∀ j, j ∉ (pairedPositions same resolved a b).map Prod.snd → b'[j]? = b[j]?
  /-- The paired frames of the first sequence are resolved. -/
  left_resolved : ∀ i ∈ (pairedPositions same resolved a b).map Prod.fst, ∀ x, a'[i]? = some x →
    resolved x = true
  /-- The paired frames of the second sequence are resolved. -/
  right_resolved : ∀ j ∈ (pairedPositions same resolved a b).map Prod.snd, ∀ y, b'[j]? = some y →
    resolved y = true
  /-- A paired frame is the same as its counterpart at most. -/
  apart : ∀ i j x y, a'[i]? = some x → b'[j]? = some y → same x y = true →
    i ∈ (pairedPositions same resolved a b).map Prod.fst
      ∨ j ∈ (pairedPositions same resolved a b).map Prod.snd →
    (i, j) ∈ pairedPositions same resolved a b

/-! ### The first scan -/

/-- A paired frame of the first sequence is unresolved. -/
theorem unresolved_at_fst (hi : i ∈ (pairedPositions same resolved a b).map Prod.fst)
    (hx : a[i]? = some x) : resolved x ≠ true := by
  obtain ⟨x', hx', hunresolved⟩ := unresolved_of_mem_map_fst hi
  obtain rfl := Option.some.inj (hx.symm.trans hx')
  simpa using hunresolved

/-- A paired frame of the second sequence is unresolved. -/
theorem unresolved_at_snd (hj : j ∈ (pairedPositions same resolved a b).map Prod.snd)
    (hy : b[j]? = some y) : resolved y ≠ true := by
  obtain ⟨y', hy', hunresolved⟩ := unresolved_of_mem_map_snd hj
  obtain rfl := Option.some.inj (hy.symm.trans hy')
  simpa using hunresolved

/-- **Anchored frames are not paired**, as they are resolved. -/
theorem not_mem_of_mem_anchors (hsame : ∀ x y, same x y = same y x)
    (hresolved : ∀ x y, same x y = true → resolved x = true) (hc : c ∈ anchors same resolved a b) :
    c.left ∉ (pairedPositions same resolved a b).map Prod.fst
      ∧ c.right ∉ (pairedPositions same resolved a b).map Prod.snd := by
  obtain ⟨x, y, hx, hy, hxr, hxy⟩ := of_mem_anchors hc
  have hyr : resolved y = true := hresolved y x ((hsame y x).trans hxy)
  exact ⟨fun hleft => unresolved_at_fst hleft hx hxr, fun hright => unresolved_at_snd hright hy hyr⟩

/-- **The first scan reaches a frame** with the last anchor at a position of the other sequence:
what it finds from there on are anchors, and the last one is an anchor in front of the frame. -/
structure Reaches (same : α → α → Bool) (resolved : α → Bool) (a b : List α) (i : Nat)
    (last : Option Nat) : Prop where
  /-- The anchors from the frame on. -/
  ahead : ∀ c ∈ anchorsFrom same resolved b last i (a.drop i), c ∈ anchors same resolved a b
  /-- The anchor before. -/
  behind : ∀ k ∈ last, ∃ c ∈ anchors same resolved a b, c.left < i ∧ c.right = k

theorem reaches_zero : Reaches same resolved a b 0 none where
  ahead c hc := hc
  behind k hk := absurd hk (by simp)

/-- A frame that is not anchored is passed over. -/
theorem Reaches.pass (h : Reaches same resolved a b i last) (hi : i < a.length)
    (hchosen : chosen? same resolved b last a[i] = none) :
    Reaches same resolved a b (i + 1) last where
  ahead c hc := by
    refine h.ahead c ?_
    rwa [List.drop_eq_getElem_cons hi, anchorsFrom_cons_of_none hchosen]
  behind k hk := by
    obtain ⟨c, hc, hleft, hright⟩ := h.behind k hk
    exact ⟨c, hc, Nat.lt_succ_of_lt hleft, hright⟩

/-- The anchor of a frame is one of the anchors. -/
theorem Reaches.mem_anchors (h : Reaches same resolved a b i last) (hi : i < a.length)
    (hchosen : chosen? same resolved b last a[i] = some j) :
    ⟨i, j⟩ ∈ anchors same resolved a b := by
  refine h.ahead _ ?_
  rw [List.drop_eq_getElem_cons hi, anchorsFrom_cons_of_some hchosen]
  exact List.mem_cons_self

/-- A frame that is anchored is the last one from then on. -/
theorem Reaches.anchor (h : Reaches same resolved a b i last) (hi : i < a.length)
    (hchosen : chosen? same resolved b last a[i] = some j) :
    Reaches same resolved a b (i + 1) (some j) where
  ahead c hc := by
    refine h.ahead c ?_
    rw [List.drop_eq_getElem_cons hi, anchorsFrom_cons_of_some hchosen]
    exact List.mem_cons_of_mem _ hc
  behind k hk := by
    obtain rfl := Option.some.inj hk
    exact ⟨⟨i, j⟩, h.mem_anchors hi hchosen, Nat.lt_succ_self i, rfl⟩

/-! ### The second scan beside it -/

/-- **The second scan keeps step with the first one** in front of a frame, if its last anchor is that
of the first scan, or a pair that lies behind that. -/
def KeepsStep (same : α → α → Bool) (resolved : α → Bool) (a b : List α) (i : Nat)
    (last last' : Option Nat) : Prop :=
  last' = last ∨ ∃ p ∈ pairedPositions same resolved a b,
    p.1 < i ∧ last' = some p.2 ∧ ∀ k ∈ last, k < p.2

theorem KeepsStep.succ (h : KeepsStep same resolved a b i last last') :
    KeepsStep same resolved a b (i + 1) last last' := by
  refine h.imp_right ?_
  rintro ⟨p, hp, hlt, hlast', hbehind⟩
  exact ⟨p, hp, Nat.lt_succ_of_lt hlt, hlast', hbehind⟩

/-- A pair lies behind the anchors in front of its first frame. -/
theorem Reaches.keepsStep_pair (h : Reaches same resolved a b i last)
    (hsame : ∀ x y, same x y = same y x)
    (hresolved : ∀ x y, same x y = true → resolved x = true)
    (hp : (i, j) ∈ pairedPositions same resolved a b) :
    KeepsStep same resolved a b (i + 1) last (some j) := by
  refine Or.inr ⟨(i, j), hp, Nat.lt_succ_self i, rfl, fun k hk => ?_⟩
  obtain ⟨c, hc, hleft, rfl⟩ := h.behind k hk
  have hside := lt_anchor_iff_of_mem_pairedPositions hp hc
  have hne : c.right ≠ j := by
    rintro rfl
    exact (not_mem_of_mem_anchors hsame hresolved hc).2 (List.mem_map_of_mem hp)
  dsimp only at hside
  omega

namespace AreLabelled

variable (h : AreLabelled same resolved a b a' b')

include h

/-- **A frame without a label matches the same positions as before.** -/
theorem isMatch_iff (hi : i ∉ (pairedPositions same resolved a b).map Prod.fst)
    (hx : a'[i]? = some x) : IsMatch same resolved b' x j ↔ IsMatch same resolved b x j := by
  constructor
  · rintro ⟨y, hy, hyr, hxy⟩
    have hj : j ∉ (pairedPositions same resolved a b).map Prod.snd := fun hj =>
      hi (List.mem_map_of_mem (h.apart i j x y hx hy hxy (Or.inr hj)))
    exact ⟨y, h.right_kept j hj ▸ hy, hyr, hxy⟩
  · rintro ⟨y, hy, hyr, hxy⟩
    have hj : j ∉ (pairedPositions same resolved a b).map Prod.snd := fun hj =>
      unresolved_at_snd hj hy hyr
    exact ⟨y, (h.right_kept j hj).trans hy, hyr, hxy⟩

/-- **A labelled frame is anchored at its counterpart only.** -/
theorem mem_of_chosen?_eq_some (hi : i ∈ (pairedPositions same resolved a b).map Prod.fst)
    (hx : a'[i]? = some x) (hchosen : chosen? same resolved b' last' x = some j) :
    (i, j) ∈ pairedPositions same resolved a b := by
  obtain ⟨-, y, hy, hxy⟩ := of_chosen?_eq_some hchosen
  exact h.apart i j x y hx hy hxy (Or.inl hi)

/-- Behind a pair, a frame without a label is anchored where it was before: that is behind the pair
as well, and nothing in between is the same. -/
theorem chosen?_eq_of_pair {p : Nat × Nat} (hreach : Reaches same resolved a b i last)
    (hlt : i < a.length) (hi : i ∉ (pairedPositions same resolved a b).map Prod.fst)
    (hp : p ∈ pairedPositions same resolved a b) (hpi : p.1 < i) (hlast : ∀ k ∈ last, k < p.2) :
    chosen? same resolved b' (some p.2) a[i] = chosen? same resolved b last a[i] := by
  have hx : a'[i]? = some a[i] := (h.left_kept i hi).trans (List.getElem?_eq_getElem hlt)
  have hbehind : ∀ j, chosen? same resolved b last a[i] = some j → p.2 < j := fun j hj =>
    (lt_anchor_iff_of_mem_pairedPositions hp (hreach.mem_anchors hlt hj)).mp hpi
  have hstart : last.elim 0 (· + 1) ≤ p.2 + 1 := by
    rcases last with _ | k
    · exact Nat.zero_le _
    · exact Nat.succ_le_succ (Nat.le_of_lt (hlast k rfl))
  ext j
  rw [chosen?_eq_some_iff, chosen?_eq_some_iff]
  refine and_congr_right fun hxr => ?_
  rw [Option.elim_some, nearest?_congr hstart
    (fun k hk hkp => not_isMatch_of_chosen?_lt hxr hbehind hk (Nat.le_of_lt_succ hkp))
    fun k => h.isMatch_iff hi hx]
  -- neither scan may share the frame of the anchor before
  refine or_congr_right (and_congr_right fun hnearest => iff_of_false ?_ ?_)
  · -- it is that of the pair, and has another label
    intro hshared
    obtain ⟨hj, y, hy, hxy⟩ := shared?_eq_some_iff.mp hshared
    obtain rfl := Option.some.inj hj
    exact hi (List.mem_map_of_mem
      (h.apart i p.2 a[i] y hx hy hxy (Or.inr (List.mem_map_of_mem hp))))
  · -- it lies in front of the pair
    intro hshared
    have hj := hbehind j (chosen?_eq_some_iff.mpr ⟨hxr, Or.inr ⟨hnearest, hshared⟩⟩)
    have hj' := hlast j (shared?_eq_some_iff.mp hshared).1
    omega

variable (hsame : ∀ x y, same x y = same y x)
  (hresolved : ∀ x y, same x y = true → resolved x = true)

include hsame hresolved

/-- If the anchor before is the same one in both scans, a frame without a label is anchored where it
was before. -/
theorem chosen?_eq_of_same (hreach : Reaches same resolved a b i last) (hlt : i < a.length)
    (hi : i ∉ (pairedPositions same resolved a b).map Prod.fst) :
    chosen? same resolved b' last a[i] = chosen? same resolved b last a[i] := by
  have hx : a'[i]? = some a[i] := (h.left_kept i hi).trans (List.getElem?_eq_getElem hlt)
  ext j
  have hshared : shared? same b' a[i] last = some j ↔ shared? same b a[i] last = some j := by
    rw [shared?_eq_some_iff, shared?_eq_some_iff]
    refine and_congr_right fun hlast => ?_
    -- the frame of the anchor before is kept
    obtain ⟨c, hc, -, rfl⟩ := hreach.behind j hlast
    rw [h.right_kept c.right (not_mem_of_mem_anchors hsame hresolved hc).2]
  rw [chosen?_eq_some_iff, chosen?_eq_some_iff, hshared,
    nearest?_congr (Nat.le_refl _) (fun k hk hlt => absurd hk (Nat.not_le_of_lt hlt))
      fun k => h.isMatch_iff hi hx]

/-- **A frame without a label is anchored where it was before.** -/
theorem chosen?_eq (hreach : Reaches same resolved a b i last)
    (hstep : KeepsStep same resolved a b i last last') (hlt : i < a.length)
    (hi : i ∉ (pairedPositions same resolved a b).map Prod.fst) :
    chosen? same resolved b' last' a[i] = chosen? same resolved b last a[i] := by
  rcases hstep with rfl | ⟨p, hp, hpi, rfl, hlast⟩
  · exact h.chosen?_eq_of_same hsame hresolved hreach hlt hi
  · exact h.chosen?_eq_of_pair hreach hlt hi hp hpi hlast

/-- **From any frame on, the second scan finds the anchors of the first one**, and pairs besides.
The induction is on how many frames are left. -/
theorem filter_anchorsFrom (n : Nat) (hn : a.length = i + n)
    (hreach : Reaches same resolved a b i last)
    (hstep : KeepsStep same resolved a b i last last') :
    (anchorsFrom same resolved b' last' i (a'.drop i)).filter
        (fun c => c.place ∉ pairedPositions same resolved a b)
      = anchorsFrom same resolved b last i (a.drop i) := by
  induction n generalizing i last last' with
  | zero =>
    rw [List.drop_eq_nil_of_le (by rw [h.left_length, hn, Nat.add_zero]),
      List.drop_eq_nil_of_le (by rw [hn, Nat.add_zero])]
    rfl
  | succ n ih =>
    have hlt : i < a.length := by omega
    have hlt' : i < a'.length := h.left_length ▸ hlt
    have hget' := List.getElem?_eq_getElem hlt'
    rw [List.drop_eq_getElem_cons hlt, List.drop_eq_getElem_cons hlt']
    by_cases hi : i ∈ (pairedPositions same resolved a b).map Prod.fst
    · -- a labelled frame had no anchor, and what it is anchored at now is left out
      have hnone : chosen? same resolved b last a[i] = none :=
        chosen?_of_unresolved
          (eq_false_of_ne_true (unresolved_at_fst hi (List.getElem?_eq_getElem hlt)))
      rw [anchorsFrom_cons_of_none hnone]
      rcases hchosen : chosen? same resolved b' last' a'[i] with _ | j
      · rw [anchorsFrom_cons_of_none hchosen]
        exact ih (by omega) (hreach.pass hlt hnone) hstep.succ
      · have hp : (⟨i, j⟩ : Anchor).place ∈ pairedPositions same resolved a b :=
          h.mem_of_chosen?_eq_some hi hget' hchosen
        rw [anchorsFrom_cons_of_some hchosen, List.filter_cons_of_neg (by simpa using hp)]
        exact ih (by omega) (hreach.pass hlt hnone) (hreach.keepsStep_pair hsame hresolved hp)
    · have hget : a'[i] = a[i] := by
        rw [h.left_kept i hi, List.getElem?_eq_getElem hlt] at hget'
        exact (Option.some.inj hget').symm
      have heq := h.chosen?_eq hsame hresolved hreach hstep hlt hi
      rw [hget]
      rcases hchosen : chosen? same resolved b last a[i] with _ | j
      · rw [anchorsFrom_cons_of_none hchosen, anchorsFrom_cons_of_none (heq.trans hchosen)]
        exact ih (by omega) (hreach.pass hlt hchosen) hstep.succ
      · have hp : (⟨i, j⟩ : Anchor).place ∉ pairedPositions same resolved a b := fun hp =>
          hi (List.mem_map_of_mem hp)
        rw [anchorsFrom_cons_of_some hchosen, anchorsFrom_cons_of_some (heq.trans hchosen),
          List.filter_cons_of_pos (by simpa using hp)]
        exact congrArg _ (ih (by omega) (hreach.anchor hlt hchosen) (Or.inl rfl))

/-- **The anchors are those of the labelled sequences that are no pairs.** -/
theorem filter_anchors :
    (anchors same resolved a' b').filter (fun c => c.place ∉ pairedPositions same resolved a b)
      = anchors same resolved a b :=
  h.filter_anchorsFrom hsame hresolved a.length (Nat.zero_add _).symm reaches_zero (Or.inl rfl)

end AreLabelled

end Pairing

end CrashTriage
