import CrashTriage.Pairing.Anchor
import Mathlib.Data.List.Forall2
import Mathlib.Data.List.Basic

/-!
# Where the anchors are

A resolved frame is anchored at the first match behind the anchor before (`Pairing.IsMatch`), or
where there is none, it may share that anchor (`Pairing.chosen?_eq_some_iff`). Every anchor is a
position of each sequence, and their frames are the same (`Pairing.of_mem_anchors`). The anchors are
chosen along the first sequence, so in general those of the two sequences in the other order are
different ones: a frame that comes twice on one side and once on the other is anchored twice or
once.

**Sequences are in step** if the frames that they share come one by one in the same order on both
sides (`Pairing.InStep`). Then the choice is forced: the anchors are the shared frames one by one
(`Pairing.anchors_of_inStep`), whichever of the sequences comes first
(`Pairing.anchors_comm_of_inStep`).
-/

namespace CrashTriage

namespace Pairing

variable {α : Type} {same : α → α → Bool} {resolved : α → Bool} {a b : List α}
  {last : Option Nat} {i j : Nat} {x : α} {xs : List α}

/-! ### The choice for one frame -/

/-- The position that a frame is anchored at, if there is one: the nearest one behind the anchor
before, or else that of the anchor before. -/
def chosen? (same : α → α → Bool) (resolved : α → Bool) (b : List α) (last : Option Nat) (x : α) :
    Option Nat :=
  if resolved x then nearest? same resolved b x (last.elim 0 (· + 1)) <|> shared? same b x last
  else none

theorem anchorsFrom_cons_of_some (h : chosen? same resolved b last x = some j) :
    anchorsFrom same resolved b last i (x :: xs)
      = ⟨i, j⟩ :: anchorsFrom same resolved b (some j) (i + 1) xs := by
  rw [anchorsFrom, ← chosen?, h]

theorem anchorsFrom_cons_of_none (h : chosen? same resolved b last x = none) :
    anchorsFrom same resolved b last i (x :: xs)
      = anchorsFrom same resolved b last (i + 1) xs := by
  rw [anchorsFrom, ← chosen?, h]

/-- **A frame matches a position** of the other sequence whose frame is resolved and the same. -/
def IsMatch (same : α → α → Bool) (resolved : α → Bool) (b : List α) (x : α) (j : Nat) : Prop :=
  ∃ y, b[j]? = some y ∧ resolved y = true ∧ same x y = true

/-- A match is found by the test of `nearest?`. -/
theorem isMatch_add_iff {start k : Nat} :
    IsMatch same resolved b x (start + k)
      ↔ ∃ h : k < (b.drop start).length,
          (resolved (b.drop start)[k] && same x (b.drop start)[k]) = true := by
  rw [IsMatch, ← List.getElem?_drop]
  constructor
  · rintro ⟨y, hy, hresolved, hxy⟩
    obtain ⟨hlt, rfl⟩ := List.getElem?_eq_some_iff.mp hy
    exact ⟨hlt, (Bool.and_eq_true _ _).mpr ⟨hresolved, hxy⟩⟩
  · rintro ⟨hlt, h⟩
    exact ⟨_, List.getElem?_eq_getElem hlt, (Bool.and_eq_true _ _).mp h⟩

/-- **The nearest position is the first match** from the start on. -/
theorem nearest?_eq_some_iff {start : Nat} :
    nearest? same resolved b x start = some j
      ↔ start ≤ j ∧ IsMatch same resolved b x j
        ∧ ∀ k, start ≤ k → k < j → ¬IsMatch same resolved b x k := by
  rw [nearest?, Option.map_eq_some_iff]
  constructor
  · rintro ⟨d, hd, rfl⟩
    obtain ⟨hlt, hmatch, hbefore⟩ := List.findIdx?_eq_some_iff_getElem.mp hd
    refine ⟨Nat.le_add_right _ _, isMatch_add_iff.mpr ⟨hlt, hmatch⟩, fun k hk hkd hkmatch => ?_⟩
    obtain ⟨e, rfl⟩ := Nat.exists_eq_add_of_le hk
    exact hbefore e (by omega) (isMatch_add_iff.mp hkmatch).2
  · rintro ⟨hstart, hmatch, hbefore⟩
    obtain ⟨d, rfl⟩ := Nat.exists_eq_add_of_le hstart
    obtain ⟨hlt, hmatch⟩ := isMatch_add_iff.mp hmatch
    refine ⟨d, List.findIdx?_eq_some_iff_getElem.mpr ⟨hlt, hmatch, fun e he hematch => ?_⟩, rfl⟩
    exact hbefore (start + e) (Nat.le_add_right _ _) (by omega) (isMatch_add_iff.mpr ⟨_, hematch⟩)

/-- **There is no nearest position without a match.** -/
theorem nearest?_eq_none_iff {start : Nat} :
    nearest? same resolved b x start = none
      ↔ ∀ k, start ≤ k → ¬IsMatch same resolved b x k := by
  constructor
  · intro h k hk hmatch
    obtain ⟨d, rfl⟩ := Nat.exists_eq_add_of_le hk
    obtain ⟨hlt, hmatch⟩ := isMatch_add_iff.mp hmatch
    rw [nearest?, Option.map_eq_none_iff, List.findIdx?_eq_none_iff] at h
    rw [h _ (List.getElem_mem hlt)] at hmatch
    exact absurd hmatch Bool.false_ne_true
  · intro h
    rcases hnearest : nearest? same resolved b x start with _ | j
    · rfl
    · obtain ⟨hstart, hmatch, -⟩ := nearest?_eq_some_iff.mp hnearest
      exact absurd hmatch (h j hstart)

/-- **The nearest position depends on the matches only**, and not on a start that no match is
missed by. -/
theorem nearest?_congr {b' : List α} {start start' : Nat} (hle : start ≤ start')
    (hmissed : ∀ k, start ≤ k → k < start' → ¬IsMatch same resolved b x k)
    (hmatch : ∀ k, IsMatch same resolved b' x k ↔ IsMatch same resolved b x k) :
    nearest? same resolved b' x start' = nearest? same resolved b x start := by
  ext j
  simp only [nearest?_eq_some_iff, hmatch]
  constructor
  · rintro ⟨hstart, hj, hbefore⟩
    refine ⟨Nat.le_trans hle hstart, hj, fun k hk hkj => ?_⟩
    rcases Nat.lt_or_ge k start' with hlt | hge
    · exact hmissed k hk hlt
    · exact hbefore k hge hkj
  · rintro ⟨hstart, hj, hbefore⟩
    refine ⟨?_, hj, fun k hk => hbefore k (Nat.le_trans hle hk)⟩
    by_contra hlt
    exact hmissed j hstart (Nat.lt_of_not_le hlt) hj

/-- A shared position is that of the anchor before, and its frame is the same. -/
theorem shared?_eq_some_iff :
    shared? same b x last = some j ↔ last = some j ∧ ∃ y, b[j]? = some y ∧ same x y = true := by
  rw [shared?, Option.filter_eq_some_iff, Option.any_eq_true]

/-- **A resolved frame is anchored** at the nearest position, or, if there is none, at the shared
one. -/
theorem chosen?_eq_some_iff :
    chosen? same resolved b last x = some j
      ↔ resolved x = true
        ∧ (nearest? same resolved b x (last.elim 0 (· + 1)) = some j
          ∨ nearest? same resolved b x (last.elim 0 (· + 1)) = none
            ∧ shared? same b x last = some j) := by
  rw [chosen?, Option.ite_none_right_eq_some, Option.orElse_eq_orElse, Option.orElse_eq_or,
    Option.or_eq_some_iff]

theorem chosen?_of_unresolved (h : resolved x = false) :
    chosen? same resolved b last x = none := by
  rw [chosen?, h, if_neg Bool.false_ne_true]

/-- **A resolved frame that is anchored behind a position at the earliest** has no match up to
there. -/
theorem not_isMatch_of_chosen?_lt {m : Nat} (hx : resolved x = true)
    (hlt : ∀ j, chosen? same resolved b last x = some j → m < j) {k : Nat}
    (hstart : last.elim 0 (· + 1) ≤ k) (hk : k ≤ m) : ¬IsMatch same resolved b x k := by
  intro hmatch
  rcases hnearest : nearest? same resolved b x (last.elim 0 (· + 1)) with _ | j
  · exact nearest?_eq_none_iff.mp hnearest k hstart hmatch
  · have hj := hlt j (chosen?_eq_some_iff.mpr ⟨hx, Or.inl hnearest⟩)
    exact (nearest?_eq_some_iff.mp hnearest).2.2 k hstart (by omega) hmatch

/-- **Only resolved frames are anchored**, and only at the same frame. -/
theorem of_chosen?_eq_some (h : chosen? same resolved b last x = some j) :
    resolved x = true ∧ ∃ y, b[j]? = some y ∧ same x y = true := by
  obtain ⟨hx, hnearest | ⟨-, hshared⟩⟩ := chosen?_eq_some_iff.mp h
  · obtain ⟨-, ⟨y, hy, -, hxy⟩, -⟩ := nearest?_eq_some_iff.mp hnearest
    exact ⟨hx, y, hy, hxy⟩
  · exact ⟨hx, (shared?_eq_some_iff.mp hshared).2⟩

/-- **An anchor joins a resolved frame to the same frame** of the other sequence. -/
theorem of_mem_anchorsFrom {c : Anchor} (h : c ∈ anchorsFrom same resolved b last i xs) :
    ∃ k x y, c.left = i + k ∧ xs[k]? = some x ∧ b[c.right]? = some y ∧ resolved x = true
      ∧ same x y = true := by
  induction xs generalizing last i with
  | nil => exact absurd h List.not_mem_nil
  | cons x xs ih =>
    rcases hchosen : chosen? same resolved b last x with _ | j
    · rw [anchorsFrom_cons_of_none hchosen] at h
      obtain ⟨k, x', y, hleft, hx', hrest⟩ := ih h
      exact ⟨k + 1, x', y, by omega, hx', hrest⟩
    · rw [anchorsFrom_cons_of_some hchosen] at h
      rcases List.mem_cons.mp h with rfl | h
      · obtain ⟨hx, y, hy, hxy⟩ := of_chosen?_eq_some hchosen
        exact ⟨0, x, y, rfl, rfl, hy, hx, hxy⟩
      · obtain ⟨k, x', y, hleft, hx', hrest⟩ := ih h
        exact ⟨k + 1, x', y, by omega, hx', hrest⟩

theorem of_mem_anchors {c : Anchor} (h : c ∈ anchors same resolved a b) :
    ∃ x y, a[c.left]? = some x ∧ b[c.right]? = some y ∧ resolved x = true
      ∧ same x y = true := by
  obtain ⟨k, x, y, hleft, hx, hrest⟩ := of_mem_anchorsFrom h
  rw [Nat.zero_add] at hleft
  exact ⟨x, y, hleft ▸ hx, hrest⟩

/-! ### Sequences in step -/

/-- Whether a frame is resolved and the same as a resolved frame of the other sequence. -/
def isShared (same : α → α → Bool) (resolved : α → Bool) (other : List α) (x : α) : Bool :=
  resolved x && other.any fun y => resolved y && same x y

/-- **Two sequences are in step** if the frames that they share come one by one in the same order
on both sides. -/
def InStep (same : α → α → Bool) (resolved : α → Bool) (a b : List α) : Prop :=
  List.Forall₂ (fun x y => same x y = true) (a.filter (isShared same resolved b))
    (b.filter (isShared same resolved a))

theorem InStep.symm (hsame : ∀ x y, same x y = same y x) (h : InStep same resolved a b) :
    InStep same resolved b a :=
  List.Forall₂.flip (h.imp fun x y hxy => (hsame y x).trans hxy)

/-- A frame that is not shared has no anchor. -/
theorem chosen?_eq_none (hsame : ∀ x y, same x y = same y x)
    (hresolved : ∀ x y, same x y = true → resolved x = true)
    (h : isShared same resolved b x = false) : chosen? same resolved b last x = none := by
  rcases hchosen : chosen? same resolved b last x with _ | j
  · rfl
  · obtain ⟨hx, y, hy, hxy⟩ := of_chosen?_eq_some hchosen
    have hshared : isShared same resolved b x = true := by
      rw [isShared, hx, Bool.true_and, List.any_eq_true]
      refine ⟨y, List.mem_of_getElem? hy, ?_⟩
      rw [hxy, hresolved y x ((hsame y x).trans hxy)]
      rfl
    rw [h] at hshared
    exact absurd hshared (by simp)

/-- Behind frames that are not shared, the first shared one is chosen if it is the same. -/
theorem chosen?_eq_some (hsame : ∀ x y, same x y = same y x) {before pre post : List α} {y : α}
    (hx : resolved x = true) (hxa : x ∈ a) (hb : b = before ++ (pre ++ y :: post))
    (hstart : last.elim 0 (· + 1) = before.length)
    (hpre : ∀ z ∈ pre, isShared same resolved a z = false) (hy : resolved y = true)
    (hxy : same x y = true) :
    chosen? same resolved b last x = some (before.length + pre.length) := by
  -- what is the same as `x` is shared, since `x` is one of the frames of the other sequence
  have hnone : ∀ z ∈ pre, (resolved z && same x z) = false := by
    intro z hz
    by_contra hne
    obtain ⟨hresolved, hxz⟩ := (Bool.and_eq_true _ _).mp (eq_true_of_ne_false hne)
    have hshared : isShared same resolved a z = true := by
      rw [isShared, hresolved, Bool.true_and, List.any_eq_true]
      exact ⟨x, hxa, by rw [hx, hsame z x, hxz]; rfl⟩
    rw [hpre z hz] at hshared
    exact absurd hshared (by simp)
  have hfind : (pre ++ y :: post).findIdx? (fun z => resolved z && same x z)
      = some pre.length := by
    rw [List.findIdx?_append, List.findIdx?_eq_none_iff.mpr hnone, List.findIdx?_cons, hy, hxy]
    simp
  rw [chosen?, if_pos hx, nearest?, hstart, hb, List.drop_left, hfind]
  rfl

/-- The anchors of the remaining frames, if these are in step with the frames behind the anchor
before. -/
theorem anchorsFrom_of_inStep (hsame : ∀ x y, same x y = same y x)
    (hresolved : ∀ x y, same x y = true → resolved x = true) (before rest : List α)
    (hxs : ∀ x ∈ xs, x ∈ a) (hb : b = before ++ rest)
    (hstart : last.elim 0 (· + 1) = before.length)
    (h : List.Forall₂ (fun x y => same x y = true) (xs.filter (isShared same resolved b))
      (rest.filter (isShared same resolved a))) :
    anchorsFrom same resolved b last i xs
      = List.zipWith Anchor.mk (xs.findIdxs (isShared same resolved b) i)
          (rest.findIdxs (isShared same resolved a) before.length) := by
  induction xs generalizing last i before rest with
  | nil => rfl
  | cons x xs ih =>
    obtain ⟨hxa, hxs⟩ := List.forall_mem_cons.mp hxs
    rcases hx : isShared same resolved b x with _ | _
    · -- a frame that is not shared has no anchor and no partner
      rw [List.filter_cons_of_neg (by simp [hx])] at h
      rw [anchorsFrom_cons_of_none (chosen?_eq_none hsame hresolved hx), List.findIdxs_cons, hx]
      exact ih before rest hxs hb hstart h
    · -- the frame is shared, and its partner is the first shared one on the other side
      rw [List.filter_cons_of_pos hx] at h
      obtain ⟨y, ys, hxy, hxsys, hfilter⟩ := List.forall₂_cons_left_iff.mp h
      obtain ⟨pre, post, rfl, hpre, hy, rfl⟩ := List.filter_eq_cons_iff.mp hfilter
      have hpre : ∀ z ∈ pre, isShared same resolved a z = false := fun z hz => by
        simpa using hpre z hz
      have hchosen := chosen?_eq_some hsame ((Bool.and_eq_true _ _).mp hx).1 hxa hb hstart hpre
        ((Bool.and_eq_true _ _).mp hy).1 hxy
      have hb' : b = (before ++ pre ++ [y]) ++ post := by simpa using hb
      have hstart' : (some (before.length + pre.length)).elim 0 (· + 1)
          = (before ++ pre ++ [y]).length := by simp [Nat.add_assoc]
      rw [anchorsFrom_cons_of_some hchosen, ih _ post hxs hb' hstart' hxsys, List.findIdxs_append,
        List.findIdxs_eq_nil_iff.mpr hpre, List.findIdxs_cons, List.findIdxs_cons, hx, hy]
      simp [Nat.add_assoc]

/-- **The anchors of sequences in step** are the shared frames, one by one. -/
theorem anchors_of_inStep (hsame : ∀ x y, same x y = same y x)
    (hresolved : ∀ x y, same x y = true → resolved x = true) (h : InStep same resolved a b) :
    anchors same resolved a b
      = List.zipWith Anchor.mk (a.findIdxs (isShared same resolved b))
          (b.findIdxs (isShared same resolved a)) :=
  anchorsFrom_of_inStep hsame hresolved [] b (fun _ hx => hx) rfl rfl h

/-- The anchor as it is seen from the other sequence. -/
def Anchor.swap (c : Anchor) : Anchor :=
  ⟨c.right, c.left⟩

/-- **Sequences in step have the same anchors in either order.** -/
theorem anchors_comm_of_inStep (hsame : ∀ x y, same x y = same y x)
    (hresolved : ∀ x y, same x y = true → resolved x = true) (h : InStep same resolved a b) :
    anchors same resolved b a = (anchors same resolved a b).map Anchor.swap := by
  rw [anchors_of_inStep hsame hresolved h, anchors_of_inStep hsame hresolved (h.symm hsame),
    List.map_zipWith, List.zipWith_comm]
  rfl

/-- **A sequence is in step with itself**, if resolved frames are the same as themselves. -/
theorem inStep_self (hself : ∀ x, same x x = resolved x) (a : List α) :
    InStep same resolved a a := by
  refine List.forall₂_same.mpr fun x hx => ?_
  rw [hself]
  exact ((Bool.and_eq_true _ _).mp (List.mem_filter.mp hx).2).1

end Pairing

end CrashTriage
