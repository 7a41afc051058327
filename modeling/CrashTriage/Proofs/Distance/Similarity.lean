import CrashTriage.Proofs.Frame.Tolerance
import CrashTriage.Proofs.Metric.Matching
import CrashTriage.Proofs.Metric.UnitInterval
import CrashTriage.Proofs.Number.Single

/-!
# The Jaro–Winkler similarity of frames

Each frame takes the first frame of the other sequence that it matches, even if another frame took
it before. Two things that a similarity promises hold only as long as that does not happen.

**It is symmetric for sequences that match one to one** (`Metric.jaroWinkler_comm`): the pairs of
positions are the same from either side, and so are all counts. Only the two shares of matched
frames change places, and a sum in single precision does not depend on its order
(`Single.add_comm`).

**It is one for a sequence and itself if no frame is repeated within the window**
(`Metric.jaroWinkler_self`). All resolved frames match then, each in its place. A frame that is
repeated matches as well, but takes the one in front of it and counts as displaced: to four calls of
one function, the same four calls are not wholly similar (`Metric.jaroWinkler_self_recursion`).
-/

namespace CrashTriage

/-! ### The score from the other side -/

namespace JaroWinkler

section Score

variable {ρ : Type} [Add ρ] [Sub ρ] [Mul ρ] [Div ρ]

/-- **The score is the same from either side**, if numbers are added in either order. -/
theorem Counts.score_swap (hadd : ∀ p q : ρ, p + q = q + p) (ofNat : Nat → ρ) (fifth : ρ)
    (c : Counts) : c.swap.score ofNat fifth = c.score ofNat fifth := by
  have hbase : c.swap.base ofNat = c.base ofNat := by
    rw [base, base, swap]
    dsimp only
    rw [hadd (ofNat c.matched / ofNat c.right)]
  rw [score, score, hbase]
  rfl

variable [LT ρ] [DecidableLT ρ] {α : Type} {same : α → α → Bool} {a b : List α}

theorem similarityBy_comm (hadd : ∀ p q : ρ, p + q = q + p) (ofNat : Nat → ρ) (fifth : ρ)
    (hcounts : counts same b a = (counts same a b).swap) :
    similarityBy ofNat fifth same b a = similarityBy ofNat fifth same a b := by
  rw [similarityBy, similarityBy, hcounts, Counts.score_swap hadd, Bool.and_comm b.isEmpty]
  rfl

end Score

/-! ### The score that is not cut off -/

section Exact

variable {α : Type} {same : α → α → Bool} {a b : List α}

/-- **The score is not cut off** if no more frames match than the second sequence has. -/
theorem similarityBy_eq_score (hright : (counts same a b).matched ≤ b.length)
    (hpos : 0 < (counts same a b).matched) :
    similarityBy Exact.ofNat (.number (1 / 5)) same a b
      = .number ((counts same a b).score Nat.cast (1 / 5)) := by
  have hle := (counts_areBounded same a b).score_le_one hright hpos
  rw [similarityBy_exact hpos, min_eq_right hle]

/-- **Then the similarity is one if all frames match in place**, and only then. -/
theorem similarityBy_eq_one_iff (hright : (counts same a b).matched ≤ b.length)
    (hpos : 0 < (counts same a b).matched) :
    similarityBy Exact.ofNat (.number (1 / 5)) same a b = .number 1
      ↔ (counts same a b).matched = a.length ∧ (counts same a b).matched = b.length
        ∧ (counts same a b).displaced = 0 := by
  rw [similarityBy_eq_score hright hpos, Exact.number.injEq]
  exact (counts_areBounded same a b).score_eq_one_iff hright hpos

end Exact

/-! ### Frames that all match -/

namespace Counts

variable {n s : Nat}

/-- In single precision as well, **nothing is missing to one** if all frames match in place. -/
theorem score_toFloat32_eq_one (hpos : 0 < n) (hlt : n < 2 ^ 64) (hs : s ≤ beginningCap) :
    (⟨n, n, n, 0, s⟩ : Counts).score Nat.toFloat32 0.2 = 1 := by
  have hmoderate : Single.IsModerate n.toFloat32 := Single.isModerate_toFloat32 hpos hlt
  have hhalf : (0 : Nat).toFloat32 / (2 : Nat).toFloat32 = 0 := by decide +kernel
  have hmean : ((1 : Float32) + 1 + 1) / (3 : Nat).toFloat32 = 1 := by decide +kernel
  have hboost : ∀ k ≤ beginningCap,
      (1 : Float32) + k.toFloat32 * 0.2 * ((1 : Nat).toFloat32 - 1) = 1 := by
    decide +kernel
  have hbase : (⟨n, n, n, 0, s⟩ : Counts).base Nat.toFloat32 = 1 := by
    rw [base]
    dsimp only
    rw [hhalf, Single.div_self hmoderate, Single.sub_zero_div_self hmoderate, hmean]
  rw [score, hbase]
  exact hboost s hs

/-- Where all frames match, displaced ones are all that is missing to one. -/
theorem score_of_all_matched (hpos : 0 < n) (d s : Nat) :
    (⟨n, n, n, d, s⟩ : Counts).score Nat.cast (1 / 5)
      = (1 - (1 - s / 5) * (d / (6 * n)) : ℚ) := by
  have hn : (n : ℚ) ≠ 0 := Nat.cast_ne_zero.mpr hpos.ne'
  have hbase : 1 - (⟨n, n, n, d, s⟩ : Counts).base Nat.cast = (d / (6 * n) : ℚ) := by
    rw [one_sub_base hpos]
    dsimp only
    rw [div_self hn]
    ring
  have hscore : 1 - (⟨n, n, n, d, s⟩ : Counts).score Nat.cast (1 / 5)
      = (1 - s / 5 : ℚ) * (1 - (⟨n, n, n, d, s⟩ : Counts).base Nat.cast) := one_sub_score _
  rw [← hbase, ← hscore, sub_sub_cancel]

end Counts

end JaroWinkler

/-! ### Frames and other frames -/

namespace Metric

open CrashTriage.Frame (sameSite)

variable {a b t : List Frame}

/-- **The similarity does not depend on the order of two sequences.** -/
structure MatchesBothWays (a b : List Frame) : Prop where
  /-- The pairs of positions are the same from either side. -/
  perm_pairs :
    (JaroWinkler.pairs sameSite b a).Perm ((JaroWinkler.pairs sameSite a b).map Prod.swap)
  /-- So are the counts: only the lengths change places. -/
  counts_comm : JaroWinkler.counts sameSite b a = (JaroWinkler.counts sameSite a b).swap
  /-- The similarity is the same in single precision. -/
  compare_comm : jaroWinkler.compare sameSite b a = jaroWinkler.compare sameSite a b
  /-- Exactly, it is the same as well. -/
  exact_comm : jaroWinkler.exact sameSite b a = jaroWinkler.exact sameSite a b
  /-- No more frames match than either sequence has. -/
  matched_le : (JaroWinkler.counts sameSite a b).matched ≤ min a.length b.length
  /-- The score is not cut off. -/
  exact_eq : 0 < (JaroWinkler.counts sameSite a b).matched →
    jaroWinkler.exact sameSite a b
      = .number ((JaroWinkler.counts sameSite a b).score Nat.cast (1 / 5))
  /-- Exactly, the similarity is one if the sequences match frame by frame, and only then. -/
  exact_eq_one_iff : jaroWinkler.exact sameSite a b = .number 1
    ↔ List.Forall₂ (fun f g => sameSite f g = true) a b

/-- **The similarity of sequences that match one to one is symmetric.** -/
theorem jaroWinkler_comm (h : JaroWinkler.IsOneToOne sameSite a b) : MatchesBothWays a b := by
  have hcounts := h.counts_comm Frame.sameSite_comm
  have hbounds := JaroWinkler.counts_areBounded sameSite a b
  have hmatched : (JaroWinkler.counts sameSite a b).matched ≤ b.length := by
    have hle := (JaroWinkler.counts_areBounded sameSite b a).matched_le
    rwa [hcounts] at hle
  refine ⟨h.perm_pairs Frame.sameSite_comm, hcounts, ?_,
    JaroWinkler.similarityBy_comm Exact.add_comm _ _ hcounts,
    Nat.le_min.mpr ⟨hbounds.matched_le, hmatched⟩, JaroWinkler.similarityBy_eq_score hmatched, ?_⟩
  · rw [compare_eq_compareBy, compare_eq_compareBy]
    exact JaroWinkler.similarityBy_comm Single.add_comm _ _ hcounts
  · rw [h.forall₂_iff]
    rcases Nat.eq_zero_or_pos (JaroWinkler.counts sameSite a b).matched with hzero | hpos
    · by_cases hframes : a = [] ∧ b = []
      · obtain ⟨rfl, rfl⟩ := hframes
        exact iff_of_true (JaroWinkler.similarityBy_nil sameSite) ⟨rfl, rfl, rfl⟩
      · -- nothing matches, but there are frames
        refine iff_of_false ?_ ?_
        · rw [exact, compareBy, JaroWinkler.similarityBy_eq_zero hframes hzero]
          exact fun heq => zero_ne_one (Exact.number.inj heq)
        · rintro ⟨hleft, hright, -⟩
          exact hframes ⟨List.length_eq_zero_iff.mp (hleft ▸ hzero),
            List.length_eq_zero_iff.mp (hright ▸ hzero)⟩
    · exact JaroWinkler.similarityBy_eq_one_iff hmatched hpos

/-- Two threads that share three frames, two of them in another order. -/
theorem jaroWinkler_comm_swapped_calls :
    let call (name : String) : Frame := .ofDebuggerSymbol (.ofName name)
    let a := [call "read", call "parse", call "run", call "??"]
    let b := [call "parse", call "read", call "run", call "??", call "main"]
    JaroWinkler.IsOneToOne sameSite a b
      ∧ JaroWinkler.counts sameSite a b = ⟨4, 5, 3, 2, 0⟩
      ∧ JaroWinkler.counts sameSite b a = ⟨5, 4, 3, 2, 0⟩
      ∧ jaroWinkler.compare sameSite b a = jaroWinkler.compare sameSite a b := by
  intro call a b
  have h : JaroWinkler.IsOneToOne sameSite a b := ⟨by decide, by decide⟩
  have hboth := jaroWinkler_comm h
  have hvalue : JaroWinkler.counts sameSite a b = ⟨4, 5, 3, 2, 0⟩ := by decide
  refine ⟨h, hvalue, ?_, hboth.compare_comm⟩
  rw [hboth.counts_comm, hvalue]
  rfl

/-! ### Frames and themselves -/

/-- **What a sequence of frames has in common with itself.** -/
structure MatchesItself (t : List Frame) : Prop where
  /-- All frames match. -/
  matched_eq : (JaroWinkler.counts sameSite t t).matched = t.length
  /-- The common beginning is the whole sequence, as far as it counts. -/
  shared_eq : (JaroWinkler.counts sameSite t t).shared = min t.length JaroWinkler.beginningCap
  /-- No frame is displaced if none is repeated within the window, and only then. -/
  displaced_eq_zero_iff :
    (JaroWinkler.counts sameSite t t).displaced = 0 ↔ JaroWinkler.NoNearRepeat sameSite t
  /-- Each displaced frame takes its part off one. -/
  exact_eq : jaroWinkler.exact sameSite t t
    = .number (1 - (1 - (min t.length JaroWinkler.beginningCap : ℕ) / 5)
        * ((JaroWinkler.counts sameSite t t).displaced / (6 * t.length)))
  /-- Exactly, the similarity is one if no frame is repeated within the window, and only then. -/
  exact_eq_one_iff :
    jaroWinkler.exact sameSite t t = .number 1 ↔ JaroWinkler.NoNearRepeat sameSite t
  /-- In single precision it is one then as well. -/
  compare_eq_one : JaroWinkler.NoNearRepeat sameSite t → t.length < 2 ^ 64 →
    jaroWinkler.compare sameSite t t = 1
  /-- There is no such frame in a short sequence, nor in one without repeated frames. -/
  noNearRepeat : t.length ≤ 3 ∨ t.Pairwise (fun f g => f.sameSite g = false) →
    JaroWinkler.NoNearRepeat sameSite t

/-- **Resolved frames match themselves**, in place unless they are repeated within the window. -/
theorem jaroWinkler_self (hne : t ≠ []) (h : ∀ f ∈ t, f.isResolved = true) : MatchesItself t := by
  have hself : ∀ f ∈ t, sameSite f f = true := fun f hf => by
    rw [Frame.sameSite_self]
    exact h f hf
  have hcounts := JaroWinkler.counts_self hself
  have hplaced := JaroWinkler.displaced_self_eq_zero_iff hself
  have hlength : 0 < t.length := List.length_pos_iff.mpr hne
  have hmatched : (JaroWinkler.counts sameSite t t).matched = t.length :=
    JaroWinkler.length_pairs_self hself
  have hpos : 0 < (JaroWinkler.counts sameSite t t).matched := hmatched ▸ hlength
  refine ⟨hmatched, congrArg JaroWinkler.Counts.shared hcounts, hplaced, ?_, ?_,
    fun hrepeat hlt => ?_, ?_⟩
  · have hscore := JaroWinkler.Counts.score_of_all_matched hlength
      (JaroWinkler.counts sameSite t t).displaced (min t.length JaroWinkler.beginningCap)
    rw [← hscore, ← hcounts]
    exact JaroWinkler.similarityBy_eq_score hmatched.le hpos
  · refine (JaroWinkler.similarityBy_eq_one_iff hmatched.le hpos).trans ?_
    rw [← hplaced]
    exact ⟨fun hall => hall.2.2, fun hzero => ⟨hmatched, hmatched, hzero⟩⟩
  · rw [hplaced.mpr hrepeat] at hcounts
    have hempty : ¬(t.isEmpty && t.isEmpty) = true := by
      rwa [Bool.and_self, List.isEmpty_iff]
    rw [compare, JaroWinkler.similarity, if_neg hempty, if_neg hpos.ne', hcounts,
      JaroWinkler.Counts.score_toFloat32_eq_one hlength hlt (Nat.min_le_right _ _)]
    exact ite_self 1
  · rintro (hshort | hdistinct)
    · exact JaroWinkler.noNearRepeat_of_length_le sameSite hshort
    · refine JaroWinkler.noNearRepeat_of_pairwise (hdistinct.imp fun {f g} hne => ?_)
      rw [Frame.sameSite_comm]
      exact hne

/-- A recursion that returns to a function after the window has closed. -/
theorem jaroWinkler_self_distant_repeat :
    let call (name : String) : Frame := .ofDebuggerSymbol (.named name)
    let t := [call "visit", call "walk", call "open", call "visit"]
    t ≠ [] ∧ (∀ f ∈ t, f.isResolved = true) ∧ MatchesItself t
      ∧ JaroWinkler.NoNearRepeat sameSite t ∧ jaroWinkler.compare sameSite t t = 1 := by
  intro call t
  have hne : t ≠ [] := List.cons_ne_nil _ _
  have hresolved : ∀ f ∈ t, f.isResolved = true := by decide
  have h := jaroWinkler_self hne hresolved
  have hrepeat : JaroWinkler.NoNearRepeat sameSite t :=
    h.displaced_eq_zero_iff.mp (by decide)
  exact ⟨hne, hresolved, h, hrepeat, h.compare_eq_one hrepeat (by decide)⟩

/-- Four calls of one function: three of them take the one in front of it. -/
theorem jaroWinkler_self_recursion :
    let t := List.replicate 4 (Frame.ofDebuggerSymbol (.named "x"))
    t ≠ [] ∧ (∀ f ∈ t, f.isResolved = true)
      ∧ JaroWinkler.counts sameSite t t = ⟨4, 4, 4, 3, 4⟩
      ∧ jaroWinkler.compare sameSite t t = 0.975 ∧ jaroWinkler.compare sameSite t t ≠ 1 := by
  decide +kernel

end Metric

end CrashTriage
