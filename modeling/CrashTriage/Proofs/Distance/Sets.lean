import CrashTriage.Proofs.Frame.Sites
import CrashTriage.Proofs.Metric.Cardinalities
import CrashTriage.Proofs.Metric.JaccardSets
import CrashTriage.Proofs.Metric.UnitInterval
import CrashTriage.Proofs.Number.Shares

/-!
# The Jaccard distance of frames

On plain frames the Jaccard distance is what its name says (`Metric.jaccard_comparesSites`): its
counts are the sizes of the intersection and of the union of two sets of sites, where each
unresolved frame is in the union for itself, and the distance is one minus their quotient, which
needs no cutting off.

In general **the distance depends on which sequence comes first**. The intersection is counted along
the first sequence: how many of its distinct frames occur in the second one. Two frames of different
libraries both occur in a sequence that has the function without a library, which occurs in the
other one once (`Metric.jaccard_two_libraries`). It does not if being the same site is transitive on
the frames of both sequences, and exactly, it depends on nothing but the two counts of the
intersection (`Metric.jaccard_comm`).
-/

namespace CrashTriage

/-! ### The two counts of the intersection -/

namespace Jaccard

variable {α : Type} {same : α → α → Bool} {a b : List α}

/-- Nothing is lost when the intersection is taken off. -/
theorem union_add_common (same : α → α → Bool) (a b : List α) :
    union same a b + common same a b = (distinct same a).length + (distinct same b).length := by
  have hle : common same a b ≤ (distinct same a).length := List.countP_le_length
  rw [union]
  omega

theorem union_comm (h : common same a b = common same b a) :
    union same a b = union same b a := by
  have hab := union_add_common same a b
  have hba := union_add_common same b a
  omega

theorem distance_comm (h : common same a b = common same b a) :
    distance same a b = distance same b a := by
  rw [distance, distance, union_comm h, h]

/-- Where the intersection is at least as large as the union, the distance is cut off at zero. -/
theorem distanceBy_eq_zero (h : union same a b ≤ common same a b) :
    distanceBy Exact.ofNat same a b = .number 0 := by
  rcases Nat.eq_zero_or_pos (union same a b) with hunion | hunion
  · rw [distanceBy, if_pos hunion, Exact.ofNat_zero]
  · have hshare : (1 : ℚ) ≤ common same a b / union same a b :=
      (one_le_div (Nat.cast_pos.mpr hunion)).mpr (Nat.cast_le.mpr h)
    rw [distanceBy_exact hunion.ne', max_eq_left (by linarith)]

/-- Where the intersection is smaller than the union, the distance is positive. -/
theorem distanceBy_eq_sub (h : common same a b < union same a b) :
    distanceBy Exact.ofNat same a b = .number (1 - (common same a b : ℚ) / union same a b)
      ∧ (0 : ℚ) < 1 - (common same a b : ℚ) / union same a b := by
  have hunion : 0 < union same a b := Nat.zero_lt_of_lt h
  have hshare : (common same a b : ℚ) / union same a b < 1 :=
    (div_lt_one (Nat.cast_pos.mpr hunion)).mpr (Nat.cast_lt.mpr h)
  have hpos : (0 : ℚ) < 1 - (common same a b : ℚ) / union same a b := by linarith
  exact ⟨by rw [distanceBy_exact hunion.ne', max_eq_right hpos.le], hpos⟩

/-- A distance that is cut off one way and not the other is not the same both ways. -/
theorem distanceBy_ne (hlt : common same a b < union same a b)
    (hge : union same b a ≤ common same b a) :
    distanceBy Exact.ofNat same a b ≠ distanceBy Exact.ofNat same b a := by
  obtain ⟨hvalue, hpos⟩ := distanceBy_eq_sub hlt
  rw [hvalue, distanceBy_eq_zero hge]
  intro heq
  exact hpos.ne' (Exact.number.inj heq)

/-- Where intersection and union add up to the same number, the shares are the same if the
intersections are. -/
theorem mul_eq_mul_iff_of_add_eq {c u c' u' : Nat} (hsum : u + c = u' + c') (hpos : 0 < u) :
    c * u' = c' * u ↔ c = c' := by
  constructor
  · intro hcross
    have hmul : c * (u + c) = c' * (u + c) := calc
      c * (u + c) = c * u' + c * c' := by rw [hsum, Nat.mul_add]
      _ = c' * u + c' * c := by rw [hcross, Nat.mul_comm c c']
      _ = c' * (u + c) := (Nat.mul_add _ _ _).symm
    exact Nat.eq_of_mul_eq_mul_right (by omega) hmul
  · rintro rfl
    rw [Nat.add_right_cancel hsum]

/-- **Exactly, the distance depends on the order through the intersection only**: it is the same
both ways if the intersection is, or if it is cut off both ways. -/
theorem distanceBy_comm_iff :
    distanceBy Exact.ofNat same a b = distanceBy Exact.ofNat same b a
      ↔ common same a b = common same b a
        ∨ (union same a b ≤ common same a b ∧ union same b a ≤ common same b a) := by
  have hab := union_add_common same a b
  have hba := union_add_common same b a
  rcases Nat.lt_or_ge (common same a b) (union same a b) with hlt | hge <;>
    rcases Nat.lt_or_ge (common same b a) (union same b a) with hlt' | hge'
  · obtain ⟨hvalue, -⟩ := distanceBy_eq_sub hlt
    obtain ⟨hvalue', -⟩ := distanceBy_eq_sub hlt'
    have hne : (union same a b : ℚ) ≠ 0 := Nat.cast_ne_zero.mpr (by omega)
    have hne' : (union same b a : ℚ) ≠ 0 := Nat.cast_ne_zero.mpr (by omega)
    rw [or_iff_left fun hcut => absurd hcut.1 (Nat.not_le_of_lt hlt), hvalue, hvalue',
      Exact.number.injEq, sub_right_inj, div_eq_div_iff hne hne']
    norm_cast
    exact mul_eq_mul_iff_of_add_eq (by omega) (Nat.zero_lt_of_lt hlt)
  · exact iff_of_false (distanceBy_ne hlt hge') (by omega)
  · exact iff_of_false (distanceBy_ne hlt' hge).symm (by omega)
  · rw [distanceBy_eq_zero hge, distanceBy_eq_zero hge']
    exact iff_of_true rfl (Or.inr ⟨hge, hge'⟩)

/-- **What is left of one is not below zero** in single precision, where the intersection is part of
the union. -/
theorem not_one_sub_lt_zero (hle : common same a b ≤ union same a b) (hunion : union same a b ≠ 0)
    (hlength : a.length + b.length < 2 ^ 64) :
    ¬1 - (common same a b).toFloat32 / (union same a b).toFloat32 < 0 := by
  have hdistinct := (distinct_sublist same a).length_le
  have hdistinct' := (distinct_sublist same b).length_le
  have hsum := union_add_common same a b
  have hmoderate : Single.IsModerate (union same a b).toFloat32 :=
    Single.isModerate_toFloat32 (Nat.pos_of_ne_zero hunion) (by omega)
  rcases Nat.eq_zero_or_pos (common same a b) with hzero | hpos
  · -- nothing in common: one is left
    rw [hzero]
    have hquotient : (0 : Nat).toFloat32 / (union same a b).toFloat32 = 0 :=
      Single.zero_div hmoderate
    rw [hquotient]
    decide +kernel
  · exact Single.not_one_sub_div_lt_zero (Single.isModerate_toFloat32 hpos (by omega)) hmoderate
      (Single.toFloat32_le_toFloat32 hpos hle (by omega))

end Jaccard

/-! ### Sets of sites -/

namespace Frame

variable {a b l l' : List Frame}

/-- The sites of a sequence of frames. -/
def sites (l : List Frame) : Finset Site :=
  Jaccard.keys site? l

/-- **The frames are rearranged**: `l'` holds the frames of `l` in any order, and some of the
resolved ones again. -/
def IsRearranged (l l' : List Frame) : Prop :=
  ∃ r, (∀ f ∈ r, f ∈ l ∧ f.isResolved = true) ∧ l'.Perm (r ++ l)

theorem IsRearranged.site? (h : IsRearranged l l') : Jaccard.IsRearranged site? l l' := by
  obtain ⟨r, hr, hperm⟩ := h
  refine ⟨r, fun f hf => ?_, hperm⟩
  rw [isSome_site?]
  exact hr f hf

/-- **The test for being the same site compares sites**, as long as the frames are plain. -/
theorem isKeyedBy_site? (h : ∀ f ∈ l, f.isPlain = true) :
    Jaccard.IsKeyedBy sameSite Frame.site? l :=
  fun f hf g hg => sameSite_iff_site? (h f hf) (h g hg)

theorem unkeyed_site? (l : List Frame) : Jaccard.unkeyed Frame.site? l = l.countP isUnresolved := by
  rw [Jaccard.unkeyed]
  simp only [isNone_site?]

end Frame

namespace Metric

open CrashTriage.Frame (sameSite sites)

variable {a b : List Frame}

/-- **The Jaccard distance compares sets of sites.** -/
structure ComparesSites (a b : List Frame) : Prop where
  /-- The intersection counts the sites of both sequences. -/
  common_eq : Jaccard.common sameSite a b = (sites a ∩ sites b).card
  /-- The union counts the sites of either sequence, and each unresolved frame for itself. -/
  union_eq : Jaccard.union sameSite a b
    = (sites a ∪ sites b).card
      + (a.countP Frame.isUnresolved + b.countP Frame.isUnresolved)
  /-- The intersection is part of the union. -/
  common_le : Jaccard.common sameSite a b ≤ Jaccard.union sameSite a b
  /-- The union and the intersection are all distinct frames of both sequences. -/
  union_add_common : Jaccard.union sameSite a b + Jaccard.common sameSite a b
    = (Jaccard.distinct sameSite a).length + (Jaccard.distinct sameSite b).length
  /-- Exactly, the distance is one minus the share of common frames. -/
  exact_eq : Jaccard.union sameSite a b ≠ 0 →
    jaccard.exact sameSite a b
      = .number (1 - (Jaccard.common sameSite a b : ℚ) / Jaccard.union sameSite a b)
  /-- So it is in single precision. -/
  compare_eq : Jaccard.union sameSite a b ≠ 0 → a.length + b.length < 2 ^ 64 →
    ¬1 - (Jaccard.common sameSite a b).toFloat32 / (Jaccard.union sameSite a b).toFloat32 < 0
      ∧ jaccard.compare sameSite a b
        = 1 - (Jaccard.common sameSite a b).toFloat32 / (Jaccard.union sameSite a b).toFloat32
  /-- Neither the order of the frames nor how often a resolved one is repeated makes a
  difference. -/
  rearranged (a' b' : List Frame) : Frame.IsRearranged a a' → Frame.IsRearranged b b' →
    Jaccard.common sameSite a' b' = Jaccard.common sameSite a b
      ∧ Jaccard.union sameSite a' b' = Jaccard.union sameSite a b
      ∧ jaccard.compare sameSite a' b' = jaccard.compare sameSite a b

/-- **The Jaccard distance of plain frames compares sets of sites.** -/
theorem jaccard_comparesSites (h : ∀ f ∈ a ++ b, f.isPlain = true) : ComparesSites a b := by
  have hkeyed := Frame.isKeyedBy_site? h
  have hunion : Jaccard.union sameSite a b
      = (sites a ∪ sites b).card
        + (a.countP Frame.isUnresolved + b.countP Frame.isUnresolved) := by
    rw [hkeyed.union_eq, Frame.unkeyed_site?, Frame.unkeyed_site?, Nat.add_assoc]
    rfl
  refine ⟨hkeyed.common_eq, hunion, hkeyed.common_le_union, Jaccard.union_add_common _ a b,
    fun hne => ?_, fun hne hlength => ?_, fun a' b' ha hb => ?_⟩
  · have hshare : (Jaccard.common sameSite a b : ℚ) / Jaccard.union sameSite a b ≤ 1 :=
      (div_le_one (Nat.cast_pos.mpr (Nat.pos_of_ne_zero hne))).mpr
        (Nat.cast_le.mpr hkeyed.common_le_union)
    have hexact := Jaccard.distanceBy_exact hne
    rwa [max_eq_right (by linarith)] at hexact
  · have hcut := Jaccard.not_one_sub_lt_zero hkeyed.common_le_union hne hlength
    refine ⟨hcut, ?_⟩
    rw [compare, Jaccard.distance, if_neg hne]
    exact if_neg hcut
  · obtain ⟨hcommon, hunion'⟩ := hkeyed.rearranged ha.site? hb.site?
    refine ⟨hcommon, hunion', ?_⟩
    rw [compare, compare, Jaccard.distance, Jaccard.distance, hcommon, hunion']

/-- Two Python tracebacks that share one function: the one that calls itself counts once, and each
unresolved frame counts for itself. -/
theorem jaccard_comparesSites_recursion :
    let call (name : String) : Frame := .ofPython (.ofName name) "main.py"
    let a := [call "parse", call "parse", call "run", call "??"]
    let b := [call "??", call "run", call "load"]
    (∀ f ∈ a ++ b, f.isPlain = true) ∧ ComparesSites a b
      ∧ Jaccard.common sameSite a b = 1 ∧ Jaccard.union sameSite a b = 5
      ∧ jaccard.exact sameSite a b = .number (4 / 5) := by
  intro call a b
  have hplain : ∀ f ∈ a ++ b, f.isPlain = true := by decide
  have h := jaccard_comparesSites hplain
  have hcommon : Jaccard.common sameSite a b = 1 := by rw [h.common_eq]; decide
  have hunion : Jaccard.union sameSite a b = 5 := by rw [h.union_eq]; decide
  refine ⟨hplain, h, hcommon, hunion, ?_⟩
  rw [h.exact_eq (by omega), hcommon, hunion]
  norm_num

/-! ### The order of the sequences -/

/-- **When the Jaccard distance is symmetric.** If being the same site is transitive on the frames
of both sequences, then intersection, union and distance do not depend on their order; and it is
transitive on plain frames. In general the distance is exactly the same both ways if and only if the
intersection is, or the distance is cut off both ways. -/
theorem jaccard_comm (a b : List Frame) :
    (Jaccard.IsTransitiveOn sameSite (a ++ b) →
        Jaccard.common sameSite a b = Jaccard.common sameSite b a
          ∧ Jaccard.union sameSite a b = Jaccard.union sameSite b a
          ∧ jaccard.compare sameSite a b = jaccard.compare sameSite b a)
      ∧ ((∀ f ∈ a ++ b, f.isPlain = true) → Jaccard.IsTransitiveOn sameSite (a ++ b))
      ∧ (jaccard.exact sameSite a b = jaccard.exact sameSite b a
          ↔ Jaccard.common sameSite a b = Jaccard.common sameSite b a
            ∨ (Jaccard.union sameSite a b ≤ Jaccard.common sameSite a b
              ∧ Jaccard.union sameSite b a ≤ Jaccard.common sameSite b a)) := by
  refine ⟨fun h => ?_, fun h => (Frame.isKeyedBy_site? h).isTransitiveOn,
    Jaccard.distanceBy_comm_iff⟩
  have hcommon := (h.isKeyedBy Frame.sameSite_comm).common_comm
  exact ⟨hcommon, Jaccard.union_comm hcommon, Jaccard.distance_comm hcommon⟩

/-- Frames of two libraries, where every frame has its library, are told apart in both sequences. -/
theorem jaccard_comm_known_libraries :
    let read (library : String) : Frame :=
      ⟨.named "read", .debugger { library := some library }⟩
    let a := [read "libc", read "libpthread"]
    let b := [read "libc"]
    Jaccard.IsTransitiveOn sameSite (a ++ b) ∧ Jaccard.common sameSite a b = 1
      ∧ jaccard.compare sameSite a b = jaccard.compare sameSite b a := by
  intro read a b
  have htransitive : Jaccard.IsTransitiveOn sameSite (a ++ b) := by
    unfold Jaccard.IsTransitiveOn
    decide
  exact ⟨htransitive, by decide, ((jaccard_comm a b).1 htransitive).2.2⟩

/-- Frames of two libraries both occur in a sequence that has the function without a library, and
then nothing is missing from the union; from the other side one of the two is. -/
theorem jaccard_two_libraries :
    let read (library : Option String) : Frame := ⟨.named "read", .debugger { library }⟩
    let a := [read (some "libc"), read (some "libpthread")]
    let b := [read none]
    (∀ f ∈ a ++ b, f.kind = .debugger)
      ∧ Jaccard.common sameSite a b = 2 ∧ Jaccard.union sameSite a b = 1
      ∧ Jaccard.common sameSite b a = 1 ∧ Jaccard.union sameSite b a = 2
      ∧ jaccard.compare sameSite a b = 0 ∧ jaccard.compare sameSite b a = 0.5
      ∧ jaccard.compare sameSite a b ≠ jaccard.compare sameSite b a := by
  decide +kernel

end Metric

end CrashTriage
