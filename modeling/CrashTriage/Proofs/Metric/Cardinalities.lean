import CrashTriage.Metric.Jaccard
import Mathlib.Data.Finset.Card
import Mathlib.Data.Finset.Dedup

/-!
# The sizes that the Jaccard distance counts

The sizes of the intersection and of the union are counted by scanning, since a test for being the
same need not have classes. Where it has, the scans come to what they stand for.

A test has classes if it **compares keys** (`Jaccard.IsKeyedBy`): each frame has a key or none, and
two frames are the same if both have a key, and the same one. Then the distinct frames of a sequence
are one for each of its keys, and all frames without a key (`Jaccard.IsKeyedBy.length_distinct`).
So **the intersection and the union are those of the sets of keys**, where a frame without a key is
an element of the union that nothing else is equal to (`Jaccard.IsKeyedBy.common_eq`,
`Jaccard.IsKeyedBy.union_eq`), and neither depends on the order of the two sequences
(`Jaccard.IsKeyedBy.common_comm`).

**Any symmetric and transitive test compares keys** (`Jaccard.IsTransitiveOn.isKeyedBy`): the key of
a frame is the position of the first one that it is the same as.
-/

namespace CrashTriage

namespace Jaccard

variable {α : Type} {same : α → α → Bool} {a b l l' : List α} {x : α}

/-! ### Tests that compare keys -/

section Keys

variable {κ : Type} {key : α → Option κ} {k : κ}

/-- **The test compares keys**: two frames of the sequence are the same exactly if both have a key,
and it is the same one. -/
def IsKeyedBy (same : α → α → Bool) (key : α → Option κ) (l : List α) : Prop :=
  ∀ x ∈ l, ∀ y ∈ l, same x y = true ↔ ∃ k, key x = some k ∧ key y = some k

theorem IsKeyedBy.mono (h : IsKeyedBy same key l) (hsubset : l' ⊆ l) : IsKeyedBy same key l' :=
  fun x hx y hy => h x (hsubset hx) y (hsubset hy)

theorem IsKeyedBy.tail (h : IsKeyedBy same key (x :: l)) : IsKeyedBy same key l :=
  h.mono (List.subset_cons_self x l)

/-- How many frames of a sequence have no key. -/
def unkeyed (key : α → Option κ) (l : List α) : Nat :=
  l.countP fun x => (key x).isNone

theorem unkeyed_cons_of_none (hx : key x = none) : unkeyed key (x :: l) = unkeyed key l + 1 := by
  rw [unkeyed, List.countP_cons_of_pos (by rw [hx]; rfl), unkeyed]

theorem unkeyed_cons_of_some (hx : key x = some k) : unkeyed key (x :: l) = unkeyed key l := by
  rw [unkeyed, List.countP_cons_of_neg (by rw [hx]; exact Bool.false_ne_true), unkeyed]

/-- **The sequence is rearranged**: `l'` holds the frames of `l` in any order, and some of those
with a key again. -/
def IsRearranged (key : α → Option κ) (l l' : List α) : Prop :=
  ∃ r, (∀ x ∈ r, x ∈ l ∧ (key x).isSome = true) ∧ l'.Perm (r ++ l)

theorem IsRearranged.subset (h : IsRearranged key l l') : l' ⊆ l := by
  obtain ⟨r, hr, hperm⟩ := h
  intro x hx
  rcases List.mem_append.mp (hperm.mem_iff.mp hx) with hxr | hxl
  · exact (hr x hxr).1
  · exact hxl

theorem IsRearranged.unkeyed_eq (h : IsRearranged key l l') : unkeyed key l' = unkeyed key l := by
  obtain ⟨r, hr, hperm⟩ := h
  have hrepeated : unkeyed key r = 0 := by
    rw [unkeyed, List.countP_eq_zero]
    intro x hx hnone
    exact Option.isSome_iff_ne_none.mp (hr x hx).2 (Option.isNone_iff_eq_none.mp hnone)
  rw [unkeyed, hperm.countP_eq, List.countP_append, ← unkeyed, ← unkeyed, hrepeated, Nat.zero_add]

variable [DecidableEq κ]

/-- The set of the keys of a sequence. -/
def keys (key : α → Option κ) (l : List α) : Finset κ :=
  (l.filterMap key).toFinset

theorem mem_keys : k ∈ keys key l ↔ ∃ x ∈ l, key x = some k := by
  rw [keys, List.mem_toFinset, List.mem_filterMap]

theorem keys_cons_of_none (hx : key x = none) : keys key (x :: l) = keys key l := by
  rw [keys, List.filterMap_cons_none hx, keys]

theorem keys_cons_of_some (hx : key x = some k) : keys key (x :: l) = insert k (keys key l) := by
  rw [keys, List.filterMap_cons_some hx, List.toFinset_cons, keys]

theorem IsRearranged.keys_eq (h : IsRearranged key l l') : keys key l' = keys key l := by
  have hsubset := h.subset
  obtain ⟨r, -, hperm⟩ := h
  ext k
  rw [mem_keys, mem_keys]
  constructor
  · rintro ⟨x, hx, hk⟩
    exact ⟨x, hsubset hx, hk⟩
  · rintro ⟨x, hx, hk⟩
    exact ⟨x, hperm.mem_iff.mpr (List.mem_append_right r hx), hk⟩

namespace IsKeyedBy

/-- **A frame occurs in a sequence that its key is one of.** -/
theorem occurs_iff (h : IsKeyedBy same key (x :: l)) :
    occurs same l x = true ↔ ∃ k, key x = some k ∧ k ∈ keys key l := by
  rw [occurs, List.any_eq_true]
  constructor
  · rintro ⟨y, hy, hyx⟩
    obtain ⟨k, hky, hkx⟩ := (h y (List.mem_cons_of_mem x hy) x List.mem_cons_self).mp hyx
    exact ⟨k, hkx, mem_keys.mpr ⟨y, hy, hky⟩⟩
  · rintro ⟨k, hkx, hk⟩
    obtain ⟨y, hy, hky⟩ := mem_keys.mp hk
    exact ⟨y, hy, (h y (List.mem_cons_of_mem x hy) x List.mem_cons_self).mpr ⟨k, hky, hkx⟩⟩

theorem occurs_iff_of_some (h : IsKeyedBy same key (x :: l)) (hx : key x = some k) :
    occurs same l x = true ↔ k ∈ keys key l := by
  rw [h.occurs_iff]
  simp only [hx, Option.some.injEq, exists_eq_left']

theorem not_occurs_of_none (h : IsKeyedBy same key (x :: l)) (hx : key x = none) :
    ¬occurs same l x = true := by
  rw [h.occurs_iff]
  rintro ⟨k, hk, -⟩
  exact absurd (hx.symm.trans hk) (by simp)

/-! ### Counting keys -/

/-- **The distinct frames are one for each key**, and all those without a key. -/
theorem length_distinct (h : IsKeyedBy same key l) :
    (distinct same l).length = (keys key l).card + unkeyed key l := by
  induction l with
  | nil => rfl
  | cons x xs ih =>
    have hrest := ih h.tail
    rw [distinct]
    rcases hx : key x with _ | k
    · rw [if_neg (h.not_occurs_of_none hx), List.length_cons, keys_cons_of_none hx,
        unkeyed_cons_of_none hx, hrest]
      rfl
    · rw [keys_cons_of_some hx, unkeyed_cons_of_some hx]
      by_cases hk : k ∈ keys key xs
      · rw [if_pos ((h.occurs_iff_of_some hx).mpr hk), Finset.insert_eq_of_mem hk, hrest]
      · rw [if_neg (mt (h.occurs_iff_of_some hx).mp hk), List.length_cons,
          Finset.card_insert_of_notMem hk, hrest]
        omega

/-- **The intersection is that of the sets of keys.** -/
theorem common_eq (h : IsKeyedBy same key (a ++ b)) :
    common same a b = (keys key a ∩ keys key b).card := by
  induction a with
  | nil => rfl
  | cons x xs ih =>
    have hrest : (distinct same xs).countP (occurs same b) = (keys key xs ∩ keys key b).card :=
      ih h.tail
    have hleft : IsKeyedBy same key (x :: xs) := h.mono (List.subset_append_left _ _)
    have hright : IsKeyedBy same key (x :: b) :=
      h.mono (List.cons_subset_cons x (List.subset_append_right _ _))
    rw [common, distinct]
    rcases hx : key x with _ | k
    · rw [if_neg (hleft.not_occurs_of_none hx),
        List.countP_cons_of_neg (hright.not_occurs_of_none hx), keys_cons_of_none hx, hrest]
    · rw [keys_cons_of_some hx]
      by_cases hk : k ∈ keys key xs
      · rw [if_pos ((hleft.occurs_iff_of_some hx).mpr hk), Finset.insert_eq_of_mem hk, hrest]
      · rw [if_neg (mt (hleft.occurs_iff_of_some hx).mp hk)]
        -- a new key counts if the other sequence has it as well
        by_cases hkb : k ∈ keys key b
        · rw [List.countP_cons_of_pos ((hright.occurs_iff_of_some hx).mpr hkb), hrest,
            Finset.insert_inter_of_mem hkb,
            Finset.card_insert_of_notMem fun hmem => hk (Finset.mem_inter.mp hmem).1]
        · rw [List.countP_cons_of_neg (mt (hright.occurs_iff_of_some hx).mp hkb), hrest,
            Finset.insert_inter_of_notMem hkb]

/-- The distinct frames of both sequences are the union and, once more, the intersection. -/
theorem length_distinct_add (h : IsKeyedBy same key (a ++ b)) :
    (distinct same a).length + (distinct same b).length
      = (keys key a ∪ keys key b).card + unkeyed key a + unkeyed key b + common same a b := by
  have hcard := Finset.card_union_add_card_inter (keys key a) (keys key b)
  rw [h.common_eq, (h.mono (List.subset_append_left a b)).length_distinct,
    (h.mono (List.subset_append_right a b)).length_distinct]
  omega

/-- **The union is that of the sets of keys**, and all frames without a key. -/
theorem union_eq (h : IsKeyedBy same key (a ++ b)) :
    union same a b = (keys key a ∪ keys key b).card + unkeyed key a + unkeyed key b := by
  rw [union, h.length_distinct_add, Nat.add_sub_cancel]

/-- **The intersection is part of the union.** -/
theorem common_le_union (h : IsKeyedBy same key (a ++ b)) : common same a b ≤ union same a b := by
  have hle : (keys key a ∩ keys key b).card ≤ (keys key a ∪ keys key b).card :=
    Finset.card_le_card Finset.inter_subset_union
  rw [h.common_eq, h.union_eq]
  omega

/-- **The intersection does not depend on which sequence comes first.** -/
theorem common_comm (h : IsKeyedBy same key (a ++ b)) : common same a b = common same b a := by
  have hswap : IsKeyedBy same key (b ++ a) := h.mono fun x hx => by
    rw [List.mem_append] at hx ⊢
    exact hx.symm
  rw [h.common_eq, hswap.common_eq, Finset.inter_comm]

/-- **Rearranging the sequences changes neither size.** -/
theorem rearranged {a' b' : List α} (h : IsKeyedBy same key (a ++ b)) (ha : IsRearranged key a a')
    (hb : IsRearranged key b b') :
    common same a' b' = common same a b ∧ union same a' b' = union same a b := by
  have h' : IsKeyedBy same key (a' ++ b') := h.mono fun x hx => by
    rw [List.mem_append] at hx ⊢
    exact hx.imp (ha.subset ·) (hb.subset ·)
  rw [h.common_eq, h'.common_eq, h.union_eq, h'.union_eq, ha.keys_eq, hb.keys_eq, ha.unkeyed_eq,
    hb.unkeyed_eq]
  exact ⟨rfl, rfl⟩

end IsKeyedBy

end Keys

/-! ### Tests that are transitive -/

/-- **The test is transitive on the frames of the sequence.** -/
def IsTransitiveOn (same : α → α → Bool) (l : List α) : Prop :=
  ∀ x ∈ l, ∀ y ∈ l, ∀ z ∈ l, same x y = true → same y z = true → same x z = true

/-- A test that compares keys is transitive. -/
theorem IsKeyedBy.isTransitiveOn {κ : Type} {key : α → Option κ} (h : IsKeyedBy same key l) :
    IsTransitiveOn same l := by
  intro x hx y hy z hz hxy hyz
  obtain ⟨k, hkx, hky⟩ := (h x hx y hy).mp hxy
  obtain ⟨k', hky', hkz⟩ := (h y hy z hz).mp hyz
  obtain rfl : k = k' := Option.some.inj (hky.symm.trans hky')
  exact (h x hx z hz).mpr ⟨k, hkx, hkz⟩

/-- **A symmetric and transitive test compares keys**: the key is the position of the first frame
that is the same. -/
theorem IsTransitiveOn.isKeyedBy (h : IsTransitiveOn same l)
    (hsame : ∀ x y, same x y = same y x) : IsKeyedBy same (fun x => l.findIdx? (same x)) l := by
  intro x hx y hy
  constructor
  · intro hxy
    -- frames that are the same are the same as the same frames
    have hclass : ∀ z ∈ l, same x z = same y z := by
      intro z hz
      have hyx : same y x = true := hsame x y ▸ hxy
      exact Bool.eq_iff_iff.mpr ⟨h y hy x hx z hz hyx, h x hx y hy z hz hxy⟩
    have hfirst : l.findIdx? (same x) = l.findIdx? (same y) := by
      ext j
      simp only [List.findIdx?_eq_some_iff_getElem]
      refine exists_congr fun hj => and_congr ?_ (forall_congr' fun i => forall_congr' fun hi => ?_)
      · rw [hclass _ (List.getElem_mem hj)]
      · rw [hclass _ (List.getElem_mem (Nat.lt_trans hi hj))]
    have hfound : l.findIdx? (same x) = some (l.findIdx (same x)) :=
      List.findIdx?_eq_some_of_exists ⟨y, hy, hxy⟩
    exact ⟨_, hfound, hfirst.symm.trans hfound⟩
  · rintro ⟨k, hkx, hky⟩
    obtain ⟨hlt, hxk, -⟩ := List.findIdx?_eq_some_iff_getElem.mp hkx
    obtain ⟨hlt', hyk, -⟩ := List.findIdx?_eq_some_iff_getElem.mp hky
    exact h x hx _ (List.getElem_mem hlt) y hy hxk (hsame y _ ▸ hyk)

end Jaccard

end CrashTriage
