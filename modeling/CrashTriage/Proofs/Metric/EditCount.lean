import CrashTriage.Proofs.Metric.EditTable
import Mathlib.Data.List.Basic
import Mathlib.Data.List.Forall2

/-!
# The least number of edits

An edit script leads from one sequence to another, frame by frame from the front: it deletes,
inserts or replaces a frame, or swaps two neighbours (`Edit.Script`). The count that is found row by
row **is the least cost of a script** (`Edit.script_count`, `Edit.count_le_of_script`).

A script walks through the table of counts from the first entry to the last, and no step of it
raises the entry by more than it costs (`Edit.table_le_of_script`); and back from each entry a step
leads to one that is smaller by just its cost (`Edit.script_table`). From then on nothing but
scripts is looked at: turned around, a script leads back at the same cost, so the count is symmetric
for a symmetric test (`Edit.count_comm`); and where more frames are the same, a script costs no more,
so the count is no greater (`Edit.count_le_of_forall₂`).
-/

namespace CrashTriage

namespace Edit

variable {α : Type} {same : α → α → Bool} {swaps : Bool} {a b : List α} {i j n : Nat}

/-! ### Scripts -/

/-- Replacing a frame costs no more once it is the same where it was before. -/
theorem replaceCost_le {β : Type} {same' : β → β → Bool} {x y : α} {x' y' : β}
    (h : same x y = true → same' x' y' = true) :
    replaceCost same' x' y' ≤ replaceCost same x y := by
  rw [replaceCost, replaceCost]
  split
  · exact Nat.zero_le _
  · next hne => rw [if_neg fun hxy => hne (h hxy)]

/-- Replacing a frame is one edit. -/
theorem replaceCost_le_one (same : α → α → Bool) (x y : α) : replaceCost same x y ≤ 1 := by
  rw [replaceCost]
  split
  · exact Nat.zero_le 1
  · exact Nat.le_refl 1

/-- **An edit script** from a sequence to another one, with its cost. -/
inductive Script (same : α → α → Bool) (swaps : Bool) : List α → List α → Nat → Prop
  /-- Nothing is left to do. -/
  | done : Script same swaps [] [] 0
  /-- The first frame is deleted. -/
  | delete {x : α} {xs ys : List α} {n : Nat} (rest : Script same swaps xs ys n) :
      Script same swaps (x :: xs) ys (n + 1)
  /-- A frame is inserted in front. -/
  | insert {y : α} {xs ys : List α} {n : Nat} (rest : Script same swaps xs ys n) :
      Script same swaps xs (y :: ys) (n + 1)
  /-- The first frame is replaced, or kept if it is the same. -/
  | replace {x y : α} {xs ys : List α} {n : Nat} (rest : Script same swaps xs ys n) :
      Script same swaps (x :: xs) (y :: ys) (n + replaceCost same x y)
  /-- The first two frames are swapped. -/
  | swap {x x' y y' : α} {xs ys : List α} {n : Nat} (hswaps : swaps = true)
      (hfirst : same x y' = true) (hsecond : same x' y = true)
      (rest : Script same swaps xs ys n) :
      Script same swaps (x :: x' :: xs) (y :: y' :: ys) (n + 1)

namespace Script

/-- **A script can be read backwards**, if the test does not depend on the direction either. -/
theorem symm (hsame : ∀ x y, same x y = same y x) (h : Script same swaps a b n) :
    Script same swaps b a n := by
  induction h with
  | done => exact done
  | delete rest ih => exact ih.insert
  | insert rest ih => exact ih.delete
  | @replace x y xs ys n rest ih =>
    have hcost : replaceCost same x y = replaceCost same y x := by
      rw [replaceCost, replaceCost, hsame]
    exact hcost ▸ ih.replace
  | swap hswaps hfirst hsecond rest ih =>
    exact swap hswaps ((hsame _ _).trans hsecond) ((hsame _ _).trans hfirst) ih

/-- **Frames that are only kept cost nothing.** -/
theorem of_forall₂ (h : List.Forall₂ (fun x y => same x y = true) a b) :
    Script same swaps a b 0 := by
  induction h with
  | nil => exact done
  | @cons x y xs ys hxy hrest ih =>
    have hcost : 0 + replaceCost same x y = 0 := by rw [replaceCost, if_pos hxy]
    exact hcost ▸ ih.replace

/-- **A script that costs nothing only keeps frames.** -/
theorem forall₂_of_eq_zero (h : Script same swaps a b n) (hn : n = 0) :
    List.Forall₂ (fun x y => same x y = true) a b := by
  induction h with
  | done => exact List.Forall₂.nil
  | delete rest ih => exact absurd hn (Nat.succ_ne_zero _)
  | insert rest ih => exact absurd hn (Nat.succ_ne_zero _)
  | @replace x y xs ys n rest ih =>
    -- a frame that is not the same costs an edit
    obtain ⟨hrest, hcost⟩ := Nat.add_eq_zero_iff.mp hn
    refine List.Forall₂.cons ?_ (ih hrest)
    by_contra hne
    rw [replaceCost, if_neg hne] at hcost
    exact absurd hcost Nat.one_ne_zero
  | swap hswaps hfirst hsecond rest ih => exact absurd hn (Nat.succ_ne_zero _)

/-- **Scripts can be put one behind the other**, at the cost of both. -/
theorem append {a' b' : List α} {n' : Nat} (h : Script same swaps a b n)
    (h' : Script same swaps a' b' n') : Script same swaps (a ++ a') (b ++ b') (n + n') := by
  induction h with
  | done => rwa [Nat.zero_add]
  | delete rest ih =>
    rw [Nat.add_right_comm]
    exact ih.delete
  | insert rest ih =>
    rw [Nat.add_right_comm]
    exact ih.insert
  | replace rest ih =>
    rw [Nat.add_right_comm]
    exact ih.replace
  | swap hswaps hfirst hsecond rest ih =>
    rw [Nat.add_right_comm]
    exact ih.swap hswaps hfirst hsecond

/-- **Where more frames are the same, no script has to cost more**: let each frame of both sequences
turn into another one, such that frames that were the same still are. -/
theorem exists_le_of_forall₂ {β : Type} {same' : β → β → Bool} {becomes : α → β → Prop}
    {a' b' : List β}
    (hkept : ∀ x x' y y', becomes x x' → becomes y y' → same x y = true → same' x' y' = true)
    (ha : List.Forall₂ becomes a a') (hb : List.Forall₂ becomes b b')
    (h : Script same swaps a b n) : ∃ n' ≤ n, Script same' swaps a' b' n' := by
  induction h generalizing a' b' with
  | done =>
    cases ha
    cases hb
    exact ⟨0, Nat.le_refl 0, done⟩
  | delete rest ih =>
    obtain ⟨x', xs', hx, hxs, rfl⟩ := List.forall₂_cons_left_iff.mp ha
    obtain ⟨n', hle, hrest⟩ := ih hxs hb
    exact ⟨n' + 1, Nat.succ_le_succ hle, hrest.delete⟩
  | insert rest ih =>
    obtain ⟨y', ys', hy, hys, rfl⟩ := List.forall₂_cons_left_iff.mp hb
    obtain ⟨n', hle, hrest⟩ := ih ha hys
    exact ⟨n' + 1, Nat.succ_le_succ hle, hrest.insert⟩
  | replace rest ih =>
    obtain ⟨x', xs', hx, hxs, rfl⟩ := List.forall₂_cons_left_iff.mp ha
    obtain ⟨y', ys', hy, hys, rfl⟩ := List.forall₂_cons_left_iff.mp hb
    obtain ⟨n', hle, hrest⟩ := ih hxs hys
    exact ⟨_, Nat.add_le_add hle (replaceCost_le (hkept _ _ _ _ hx hy)), hrest.replace⟩
  | swap hswaps hfirst hsecond rest ih =>
    obtain ⟨x', _, hx, htail, rfl⟩ := List.forall₂_cons_left_iff.mp ha
    obtain ⟨x₂', xs', hx₂, hxs, rfl⟩ := List.forall₂_cons_left_iff.mp htail
    obtain ⟨y', _, hy, htail', rfl⟩ := List.forall₂_cons_left_iff.mp hb
    obtain ⟨y₂', ys', hy₂, hys, rfl⟩ := List.forall₂_cons_left_iff.mp htail'
    obtain ⟨n', hle, hrest⟩ := ih hxs hys
    exact ⟨n' + 1, Nat.succ_le_succ hle,
      swap hswaps (hkept _ _ _ _ hx hy₂ hfirst) (hkept _ _ _ _ hx₂ hy hsecond) hrest⟩

theorem deleteAll (a : List α) : Script same swaps a [] a.length := by
  induction a with
  | nil => exact done
  | cons x xs ih => exact ih.delete

theorem insertAll (b : List α) : Script same swaps [] b b.length := by
  induction b with
  | nil => exact done
  | cons y ys ih => exact ih.insert

/-- **Replacing frames as long as there are some on both sides** costs at most the length of the
longer sequence. -/
theorem exists_le_max (same : α → α → Bool) (swaps : Bool) (a b : List α) :
    ∃ n ≤ max a.length b.length, Script same swaps a b n := by
  induction a generalizing b with
  | nil => exact ⟨b.length, Nat.le_max_right _ _, insertAll b⟩
  | cons x xs ih =>
    cases b with
    | nil => exact ⟨(x :: xs).length, Nat.le_max_left _ _, deleteAll (x :: xs)⟩
    | cons y ys =>
      obtain ⟨n, hle, hrest⟩ := ih ys
      have hcost := replaceCost_le_one same x y
      refine ⟨n + replaceCost same x y, ?_, hrest.replace⟩
      rw [List.length_cons, List.length_cons]
      omega

end Script

/-! ### The least cost -/

/-- **A script raises the entry of the table by its cost at most**, from the one it starts at to the
last one. -/
theorem table_le_of_script {s t : List α} (h : Script same swaps s t n) (hs : a.drop i = s)
    (ht : b.drop j = t) (hi : i ≤ a.length) (hj : j ≤ b.length) :
    table same swaps a b a.length b.length ≤ table same swaps a b i j + n := by
  induction h generalizing i j with
  | done =>
    rw [Nat.le_antisymm (List.drop_eq_nil_iff.mp hs) hi,
      Nat.le_antisymm (List.drop_eq_nil_iff.mp ht) hj]
    exact Nat.le_refl _
  | @delete x xs ys n rest ih =>
    obtain ⟨hx, hxs⟩ := of_drop_eq_cons hs
    have hstep : table same swaps a b (i + 1) j ≤ table same swaps a b i j + 1 :=
      table_succ_left_le i j
    have hrest := ih hxs ht (List.getElem?_eq_some_iff.mp hx).1 hj
    omega
  | @insert y xs ys n rest ih =>
    obtain ⟨hy, hys⟩ := of_drop_eq_cons ht
    have hstep : table same swaps a b i (j + 1) ≤ table same swaps a b i j + 1 :=
      table_succ_right_le i j
    have hrest := ih hs hys hi (List.getElem?_eq_some_iff.mp hy).1
    omega
  | @replace x y xs ys n rest ih =>
    obtain ⟨hx, hxs⟩ := of_drop_eq_cons hs
    obtain ⟨hy, hys⟩ := of_drop_eq_cons ht
    have hstep : table same swaps a b (i + 1) (j + 1)
        ≤ table same swaps a b i j + replaceCostAt same a b i j := table_replace_le i j
    rw [replaceCostAt_eq hx hy] at hstep
    have hrest :=
      ih hxs hys (List.getElem?_eq_some_iff.mp hx).1 (List.getElem?_eq_some_iff.mp hy).1
    omega
  | @swap x x' y y' xs ys n hswaps hfirst hsecond rest ih =>
    obtain ⟨hx, hxs⟩ := of_drop_eq_cons hs
    obtain ⟨hx', hxs⟩ := of_drop_eq_cons hxs
    obtain ⟨hy, hys⟩ := of_drop_eq_cons ht
    obtain ⟨hy', hys⟩ := of_drop_eq_cons hys
    have hcrossed : crossedAt same a b (i + 1) (j + 1) = true :=
      crossedAt_eq_true_iff.mpr ⟨i, j, x, x', y, y', rfl, rfl, hx, hx', hy, hy', hsecond, hfirst⟩
    have hstep := table_swap_le hswaps hcrossed
    have hrest :=
      ih hxs hys (List.getElem?_eq_some_iff.mp hx').1 (List.getElem?_eq_some_iff.mp hy').1
    omega

/-- The beginning of a list with one frame more. -/
theorem take_succ_eq {l : List α} {x : α} (hx : l[i]? = some x) :
    l.take (i + 1) = l.take i ++ [x] := by
  rw [List.take_add_one, hx]
  rfl

/-- **Some script costs as much as an entry of the table**: it is put together from behind. -/
theorem script_table (same : α → α → Bool) (swaps : Bool) (i j : Nat) (hi : i ≤ a.length)
    (hj : j ≤ b.length) :
    Script same swaps (a.take i) (b.take j) (table same swaps a b i j) := by
  match i, j with
  | 0, j =>
    have hall : Script same swaps [] (b.take j) (b.take j).length := Script.insertAll (b.take j)
    rw [List.length_take, Nat.min_eq_left hj] at hall
    rwa [table_zero_left, List.take_zero]
  | i + 1, 0 =>
    have hall : Script same swaps (a.take (i + 1)) [] (a.take (i + 1)).length :=
      Script.deleteAll (a.take (i + 1))
    rw [List.length_take, Nat.min_eq_left hi] at hall
    rwa [table_zero_right, List.take_zero]
  | i + 1, j + 1 =>
    have hx := List.getElem?_eq_getElem hi
    have hy := List.getElem?_eq_getElem hj
    rcases table_succ_succ_cases same swaps a b i j with
      hcase | hcase | hcase | ⟨hswaps, hcrossed, hcase⟩
    · have hrest := script_table same swaps i (j + 1) (Nat.le_of_succ_le hi) hj
      have hstep := hrest.append (Script.done.delete (x := a[i]))
      rw [List.append_nil] at hstep
      rw [hcase, take_succ_eq hx]
      exact hstep
    · have hrest := script_table same swaps (i + 1) j hi (Nat.le_of_succ_le hj)
      have hstep := hrest.append (Script.done.insert (y := b[j]))
      rw [List.append_nil] at hstep
      rw [hcase, take_succ_eq hy]
      exact hstep
    · have hrest := script_table same swaps i j (Nat.le_of_succ_le hi) (Nat.le_of_succ_le hj)
      have hstep := hrest.append (Script.done.replace (x := a[i]) (y := b[j]))
      rw [Nat.zero_add] at hstep
      rw [hcase, take_succ_eq hx, take_succ_eq hy, replaceCostAt_eq hx hy]
      exact hstep
    · obtain ⟨k, l, x', x, y', y, rfl, rfl, hx', hx, hy', hy, hfirst, hsecond⟩ :=
        crossedAt_eq_true_iff.mp hcrossed
      have hrest := script_table same swaps k l (by omega) (by omega)
      have hstep := hrest.append (Script.done.swap hswaps hsecond hfirst)
      rw [hcase, take_succ_eq hx, take_succ_eq hx', take_succ_eq hy, take_succ_eq hy',
        List.append_assoc, List.append_assoc]
      exact hstep
termination_by i + j

/-- **No script costs less than the count.** -/
theorem count_le_of_script (h : Script same swaps a b n) : count same swaps a b ≤ n := by
  have hle := table_le_of_script h List.drop_zero List.drop_zero (Nat.zero_le _) (Nat.zero_le _)
  rwa [table_zero_left, Nat.zero_add, ← count_eq_table] at hle

/-- **Some script costs as much as the count.** -/
theorem script_count (a b : List α) : Script same swaps a b (count same swaps a b) := by
  have hscript := script_table same swaps a.length b.length (Nat.le_refl a.length)
    (Nat.le_refl b.length)
  rwa [List.take_length, List.take_length, ← count_eq_table] at hscript

/-- **The count is at most the length of the longer sequence.** -/
theorem count_le_max (a b : List α) : count same swaps a b ≤ max a.length b.length := by
  obtain ⟨n, hle, hscript⟩ := Script.exists_le_max same swaps a b
  exact (count_le_of_script hscript).trans hle

/-- **Where more frames are the same, the count is no greater.** -/
theorem count_le_of_forall₂ {β : Type} {same' : β → β → Bool} {becomes : α → β → Prop}
    {a' b' : List β}
    (hkept : ∀ x x' y y', becomes x x' → becomes y y' → same x y = true → same' x' y' = true)
    (ha : List.Forall₂ becomes a a') (hb : List.Forall₂ becomes b b') :
    count same' swaps a' b' ≤ count same swaps a b := by
  obtain ⟨n', hle, hscript⟩ := (script_count a b).exists_le_of_forall₂ hkept ha hb
  exact (count_le_of_script hscript).trans hle

/-- **The count is symmetric** for a test that is. -/
theorem count_comm (hsame : ∀ x y, same x y = same y x) (swaps : Bool) (a b : List α) :
    count same swaps a b = count same swaps b a :=
  Nat.le_antisymm (count_le_of_script ((script_count b a).symm fun x y => hsame x y))
    (count_le_of_script ((script_count a b).symm fun x y => hsame x y))

/-- **The count is zero exactly for sequences that are the same frame by frame.** -/
theorem count_eq_zero_iff :
    count same swaps a b = 0 ↔ List.Forall₂ (fun x y => same x y = true) a b := by
  constructor
  · intro h
    exact (script_count a b).forall₂_of_eq_zero h
  · intro h
    exact Nat.le_zero.mp (count_le_of_script (Script.of_forall₂ h))

end Edit

end CrashTriage
