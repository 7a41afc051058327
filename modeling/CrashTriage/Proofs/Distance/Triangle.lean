import CrashTriage.Proofs.Distance.Sets
import CrashTriage.Proofs.Metric.EditCount

/-!
# The triangle inequality for edits

A script from one sequence to another and one from there to a third can be put together to a script
that leads all the way, at the cost of both at most (`Edit.Script.exists_le_trans`). The second
script says what becomes of each frame in the middle, and what it inserts in front of it
(`Edit.Script.of_cons`); the first one is walked through with that. So **the number of edits
satisfies the triangle inequality** for a transitive test (`Edit.count_triangle`).

Nothing more is asked of the test: unresolved frames, which are the same as none, do no harm. But
swaps do, and so do frames that leave out a qualifier.
-/

namespace CrashTriage

namespace Edit

open Jaccard (IsTransitiveOn)

variable {α : Type} {same : α → α → Bool} {l a b c : List α} {n m : Nat}

/-- **Replacing a frame twice costs no less than replacing it once.** -/
theorem replaceCost_triangle {x y z : α}
    (htrans : same x y = true → same y z = true → same x z = true) :
    replaceCost same x z ≤ replaceCost same x y + replaceCost same y z := by
  rcases hxy : same x y with _ | _
  · have hle : replaceCost same x z ≤ 1 := replaceCost_le_one same x z
    have hone : replaceCost same x y = 1 := if_neg (by simp [hxy])
    omega
  · -- then putting `z` in the place of `y` or of `x` is the same
    have hle : replaceCost same x z ≤ replaceCost same y z := replaceCost_le (htrans hxy)
    omega

namespace Script

/-- More frames are inserted in front. -/
theorem insertFront (zs : List α) (h : Script same false a b n) :
    Script same false a (zs ++ b) (zs.length + n) :=
  (insertAll zs).append h

/-- **What becomes of the first frame**: after some frames were inserted in front of it, it is
deleted or replaced. -/
theorem of_cons {y : α} {ys : List α} (h : Script same false (y :: ys) c m) :
    ∃ zs tail k, Script same false ys tail k
      ∧ (c = zs ++ tail ∧ m = zs.length + (k + 1)
        ∨ ∃ z, c = zs ++ z :: tail ∧ m = zs.length + (k + replaceCost same y z)) := by
  generalize hb : y :: ys = b at h
  induction h with
  | done => exact absurd hb (by simp)
  | @delete x xs c m rest ih =>
    obtain ⟨rfl, rfl⟩ := List.cons.inj hb
    exact ⟨[], c, m, rest, .inl ⟨rfl, (Nat.zero_add _).symm⟩⟩
  | @insert z b c m rest ih =>
    obtain ⟨zs, tail, k, hscript, ⟨rfl, rfl⟩ | ⟨z', rfl, rfl⟩⟩ := ih hb
    · exact ⟨z :: zs, tail, k, hscript, .inl ⟨rfl, by rw [List.length_cons]; omega⟩⟩
    · exact ⟨z :: zs, tail, k, hscript, .inr ⟨z', rfl, by rw [List.length_cons]; omega⟩⟩
  | @replace x z xs c m rest ih =>
    obtain ⟨rfl, rfl⟩ := List.cons.inj hb
    exact ⟨[], c, m, rest, .inr ⟨z, rfl, (Nat.zero_add _).symm⟩⟩
  | swap hswaps => exact absurd hswaps Bool.false_ne_true

/-- **Scripts can be put together**: what two of them do one after the other, one does at the cost
of both at most. -/
theorem exists_le_trans (htrans : IsTransitiveOn same l) (h : Script same false a b n)
    (h' : Script same false b c m) (ha : a ⊆ l) (hb : b ⊆ l) (hc : c ⊆ l) :
    ∃ k ≤ n + m, Script same false a c k := by
  induction h generalizing c m with
  | done => exact ⟨m, Nat.le_add_left m 0, h'⟩
  | @delete x xs ys n rest ih =>
    obtain ⟨-, hxs⟩ := List.cons_subset.mp ha
    obtain ⟨k, hle, hk⟩ := ih h' hxs hb hc
    exact ⟨k + 1, by omega, hk.delete⟩
  | @insert y xs ys n rest ih =>
    obtain ⟨-, hys⟩ := List.cons_subset.mp hb
    -- the frame that is inserted is deleted again, or replaced and so inserted as another one
    obtain ⟨zs, tail, k', hscript, ⟨rfl, rfl⟩ | ⟨z, rfl, rfl⟩⟩ := h'.of_cons
    · obtain ⟨-, htail⟩ := List.append_subset.mp hc
      obtain ⟨k, hle, hk⟩ := ih hscript ha hys htail
      exact ⟨_, by omega, hk.insertFront zs⟩
    · obtain ⟨-, htail⟩ := List.append_subset.mp hc
      obtain ⟨-, htail⟩ := List.cons_subset.mp htail
      obtain ⟨k, hle, hk⟩ := ih hscript ha hys htail
      exact ⟨_, by omega, (hk.insert (y := z)).insertFront zs⟩
  | @replace x y xs ys n rest ih =>
    obtain ⟨hx, hxs⟩ := List.cons_subset.mp ha
    obtain ⟨hy, hys⟩ := List.cons_subset.mp hb
    -- the frame that is put in the place of the first one is deleted, or replaced once more
    obtain ⟨zs, tail, k', hscript, ⟨rfl, rfl⟩ | ⟨z, rfl, rfl⟩⟩ := h'.of_cons
    · obtain ⟨-, htail⟩ := List.append_subset.mp hc
      obtain ⟨k, hle, hk⟩ := ih hscript hxs hys htail
      exact ⟨_, by omega, (hk.delete (x := x)).insertFront zs⟩
    · obtain ⟨-, htail⟩ := List.append_subset.mp hc
      obtain ⟨hz, htail⟩ := List.cons_subset.mp htail
      obtain ⟨k, hle, hk⟩ := ih hscript hxs hys htail
      have hcost : replaceCost same x z ≤ replaceCost same x y + replaceCost same y z :=
        replaceCost_triangle (htrans x hx y hy z hz)
      exact ⟨_, by omega, (hk.replace (x := x) (y := z)).insertFront zs⟩
  | swap hswaps => exact absurd hswaps Bool.false_ne_true

end Script

/-- **The triangle inequality for the number of edits**, where the test is transitive. -/
theorem count_triangle (htrans : IsTransitiveOn same (a ++ b ++ c)) :
    count same false a c ≤ count same false a b + count same false b c := by
  obtain ⟨k, hle, hk⟩ := (script_count a b).exists_le_trans htrans (script_count b c)
    (by simp) (by simp) (by simp)
  exact (count_le_of_script hk).trans hle

/-- With swaps there is none: two frames that were swapped cannot be parted by an insertion. -/
example :
    count (· == ·) true ['c', 'a'] ['a', 'c'] + count (· == ·) true ['a', 'c'] ['a', 'b', 'c']
      < count (· == ·) true ['c', 'a'] ['a', 'b', 'c'] := by
  decide

end Edit

namespace Frame

/-- Frames of these kinds are compared by what each of them has. -/
theorem isPlain_of_kind_mem {f : Frame}
    (h : f.kind ∈ [Kind.java, Kind.python, Kind.ruby, Kind.script]) : f.isPlain = true := by
  obtain ⟨s, d⟩ := f
  cases d with
  | java | python | ruby | script => rfl
  | core | oops | debugger => simp [kind, Details.kind] at h

end Frame

namespace Metric

/-- **The triangle inequality for the number of edits between sequences of frames** from Java,
Python, Ruby or JavaScript, which may be mixed and unresolved. -/
theorem editCount_triangle (a b c : List Frame)
    (hkinds : ∀ f ∈ a ++ b ++ c, f.kind ∈ [.java, .python, .ruby, .script]) :
    Edit.count Frame.sameSite false a c
      ≤ Edit.count Frame.sameSite false a b + Edit.count Frame.sameSite false b c := by
  have hplain : ∀ f ∈ a ++ b ++ c, f.isPlain = true :=
    fun f hf => Frame.isPlain_of_kind_mem (hkinds f hf)
  exact Edit.count_triangle (Frame.isKeyedBy_site? hplain).isTransitiveOn

/-- A Python frame in the middle that is unresolved, and one of another file. -/
theorem editCount_triangle_unresolved :
    Edit.count Frame.sameSite false [.ofPython (.named "f") "a.py"] [.ofPython (.named "f") "b.py"]
      ≤ Edit.count Frame.sameSite false [.ofPython (.named "f") "a.py"]
          [.ofPython .unknown "a.py", .ofPython (.named "f") "a.py"]
        + Edit.count Frame.sameSite false
          [.ofPython .unknown "a.py", .ofPython (.named "f") "a.py"]
          [.ofPython (.named "f") "b.py"] :=
  editCount_triangle _ _ _ (by decide)

/-- A frame in the middle that leaves out its library is the same as two that differ. -/
example :
    let read : Option String → Frame := fun library =>
      { symbol := .named "read", details := .debugger { library } }
    Edit.count Frame.sameSite false [read "libc"] [read none]
        + Edit.count Frame.sameSite false [read none] [read "libpthread"]
      < Edit.count Frame.sameSite false [read "libc"] [read "libpthread"] := by
  decide

end Metric

end CrashTriage
