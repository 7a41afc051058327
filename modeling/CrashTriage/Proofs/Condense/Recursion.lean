import CrashTriage.Proofs.Condense.Aliases
import CrashTriage.Proofs.Condense.Machinery

/-!
# The depth of a recursion

A sequence is **deeper** than another one if it has more copies of some of its elements, each right
behind the others (`Condense.Deeper`). The frames to be repeated are those that something tells the
place of, in a debugger's thread by their public names as well (`Condense.StaysResolved`).

**A deeper thread is condensed to the same frames** (`Condense.condenseFrames_of_deeper`). Each step
in front of the last one takes deeper sequences to deeper ones: a cut is made behind the last copy,
a filter treats all copies alike, and no copy is a null call. The last step folds them all. It
compares every copy with the frame that was kept last: that is either the first copy, or a frame
that is the same site as the first copy, and so as all of them.
-/

namespace CrashTriage

namespace Condense

section Sequences

variable {α β : Type} {p : α → Prop} {l l' : List α} {x : α}

/-! ### Steps on a first element -/

/-- A cut is made at the first element if there is none behind it to cut at. -/
theorem afterLast_cons (r : α → Bool) (x : α) (l : List α) :
    afterLast r (x :: l) = if l.any r then afterLast r l else if r x then l else x :: l := by
  by_cases hbelow : l.any r = true
  · obtain ⟨y, hy, hr⟩ := List.any_eq_true.mp hbelow
    rw [if_pos hbelow]
    exact afterLast_append_of_mem [x] hy hr
  · have hnone : ∀ y ∈ l, r y = false := by simpa using hbelow
    rw [if_neg hbelow]
    split
    · next hx => exact (afterLast_append_cons [] l hx).trans (afterLast_eq_self hnone)
    · next hx =>
      exact afterLast_eq_self (List.forall_mem_cons.mpr ⟨eq_false_of_ne_true hx, hnone⟩)

/-- The first of several elements is not the last one. -/
theorem dropLastIf_cons {r : α → Bool} (hne : l ≠ []) :
    dropLastIf r (x :: l) = x :: dropLastIf r l := by
  obtain ⟨y, l, rfl⟩ := List.exists_cons_of_ne_nil hne
  rw [dropLastIf, dropLastIf, List.getLast?_cons_cons, List.dropLast_cons_cons]
  split <;> rfl

/-- A first element without the property stays. -/
theorem exists_dropLastIf_cons {r : α → Bool} (hx : r x = false) (l : List α) :
    ∃ m, dropLastIf r (x :: l) = x :: m := by
  by_cases hnil : l = []
  · refine ⟨[], ?_⟩
    rw [hnil, dropLastIf, List.getLast?_singleton, Option.any_some, hx]
    rfl
  · exact ⟨dropLastIf r l, dropLastIf_cons hnil⟩

/-! ### Deeper sequences -/

/-- **A deeper sequence**: the second list has all that the first one has, and behind some elements
with a property more copies of them. -/
inductive Deeper (p : α → Prop) : List α → List α → Prop
  /-- There is nothing to repeat. -/
  | nil : Deeper p [] []
  /-- An element stands in front of both. -/
  | cons (x : α) {l l' : List α} (h : Deeper p l l') : Deeper p (x :: l) (x :: l')
  /-- The first element is repeated once more. -/
  | again {x : α} {l l' : List α} (hx : p x) (h : Deeper p (x :: l) (x :: l')) :
      Deeper p (x :: l) (x :: x :: l')

namespace Deeper

theorem refl (l : List α) : Deeper p l l := by
  induction l with
  | nil => exact nil
  | cons x l ih => exact ih.cons x

/-- **More copies of an element behind it** make a list deeper. -/
theorem of_replicate (hx : p x) (n : Nat) (above below : List α) :
    Deeper p (above ++ x :: below) (above ++ x :: (List.replicate n x ++ below)) := by
  induction above with
  | nil =>
    induction n with
    | zero => exact refl (x :: below)
    | succ n ih => exact again hx ih
  | cons y above ih => exact ih.cons y

theorem mem_iff (h : Deeper p l l') {y : α} : y ∈ l' ↔ y ∈ l := by
  induction h with
  | nil => exact Iff.rfl
  | cons x h ih => rw [List.mem_cons, List.mem_cons, ih]
  | again hx h ih => rw [List.mem_cons, ih, List.mem_cons, or_self_left]

theorem any_eq (r : α → Bool) (h : Deeper p l l') : l'.any r = l.any r := by
  rw [Bool.eq_iff_iff, List.any_eq_true, List.any_eq_true]
  simp only [h.mem_iff]

theorem eq_nil (h : Deeper p [] l') : l' = [] := by
  cases h
  rfl

theorem ne_nil (h : Deeper p l l') (hne : l ≠ []) : l' ≠ [] := by
  cases h with
  | nil => exact absurd rfl hne
  | cons x h => exact List.cons_ne_nil _ _
  | again hx h => exact List.cons_ne_nil _ _

/-! ### Steps that keep a sequence deeper -/

theorem map {q : β → Prop} {f : α → β} (hf : ∀ x, p x → q (f x)) (h : Deeper p l l') :
    Deeper q (l.map f) (l'.map f) := by
  induction h with
  | nil => exact nil
  | cons x h ih => exact ih.cons (f x)
  | again hx h ih => exact again (hf _ hx) ih

/-- More elements may have been repeated. -/
theorem imp {q : α → Prop} (hpq : ∀ x, p x → q x) (h : Deeper p l l') : Deeper q l l' := by
  induction h with
  | nil => exact nil
  | cons x h ih => exact ih.cons x
  | again hx h ih => exact again (hpq _ hx) ih

/-- A filter keeps all copies or none. -/
theorem filter (r : α → Bool) (h : Deeper p l l') : Deeper p (l.filter r) (l'.filter r) := by
  induction h with
  | nil => exact nil
  | @cons x l l' h ih =>
    rw [List.filter_cons, List.filter_cons]
    split
    · exact ih.cons x
    · exact ih
  | @again x l l' hx h ih =>
    by_cases hr : r x = true
    · rw [List.filter_cons_of_pos hr, List.filter_cons_of_pos hr] at ih
      rw [List.filter_cons_of_pos hr, List.filter_cons_of_pos hr, List.filter_cons_of_pos hr]
      exact again hx ih
    · rw [List.filter_cons_of_neg hr] at ih ⊢
      rwa [List.filter_cons_of_neg hr]

/-- **A cut is made behind the last copy**, wherever it is made. -/
theorem afterLast (r : α → Bool) (h : Deeper p l l') :
    Deeper p (afterLast r l) (afterLast r l') := by
  induction h with
  | nil => exact nil
  | @cons x l l' h ih =>
    rw [afterLast_cons, afterLast_cons, h.any_eq r]
    split
    · exact ih
    · split
      · exact h
      · exact h.cons x
  | @again x l l' hx h ih =>
    by_cases hany : (x :: l').any r = true
    · rwa [afterLast_cons r x (x :: l'), if_pos hany]
    · -- nothing is cut
      have hnone : ∀ y ∈ x :: l', r y = false := by simpa using hany
      rw [afterLast_eq_self fun y hy => hnone y (h.mem_iff.mpr hy),
        afterLast_eq_self (List.forall_mem_cons.mpr ⟨hnone x List.mem_cons_self, hnone⟩)]
      exact again hx h

/-- The first element may be missing in both. It is none that is repeated. -/
theorem dropFirstIf {r : α → Bool} (hr : ∀ x, p x → r x = false) (h : Deeper p l l') :
    Deeper p (dropFirstIf r l) (dropFirstIf r l') := by
  cases h with
  | nil => exact nil
  | cons x h =>
    rw [Condense.dropFirstIf, Condense.dropFirstIf]
    split
    · exact h
    · exact h.cons x
  | @again x l l' hx h =>
    have hne : ¬r x = true := ne_true_of_eq_false (hr x hx)
    rw [Condense.dropFirstIf, Condense.dropFirstIf, if_neg hne, if_neg hne]
    exact again hx h

/-- The last element may be missing in both. It is none that is repeated. -/
theorem dropLastIf {r : α → Bool} (hr : ∀ x, p x → r x = false) (h : Deeper p l l') :
    Deeper p (dropLastIf r l) (dropLastIf r l') := by
  induction h with
  | nil => exact nil
  | @cons x l l' h ih =>
    by_cases hnil : l = []
    · obtain rfl := hnil
      obtain rfl := h.eq_nil
      exact refl _
    · rw [dropLastIf_cons hnil, dropLastIf_cons (h.ne_nil hnil)]
      exact ih.cons x
  | @again x l l' hx h ih =>
    obtain ⟨m, hm⟩ := exists_dropLastIf_cons (hr x hx) l
    obtain ⟨m', hm'⟩ := exists_dropLastIf_cons (hr x hx) l'
    rw [hm, hm'] at ih
    rw [dropLastIf_cons (List.cons_ne_nil x l'), hm, hm']
    exact again hx ih

/-! ### Folding -/

theorem foldAfter_eq {same : α → α → Bool} (hsame : ∀ x, p x → same x x = true)
    (h : Deeper p l l') (kept : α) : foldAfter same kept l' = foldAfter same kept l := by
  induction h generalizing kept with
  | nil => rfl
  | cons x h ih => rw [foldAfter, foldAfter, ih kept, ih x]
  | @again x l l' hx h ih =>
    rw [foldAfter]
    split
    · exact ih kept
    · next hne =>
      -- the first copy is kept, and the next one is the same
      have hrest := ih kept
      rw [foldAfter, if_neg hne] at hrest
      rw [foldAfter, if_pos (hsame x hx), hrest]

/-- **Folding leaves no trace of the depth.** -/
theorem foldRuns_eq {same : α → α → Bool} (hsame : ∀ x, p x → same x x = true)
    (h : Deeper p l l') : foldRuns same l' = foldRuns same l := by
  cases h with
  | nil => rfl
  | cons x h => rw [foldRuns, foldRuns, h.foldAfter_eq hsame]
  | @again x l l' hx h =>
    have hrest := h.foldAfter_eq hsame x
    rw [foldAfter, if_pos (hsame x hx), foldAfter, if_pos (hsame x hx)] at hrest
    rw [foldRuns, foldRuns, foldAfter, if_pos (hsame x hx), hrest]

end Deeper

end Sequences

/-! ### Frames -/

variable {kind : Frame.Kind} {frames frames' : List Frame}

/-- **Something tells the place of a frame all along**: as it was recorded, and in a debugger's
thread by its public name as well. -/
structure StaysResolved (kind : Frame.Kind) (f : Frame) : Prop where
  /-- As it was recorded. -/
  recorded : f.isResolved = true
  /-- By its public name. -/
  renamed : kind = .debugger → (resolveAlias f).isResolved = true

theorem isNullCall_of_isResolved {f : Frame} (hf : f.isResolved = true) : isNullCall f = false := by
  rw [isNullCall, Frame.isResolved_iff.mp hf, Bool.false_and]

/-- The frames that are left of a deeper thread are deeper. -/
theorem Deeper.dropLibraryFrames (h : Deeper (StaysResolved kind) frames frames') :
    Deeper (fun f : Frame => f.isResolved = true) (dropLibraryFrames kind frames)
      (dropLibraryFrames kind frames') := by
  have hresolved : Deeper (fun f : Frame => f.isResolved = true) frames frames' :=
    h.imp fun f hf => hf.recorded
  cases kind with
  | debugger =>
    have hrenamed := (h.afterLast (covered exitCalls)).map
      (q := fun f : Frame => f.isResolved = true) fun f hf => hf.renamed rfl
    exact (hrenamed.afterLast (covered reportingCalls)).filter _
  | oops => exact hresolved.filter _
  | _ => exact hresolved

/-- **A deeper thread is condensed to the same frames.** -/
theorem condenseFrames_of_deeper (h : Deeper (StaysResolved kind) frames frames') :
    condenseFrames kind frames' = condenseFrames kind frames := by
  have htrimmed : Deeper (fun f : Frame => f.isResolved = true)
      (trimNullCalls (dropLibraryFrames kind frames))
      (trimNullCalls (dropLibraryFrames kind frames')) :=
    (h.dropLibraryFrames.dropFirstIf fun f hf => isNullCall_of_isResolved hf).dropLastIf
      fun f hf => isNullCall_of_isResolved hf
  exact htrimmed.foldRuns_eq fun f hf => by rwa [Frame.sameSite_self]

end Condense

namespace Thread

open Condense

/-- **The depth of a recursion makes no difference.** However many more copies of a frame stand
right behind it, a thread is condensed to the same one, as long as something tells the place of the
frame, in a debugger's thread by its public name as well. Only frames that were printed under one of
two names are resolved and have no public name. -/
theorem condense_deeper {t : Thread} {above below : List Frame} {f : Frame}
    (hframes : t.frames = above ++ f :: below) (hresolved : f.isResolved = true)
    (hrenamed : t.kind = .debugger → (resolveAlias f).isResolved = true) (n : Nat) :
    ({ t with frames := above ++ f :: (List.replicate n f ++ below) } : Thread).condense
        = t.condense
      ∧ ∀ g : Frame, g.isResolved = true →
          ((resolveAlias g).isResolved = false
            ↔ g.kind = .debugger ∧ (g.symbol = .named "__GI_" ∨ g.symbol = .named "__GI_??")) := by
  have hstays : StaysResolved t.kind f := ⟨hresolved, hrenamed⟩
  have hdeeper := Deeper.of_replicate hstays n above below
  refine ⟨?_, fun g hg => isResolved_resolveAlias_iff hg⟩
  rw [condense, condense, hframes, condenseFrames_of_deeper hdeeper]

/-- A parser that calls itself twice more before it aborts. -/
theorem condense_deeper_before_abort :
    let call (name file : String) : Frame := ⟨.named name, .debugger { sourceFile := some file }⟩
    let parse := call "parse" "parser.cpp"
    let above := [call "raise" "pt-raise.c", call "abort" "abort.c"]
    let below := [call "main" "main.cpp"]
    let t : Thread := ⟨1, .debugger, above ++ parse :: below⟩
    parse.isResolved = true ∧ (resolveAlias parse).isResolved = true
      ∧ ({ t with frames := above ++ parse :: (List.replicate 2 parse ++ below) } : Thread).condense
          = t.condense
      ∧ t.condense.symbolTexts = ["parse", "main"] := by
  intro call parse above below t
  have hresolved : parse.isResolved = true := by decide
  have hrenamed : (resolveAlias parse).isResolved = true := by decide +kernel
  exact ⟨hresolved, hrenamed, (condense_deeper rfl hresolved (fun _ => hrenamed) 2).1,
    by decide +kernel⟩

/-- Behind the mark of the C library there is no name left, so the copies are not folded. -/
example :
    let marked : Frame := .ofDebuggerSymbol (.named "__GI_")
    marked.isResolved = true ∧ (condenseFrames .debugger [marked, marked]).length = 2 := by
  decide +kernel

end Thread

end CrashTriage
