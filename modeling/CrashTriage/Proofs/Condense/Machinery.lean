import CrashTriage.Condense.Basic

/-!
# What stands above the machinery

A debugger's thread is cut twice: behind the last call that ends the process, and then, once the
aliases are resolved, behind the last call that reports a failure. A cut forgets everything in front
of the call that it is made at (`Condense.afterLast_append_cons`), and the first cut either removes
the call that the second one looks for, with all that is above it, or leaves it where it is.

So **it makes no difference what stands above a call of the machinery**, nor which call it is
(`Condense.condenseFrames_append_cons`). Two crashes that reach the end of the process by different
ways from the same frames are condensed to the same frames.
-/

namespace CrashTriage

namespace Condense

/-! ### One cut -/

section Sequences

variable {α : Type} {p : α → Bool} {x : α} {above below : List α}

/-- **A cut forgets the element that it is made at**, and what stands in front of it. -/
theorem afterLast_append_cons (above below : List α) (h : p x = true) :
    afterLast p (above ++ x :: below) = afterLast p below := by
  have hstop : (x :: above.reverse).takeWhile (!p ·) = [] :=
    List.takeWhile_cons_of_neg (by simp [h])
  rw [afterLast, afterLast, List.reverse_append, List.reverse_cons, List.append_assoc,
    List.singleton_append, List.takeWhile_append, hstop, List.append_nil]
  split
  · next hlength => rw [(List.takeWhile_prefix _).eq_of_length hlength]
  · rfl

/-- With an element to cut at in the second part, the first one is forgotten. -/
theorem afterLast_append_of_mem (above : List α) (hx : x ∈ below) (h : p x = true) :
    afterLast p (above ++ below) = afterLast p below := by
  obtain ⟨before, after, rfl⟩ := List.append_of_mem hx
  rw [← List.append_assoc, afterLast_append_cons _ _ h, afterLast_append_cons _ _ h]

/-- With none there, the cut is made in the first part. -/
theorem afterLast_append_of_forall (above : List α) (h : ∀ y ∈ below, p y = false) :
    afterLast p (above ++ below) = afterLast p above ++ below := by
  have hall : ∀ y ∈ below.reverse, (!p y) = true := fun y hy => by
    simpa using h y (List.mem_reverse.mp hy)
  rw [afterLast, afterLast, List.reverse_append, List.takeWhile_append_of_pos hall,
    List.reverse_append, List.reverse_reverse]

/-- Without an element to cut at nothing is cut. -/
theorem afterLast_eq_self (h : ∀ y ∈ below, p y = false) : afterLast p below = below :=
  afterLast_append_of_forall [] h

end Sequences

/-! ### Both cuts -/

/-- **The machinery by which a process ends**: a call that ends it, as it was printed, or a call
that reports the failure, by its public name. -/
def IsMachinery (f : Frame) : Prop :=
  covered exitCalls f = true ∨ covered reportingCalls (resolveAlias f) = true

instance (f : Frame) : Decidable (IsMachinery f) :=
  inferInstanceAs (Decidable (_ ∨ _))

/-- **Both cuts together** forget a call of the machinery, and what stands above it. -/
theorem cutReportingPath_append_cons (above below : List Frame) {f : Frame} (h : IsMachinery f) :
    cutReportingPath ((cutExitPath (above ++ f :: below)).map resolveAlias)
      = cutReportingPath ((cutExitPath below).map resolveAlias) := by
  by_cases hbelow : ∃ g ∈ below, covered exitCalls g = true
  · -- the first cut is made further down
    obtain ⟨g, hg, hcovered⟩ := hbelow
    have hcut := afterLast_append_of_mem (above ++ [f]) hg hcovered
    rw [List.append_assoc, List.singleton_append] at hcut
    rw [cutExitPath, cutExitPath, hcut]
  have hnone : ∀ g ∈ below, covered exitCalls g = false := fun g hg =>
    eq_false_of_ne_true fun hcovered => hbelow ⟨g, hg, hcovered⟩
  by_cases hexit : covered exitCalls f = true
  · -- the first cut is made at the call
    rw [cutExitPath, cutExitPath, afterLast_append_cons above below hexit]
  · -- the first cut leaves the call, and the second one is made there or further down
    have hcut : cutExitPath (above ++ f :: below) = cutExitPath above ++ f :: below :=
      afterLast_append_of_forall above
        (List.forall_mem_cons.mpr ⟨eq_false_of_ne_true hexit, hnone⟩)
    have hself : cutExitPath below = below := afterLast_eq_self hnone
    rw [hcut, hself, List.map_append, List.map_cons]
    exact afterLast_append_cons _ _ (h.resolve_left hexit)

/-- **What stands above the machinery makes no difference** to the frames that a debugger's thread
is condensed to. -/
theorem condenseFrames_append_cons (above below : List Frame) {f : Frame} (h : IsMachinery f) :
    condenseFrames .debugger (above ++ f :: below) = condenseFrames .debugger below := by
  rw [condenseFrames, condenseFrames, dropLibraryFrames, dropLibraryFrames,
    dropDebuggerLibraryFrames, dropDebuggerLibraryFrames, cutReportingPath_append_cons _ _ h]

end Condense

namespace Thread

open Condense

/-- **A debugger's thread is condensed as if it began below the machinery.** Wherever a call of the
machinery stands, the frames that are left are those of the thread that has only the frames below
the call. So two crashes that differ only in the way from the same frames to the end of the process
are condensed to the same frames. -/
theorem frames_condense_below_machinery {t : Thread} {above below : List Frame} {f : Frame}
    (hkind : t.kind = .debugger) (hframes : t.frames = above ++ f :: below)
    (hf : IsMachinery f) :
    t.condense.frames = ({ t with frames := below } : Thread).condense.frames
      ∧ ∀ (u : Thread) (above' : List Frame) (f' : Frame), u.kind = .debugger →
          u.frames = above' ++ f' :: below → IsMachinery f' →
          u.condense.frames = t.condense.frames := by
  have hbelow : ∀ (u : Thread) (above' : List Frame) (f' : Frame), u.kind = .debugger →
      u.frames = above' ++ f' :: below → IsMachinery f' →
      u.condense.frames = condenseFrames .debugger below := by
    intro u above' f' hkind hframes hf
    rw [condense, hkind, hframes, condenseFrames_append_cons _ _ hf]
  have ht := hbelow t above f hkind hframes hf
  refine ⟨?_, fun u above' f' hkind' hframes' hf' => ?_⟩
  · rw [ht, condense, hkind]
  · rw [ht, hbelow u above' f' hkind' hframes' hf']

/-- A failed assertion and a direct abort, above the same frames. Among these is a call that reports
a failure as well, so that only the outermost two of them are left. -/
theorem frames_condense_below_machinery_assertion :
    let call (name file : String) : Frame := ⟨.named name, .debugger { sourceFile := some file }⟩
    let below := [call "on_failure" "cleanup.cpp", call "os::abort" "os_linux.cpp",
      call "parse" "parser.cpp", call "main" "main.cpp"]
    let assertion := call "__GI___assert_fail" "assert.c"
    let asserted : Thread := ⟨1, .debugger, [call "__GI_raise" "raise.c"] ++ assertion :: below⟩
    let aborted : Thread := ⟨2, .debugger, [] ++ call "abort" "abort.c" :: below⟩
    IsMachinery assertion ∧ IsMachinery (call "abort" "abort.c")
      ∧ asserted.condense.frames = ({ asserted with frames := below } : Thread).condense.frames
      ∧ aborted.condense.frames = asserted.condense.frames
      ∧ asserted.condense.symbolTexts = ["parse", "main"] := by
  intro call below assertion asserted aborted
  have hassertion : IsMachinery assertion := by decide +kernel
  have habort : IsMachinery (call "abort" "abort.c") := by decide +kernel
  obtain ⟨hbelow, hsame⟩ := frames_condense_below_machinery (t := asserted) rfl rfl hassertion
  exact ⟨hassertion, habort, hbelow, hsame aborted [] _ rfl rfl habort, by decide +kernel⟩

end Thread

end CrashTriage
