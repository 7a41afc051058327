import CrashTriage.Proofs.Condense.Aliases
import CrashTriage.Proofs.Condense.Machinery
import Mathlib.Data.List.FinRange

/-!
# What the library rules leave

The frames of a debugger's thread go through two cuts and a filter, and between the cuts the aliases
are resolved. Together that is one rule for each frame (`Condense.IsKept`): **it is kept exactly if
no call of the machinery stands at it or below it, and it is no call that starts or dispatches**.
Calls that end the process are looked for under the names that the debugger printed, all others
under their public names, and the kept frames bear these.

The rule for a frame only looks at the frames from it on. So what is left is told frame by frame
from the front (`Condense.dropDebuggerLibraryFrames_cons`), although both cuts are made from behind,
and each of them on what the one before has left.
-/

namespace CrashTriage

namespace Condense

variable {frames : List Frame} {f : Frame}

/-! ### One frame in front of others -/

/-- What stands above the machinery makes no difference to what the rules leave. -/
theorem dropDebuggerLibraryFrames_append_cons (above below : List Frame) (h : IsMachinery f) :
    dropDebuggerLibraryFrames (above ++ f :: below) = dropDebuggerLibraryFrames below := by
  rw [dropDebuggerLibraryFrames, dropDebuggerLibraryFrames, cutReportingPath_append_cons _ _ h]

/-- Where there is no machinery, nothing is cut. -/
theorem dropDebuggerLibraryFrames_of_forall (h : ∀ g ∈ frames, ¬IsMachinery g) :
    dropDebuggerLibraryFrames frames = (frames.map resolveAlias).filter (!isDispatch ·) := by
  have hexit : cutExitPath frames = frames :=
    afterLast_eq_self fun g hg => eq_false_of_ne_true fun hcovered => h g hg (Or.inl hcovered)
  have hreporting : cutReportingPath (frames.map resolveAlias) = frames.map resolveAlias := by
    refine afterLast_eq_self (List.forall_mem_map.mpr fun g hg => ?_)
    exact eq_false_of_ne_true fun hcovered => h g hg (Or.inr hcovered)
  rw [dropDebuggerLibraryFrames, hexit, hreporting]

/-- **What the rules do to a frame** depends on it and the frames below it, and those are treated
as if it were not there. -/
theorem dropDebuggerLibraryFrames_cons (f : Frame) (frames : List Frame) :
    dropDebuggerLibraryFrames (f :: frames)
      = if (∀ g ∈ f :: frames, ¬IsMachinery g) ∧ isDispatch (resolveAlias f) = false then
          resolveAlias f :: dropDebuggerLibraryFrames frames
        else dropDebuggerLibraryFrames frames := by
  by_cases hnone : ∀ g ∈ f :: frames, ¬IsMachinery g
  · rw [dropDebuggerLibraryFrames_of_forall hnone, List.map_cons, List.filter_cons,
      ← dropDebuggerLibraryFrames_of_forall (List.forall_mem_cons.mp hnone).2]
    simp only [Bool.not_eq_true', and_iff_right hnone]
  · rw [if_neg fun h => hnone h.1]
    by_cases hbelow : ∃ g ∈ frames, IsMachinery g
    · -- both are cut at a call further down
      obtain ⟨g, hg, hmachinery⟩ := hbelow
      obtain ⟨above, below, rfl⟩ := List.append_of_mem hg
      rw [← List.cons_append, dropDebuggerLibraryFrames_append_cons _ _ hmachinery,
        dropDebuggerLibraryFrames_append_cons _ _ hmachinery]
    · -- the frame itself is the last call of the machinery
      have hmachinery : IsMachinery f := by
        by_contra hf
        exact hnone (List.forall_mem_cons.mpr ⟨hf, fun g hg h => hbelow ⟨g, hg, h⟩⟩)
      exact dropDebuggerLibraryFrames_append_cons [] frames hmachinery

/-! ### The rule for each frame -/

/-- **The rules keep the frame at a position.** -/
structure IsKept (frames : List Frame) (k : Fin frames.length) : Prop where
  /-- From it on no frame is a call that ends the process, as it was printed. -/
  exit : ∀ l : Fin frames.length, k ≤ l → covered exitCalls (frames.get l) = false
  /-- From it on no frame is a call that reports a failure, by its public name. -/
  reporting : ∀ l : Fin frames.length, k ≤ l →
    covered reportingCalls (resolveAlias (frames.get l)) = false
  /-- By its public name it is no call that starts a process or a thread. -/
  startup : covered startupCalls (resolveAlias (frames.get k)) = false
  /-- By its public name it is no call by which glib dispatches. -/
  glib : covered glibCalls (resolveAlias (frames.get k)) = false

theorem isKept_iff {k : Fin frames.length} :
    IsKept frames k ↔ (∀ l, k ≤ l → ¬IsMachinery (frames.get l))
      ∧ isDispatch (resolveAlias (frames.get k)) = false := by
  rw [isDispatch, Bool.or_eq_false_iff]
  constructor
  · intro h
    refine ⟨fun l hl hmachinery => ?_, h.startup, h.glib⟩
    rcases hmachinery with hexit | hreporting
    · exact Bool.false_ne_true ((h.exit l hl).symm.trans hexit)
    · exact Bool.false_ne_true ((h.reporting l hl).symm.trans hreporting)
  · rintro ⟨hnone, hstartup, hglib⟩
    exact ⟨fun l hl => eq_false_of_ne_true fun hexit => hnone l hl (Or.inl hexit),
      fun l hl => eq_false_of_ne_true fun hreporting => hnone l hl (Or.inr hreporting),
      hstartup, hglib⟩

instance : DecidablePred (IsKept frames) := fun _ => decidable_of_iff' _ isKept_iff

/-- The rule for the first frame. -/
theorem isKept_zero_iff :
    IsKept (f :: frames) (0 : Fin (frames.length + 1))
      ↔ (∀ g ∈ f :: frames, ¬IsMachinery g) ∧ isDispatch (resolveAlias f) = false := by
  rw [isKept_iff, List.forall_mem_iff_get]
  simp only [Fin.zero_le, true_implies]
  rfl

/-- The rule for any other frame is the same without the first one. -/
theorem isKept_succ_iff {k : Fin frames.length} :
    IsKept (f :: frames) k.succ ↔ IsKept frames k := by
  rw [isKept_iff, isKept_iff]
  refine and_congr ?_ Iff.rfl
  constructor
  · intro h l hl
    exact h l.succ (Fin.succ_le_succ_iff.mpr hl)
  · intro h l hl
    -- the first frame does not come behind
    cases l using Fin.cases with
    | zero => exact absurd hl (Fin.succ_pos k).not_ge
    | succ l => exact h l (Fin.succ_le_succ_iff.mp hl)

/-- The positions of the frames that the rules keep. -/
def keptPositions (frames : List Frame) : List (Fin frames.length) :=
  (List.finRange frames.length).filter (IsKept frames ·)

theorem keptPositions_cons (f : Frame) (frames : List Frame) :
    keptPositions (f :: frames)
      = if (∀ g ∈ f :: frames, ¬IsMachinery g) ∧ isDispatch (resolveAlias f) = false then
          0 :: (keptPositions frames).map Fin.succ
        else (keptPositions frames).map Fin.succ := by
  have hpositions : List.finRange (f :: frames).length
      = 0 :: (List.finRange frames.length).map Fin.succ := List.finRange_succ
  have hbehind : ((List.finRange frames.length).map Fin.succ).filter (IsKept (f :: frames) ·)
      = (keptPositions frames).map Fin.succ := by
    rw [List.filter_map, keptPositions]
    refine congrArg (List.map Fin.succ) (List.filter_congr fun k _ => ?_)
    exact decide_eq_decide.mpr isKept_succ_iff
  rw [keptPositions, hpositions, List.filter_cons, hbehind]
  simp only [decide_eq_true_eq, isKept_zero_iff]

/-- **What the rules leave** are the frames at these positions, under their public names. -/
theorem dropDebuggerLibraryFrames_eq (frames : List Frame) :
    dropDebuggerLibraryFrames frames
      = (keptPositions frames).map fun k => resolveAlias (frames.get k) := by
  induction frames with
  | nil => rfl
  | cons f frames ih =>
    have hbehind : (((keptPositions frames).map Fin.succ).map fun k =>
        resolveAlias ((f :: frames).get k)) = dropDebuggerLibraryFrames frames := by
      rw [List.map_map, ih]
      rfl
    rw [dropDebuggerLibraryFrames_cons, keptPositions_cons]
    split
    · exact congrArg (resolveAlias f :: ·) hbehind.symm
    · exact hbehind.symm

/-- **The library rules drop exactly what they describe.** Of the frames of a debugger's thread they
leave, in their order, those at the positions that are kept, under their public names, which replace
the symbol of a frame and nothing else. So no frame that is left is a call that reports a failure,
or one that starts or dispatches. -/
theorem dropDebuggerLibraryFrames_drops (frames : List Frame) :
    dropDebuggerLibraryFrames frames
        = ((List.finRange frames.length).filter (IsKept frames ·)).map
            (fun k => resolveAlias (frames.get k))
      ∧ (∀ f : Frame, (resolveAlias f).details = f.details)
      ∧ ∀ f ∈ dropDebuggerLibraryFrames frames,
          covered reportingCalls f = false ∧ covered startupCalls f = false
            ∧ covered glibCalls f = false := by
  refine ⟨dropDebuggerLibraryFrames_eq frames, details_resolveAlias, fun f hf => ?_⟩
  rw [dropDebuggerLibraryFrames_eq] at hf
  obtain ⟨k, hk, rfl⟩ := List.mem_map.mp hf
  have hkept : IsKept frames k := of_decide_eq_true (List.mem_filter.mp hk).2
  exact ⟨hkept.reporting k (Nat.le_refl _), hkept.startup, hkept.glib⟩

/-- Behind an alias a call of glib is dropped all the same, but a call that ends the process is not
cut at, and is left under its public name. -/
example :
    let call (name file : String) : Frame := ⟨.named name, .debugger { sourceFile := some file }⟩
    (dropDebuggerLibraryFrames [call "parse" "parser.c", call "__GI_exit" "exit.c",
        call "IA__g_free" "gmem.c", call "main" "main.c"]).map (·.symbol.text)
      = ["parse", "exit", "main"] := by
  decide +kernel

end Condense

end CrashTriage
