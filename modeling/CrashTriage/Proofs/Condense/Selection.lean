import CrashTriage.Condense.Basic

/-!
# Condensing selects frames

Apart from the aliases that are resolved on the way, condensing a thread only leaves frames out:
each step selects some frames of the sequence and **keeps their order**
(`Condense.condenseFrames_sublist`). Resolving an alias replaces the symbol of a frame and nothing
else, so the kinds of the frames that are left are among those that there were
(`Condense.map_kind_condenseFrames_sublist`).
-/

namespace CrashTriage

namespace Condense

section Sequences

variable {α : Type}

/-! ### The steps -/

/-- What comes behind the last element with a property is the end of the list. -/
theorem afterLast_suffix (p : α → Bool) (l : List α) : afterLast p l <:+ l := by
  have h : (l.reverse.takeWhile (!p ·)).reverse <:+ l.reverse.reverse :=
    List.reverse_suffix.mpr (List.takeWhile_prefix _)
  rwa [List.reverse_reverse] at h

theorem dropFirstIf_sublist (p : α → Bool) (l : List α) : (dropFirstIf p l).Sublist l := by
  cases l with
  | nil => exact List.Sublist.slnil
  | cons x xs =>
    rw [dropFirstIf]
    split
    · exact List.sublist_cons_self x xs
    · exact List.Sublist.refl _

theorem dropLastIf_sublist (p : α → Bool) (l : List α) : (dropLastIf p l).Sublist l := by
  rw [dropLastIf]
  split
  · exact List.dropLast_sublist l
  · exact List.Sublist.refl l

theorem foldAfter_sublist (same : α → α → Bool) (kept : α) (l : List α) :
    (foldAfter same kept l).Sublist l := by
  induction l generalizing kept with
  | nil => exact List.Sublist.slnil
  | cons x xs ih =>
    rw [foldAfter]
    split
    · exact (ih kept).cons x
    · exact (ih x).cons_cons x

theorem foldRuns_sublist (same : α → α → Bool) (l : List α) : (foldRuns same l).Sublist l := by
  cases l with
  | nil => exact List.Sublist.slnil
  | cons x xs => exact (foldAfter_sublist same x xs).cons_cons x

end Sequences

/-! ### Frames -/

theorem trimNullCalls_sublist (frames : List Frame) : (trimNullCalls frames).Sublist frames :=
  (dropLastIf_sublist isNullCall _).trans (dropFirstIf_sublist isNullCall frames)

/-- **Behind the library frames nothing is changed any more**: frames are left out, and those that
are kept are in the same order. -/
theorem condenseFrames_sublist (kind : Frame.Kind) (frames : List Frame) :
    (condenseFrames kind frames).Sublist (dropLibraryFrames kind frames) :=
  (foldRuns_sublist Frame.sameSite _).trans (trimNullCalls_sublist _)

/-! ### Kinds -/

/-- Resolving an alias keeps the kind of the frame. -/
@[simp] theorem kind_resolveAlias (f : Frame) : (resolveAlias f).kind = f.kind := by
  rw [resolveAlias]
  split
  · exact Frame.kind_relabel _ f
  · rfl

open scoped List in
theorem map_kind_dropDebuggerLibraryFrames_sublist (frames : List Frame) :
    ((dropDebuggerLibraryFrames frames).map Frame.kind).Sublist (frames.map Frame.kind) := by
  have hkinds : ((cutExitPath frames).map resolveAlias).map Frame.kind
      = (cutExitPath frames).map Frame.kind := by
    rw [List.map_map]
    exact List.map_congr_left fun f _ => kind_resolveAlias f
  calc
    (dropDebuggerLibraryFrames frames).map Frame.kind
    _ <+ (cutReportingPath ((cutExitPath frames).map resolveAlias)).map Frame.kind :=
      List.filter_sublist.map Frame.kind
    _ <+ ((cutExitPath frames).map resolveAlias).map Frame.kind :=
      (afterLast_suffix _ _).sublist.map Frame.kind
    _ = (cutExitPath frames).map Frame.kind := hkinds
    _ <+ frames.map Frame.kind := (afterLast_suffix _ frames).sublist.map Frame.kind

theorem map_kind_dropLibraryFrames_sublist (kind : Frame.Kind) (frames : List Frame) :
    ((dropLibraryFrames kind frames).map Frame.kind).Sublist (frames.map Frame.kind) := by
  cases kind with
  | debugger => exact map_kind_dropDebuggerLibraryFrames_sublist frames
  | oops => exact List.filter_sublist.map Frame.kind
  | _ => exact List.Sublist.refl _

/-- **Condensing brings in no kind that was not there.** -/
theorem map_kind_condenseFrames_sublist (kind : Frame.Kind) (frames : List Frame) :
    ((condenseFrames kind frames).map Frame.kind).Sublist (frames.map Frame.kind) :=
  ((condenseFrames_sublist kind frames).map Frame.kind).trans
    (map_kind_dropLibraryFrames_sublist kind frames)

end Condense

end CrashTriage
