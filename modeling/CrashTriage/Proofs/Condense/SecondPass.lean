import CrashTriage.Proofs.Condense.Libraries
import CrashTriage.Proofs.Condense.Reasons
import CrashTriage.Proofs.Condense.Recursion
import CrashTriage.Proofs.Settings.Runs
import Mathlib.Data.List.TakeWhile

/-!
# Condensing twice

Condensing a thread is **one pass** over its frames: each end loses one null call, and each name one
mark of an alias. What the pass leaves may give a second one something to do. This file says exactly
when there is nothing left (`Condense.IsSettled`): when no null call stands at either end, and – for
a debugger – no frame has an alias as its new name, or the name of a call that ends the process,
which the first pass looked for under the names that the debugger printed.

Nothing else can be left to do. The calls that report a failure, the ones that start and dispatch
and those of the core kernel are gone after one pass, and no two frames side by side are the same
site. So **a condensed thread stays as it is exactly if it is settled**
(`Condense.condenseFrames_condenseFrames_eq_iff`), since a pass over frames that are not loses one
of them or renames one.

Of the frames that were recorded it takes two null calls side by side to leave one of them at an
end (`Condense.not_isNullCall_of_isChain`), and a name with the mark of the C library in front of
another mark, or of the name of a call that ends the process (`Condense.NeedsAnotherPass`).
-/

namespace CrashTriage

namespace Condense

section Sequences

variable {α : Type} {p : α → Bool} {same : α → α → Bool} {l : List α} {x kept : α}

/-! ### Steps that have nothing to do -/

/-- Behind the last element with a property no element has it. -/
theorem of_mem_afterLast (hx : x ∈ afterLast p l) : p x = false := by
  rw [afterLast, List.mem_reverse] at hx
  simpa using List.mem_takeWhile_imp hx

theorem dropFirstIf_eq_self_iff :
    dropFirstIf p l = l ↔ ∀ x, l.head? = some x → p x = false := by
  cases l with
  | nil => simp [dropFirstIf]
  | cons a l =>
    rw [dropFirstIf, List.head?_cons]
    split
    · next ha =>
      refine iff_of_false (List.cons_ne_self a l).symm fun h => ?_
      rw [h a rfl] at ha
      exact Bool.false_ne_true ha
    · next ha => exact iff_of_true rfl fun x hx => Option.some.inj hx ▸ eq_false_of_ne_true ha

theorem dropLastIf_eq_self_iff :
    dropLastIf p l = l ↔ ∀ x, l.getLast? = some x → p x = false := by
  rw [dropLastIf]
  split
  · next hlast =>
    obtain ⟨a, ha, hpa⟩ := (Option.any_eq_true _ _).mp hlast
    refine iff_of_false (fun h => ?_) fun h => ?_
    · have hlength := congrArg List.length h
      have hpos := List.length_pos_of_mem (List.mem_of_getLast? ha)
      rw [List.length_dropLast] at hlength
      omega
    · rw [h a ha] at hpa
      exact Bool.false_ne_true hpa
  · next hlast =>
    refine iff_of_true rfl fun x hx => ?_
    rw [hx] at hlast
    exact eq_false_of_ne_true hlast

/-- **Folding is done in one go.** -/
theorem foldRuns_foldRuns (same : α → α → Bool) (l : List α) :
    foldRuns same (foldRuns same l) = foldRuns same l := by
  rw [foldRuns_eq_destutter, foldRuns_eq_destutter]
  exact List.destutter_idem _ _

/-! ### The ends of what is left -/

theorem head?_foldRuns (same : α → α → Bool) (l : List α) : (foldRuns same l).head? = l.head? := by
  cases l <;> rfl

/-- An element that is the same as none is not what others are folded into, so if it is left as the
last one it was the last one. -/
theorem getLast?_of_foldAfter (hx : ∀ y, same y x = false)
    (h : (kept :: foldAfter same kept l).getLast? = some x) : (kept :: l).getLast? = some x := by
  induction l generalizing kept with
  | nil => exact h
  | cons a l ih =>
    rw [List.getLast?_cons_cons]
    rw [foldAfter] at h
    split at h
    · next hsame =>
      have hlast := ih h
      cases l with
      | nil =>
        obtain rfl : kept = x := Option.some.inj hlast
        exact absurd hsame (ne_true_of_eq_false (hx a))
      | cons b l => rwa [List.getLast?_cons_cons] at hlast ⊢
    · exact ih (by rwa [List.getLast?_cons_cons] at h)

theorem getLast?_of_foldRuns (hx : ∀ y, same y x = false)
    (h : (foldRuns same l).getLast? = some x) : l.getLast? = some x := by
  cases l with
  | nil => exact h
  | cons a l => exact getLast?_of_foldAfter hx h

/-- What is left without the last element begins as before. -/
theorem head?_of_dropLastIf (h : (dropLastIf p l).head? = some x) : l.head? = some x := by
  rw [dropLastIf] at h
  split at h
  · rw [List.head?_dropLast, Option.ite_none_right_eq_some] at h
    exact h.2
  · exact h

/-- **Of two elements side by side one does not have the property**, so none that has it is left at
the front. -/
theorem head?_of_isChain (hchain : l.IsChain fun x y => ¬(p x = true ∧ p y = true))
    (h : (dropFirstIf p l).head? = some x) : p x = false := by
  cases l with
  | nil => exact absurd h (by simp [dropFirstIf])
  | cons a l =>
    rw [dropFirstIf] at h
    split at h
    · next ha =>
      obtain ⟨l, rfl⟩ := List.head?_eq_some_iff.mp h
      exact eq_false_of_ne_true fun hx => (List.isChain_cons_cons.mp hchain).1 ⟨ha, hx⟩
    · next ha => exact Option.some.inj h ▸ eq_false_of_ne_true ha

/-- And none is left at the end. -/
theorem getLast?_of_isChain (hchain : l.IsChain fun x y => ¬(p x = true ∧ p y = true))
    (h : (dropLastIf p l).getLast? = some x) : p x = false := by
  rw [dropLastIf] at h
  split at h
  · next hlast =>
    obtain ⟨a, ha, hpa⟩ := (Option.any_eq_true _ _).mp hlast
    obtain ⟨l, rfl⟩ := List.getLast?_eq_some_iff.mp ha
    rw [List.dropLast_concat] at h
    have hside := (List.isChain_append.mp hchain).2.2 x h a rfl
    exact eq_false_of_ne_true fun hx => hside ⟨hx, hpa⟩
  · next hlast =>
    rw [h] at hlast
    exact eq_false_of_ne_true hlast

theorem dropFirstIf_suffix (p : α → Bool) (l : List α) : dropFirstIf p l <:+ l := by
  cases l with
  | nil => exact List.suffix_refl []
  | cons a l =>
    rw [dropFirstIf]
    split
    · exact List.suffix_cons a l
    · exact List.suffix_refl _

end Sequences

/-! ### Frames for which one pass is enough -/

variable {kind : Frame.Kind} {frames : List Frame} {f : Frame}

/-- **A second pass has nothing to do** for frames that one pass has left. -/
structure IsSettled (kind : Frame.Kind) (frames : List Frame) : Prop where
  /-- No null call is left on top. -/
  top : ∀ f, frames.head? = some f → isNullCall f = false
  /-- No null call is left at the bottom. -/
  bottom : ∀ f, frames.getLast? = some f → isNullCall f = false
  /-- The new name of a debugger's frame is not that of a call that ends the process. -/
  exit : kind = .debugger → ∀ f ∈ frames, covered exitCalls f = false
  /-- The new name of a debugger's frame is no alias. -/
  named : kind = .debugger → ∀ f ∈ frames, resolveAlias f = f

/-- There is nothing to trim exactly if no null call stands at an end. -/
theorem trimNullCalls_eq_self_iff :
    trimNullCalls frames = frames
      ↔ (∀ f, frames.head? = some f → isNullCall f = false)
        ∧ ∀ f, frames.getLast? = some f → isNullCall f = false := by
  rw [← dropFirstIf_eq_self_iff, ← dropLastIf_eq_self_iff, trimNullCalls]
  constructor
  · intro h
    -- both steps only leave frames out, so neither of them does
    have hlast := (dropLastIf_sublist isNullCall (dropFirstIf isNullCall frames)).length_le
    rw [h] at hlast
    have hfirst := (dropFirstIf_sublist isNullCall frames).eq_of_length_le hlast
    rw [hfirst] at h
    exact ⟨hfirst, h⟩
  · rintro ⟨hfirst, hlast⟩
    rw [hfirst, hlast]

/-- What the library rules leave is neither a call that reports a failure nor one that starts or
dispatches. -/
theorem of_mem_dropDebuggerLibraryFrames (hf : f ∈ dropDebuggerLibraryFrames frames) :
    covered reportingCalls f = false ∧ isDispatch f = false := by
  obtain ⟨hmem, hdispatch⟩ := List.mem_filter.mp hf
  exact ⟨of_mem_afterLast hmem, by simpa using hdispatch⟩

/-- The library rules leave frames out, and rename others, but bring in none. -/
theorem length_dropLibraryFrames_le (kind : Frame.Kind) (frames : List Frame) :
    (dropLibraryFrames kind frames).length ≤ frames.length := by
  have hle := (map_kind_dropLibraryFrames_sublist kind frames).length_le
  rwa [List.length_map, List.length_map] at hle

/-- **Only frames that are settled are left as they are** by the rules for a debugger's thread. -/
theorem of_dropDebuggerLibraryFrames_eq_self (h : dropDebuggerLibraryFrames frames = frames) :
    (∀ f ∈ frames, covered exitCalls f = false) ∧ ∀ f ∈ frames, resolveAlias f = f := by
  have hdispatch : (dropDebuggerLibraryFrames frames).Sublist
      (cutReportingPath ((cutExitPath frames).map resolveAlias)) := List.filter_sublist
  have hreporting : (cutReportingPath ((cutExitPath frames).map resolveAlias)).Sublist
      ((cutExitPath frames).map resolveAlias) := (afterLast_suffix _ _).sublist
  have hrenamed := hdispatch.trans hreporting
  rw [h] at hrenamed
  -- no step leaves anything out
  have hle := hrenamed.length_le
  rw [List.length_map] at hle
  have hexit : cutExitPath frames = frames := (afterLast_suffix _ _).sublist.eq_of_length_le hle
  rw [hexit] at hrenamed hle
  have hmap : frames.map resolveAlias = frames.map id := by
    rw [List.map_id]
    exact (hrenamed.eq_of_length_le (by rw [List.length_map])).symm
  refine ⟨fun f hf => of_mem_afterLast (l := frames) ?_, List.map_inj_left.mp hmap⟩
  rwa [← cutExitPath, hexit]

/-- **Settled frames are left as they are** by the library rules, which have gone over them once. -/
theorem IsSettled.dropLibraryFrames_eq_self {before : List Frame} (h : IsSettled kind frames)
    (hsubset : frames ⊆ dropLibraryFrames kind before) :
    dropLibraryFrames kind frames = frames := by
  cases kind with
  | debugger =>
    have hleft : ∀ f ∈ frames, covered reportingCalls f = false ∧ isDispatch f = false :=
      fun f hf => of_mem_dropDebuggerLibraryFrames (hsubset hf)
    have hmap : frames.map resolveAlias = frames := by
      rw [List.map_congr_left (h.named rfl)]
      exact List.map_id frames
    rw [dropLibraryFrames, dropDebuggerLibraryFrames_of_forall, hmap, List.filter_eq_self]
    · intro f hf
      rw [(hleft f hf).2]
      rfl
    · rintro f hf (hexit | hreporting)
      · exact Bool.false_ne_true ((h.exit rfl f hf).symm.trans hexit)
      · rw [h.named rfl f hf] at hreporting
        exact Bool.false_ne_true ((hleft f hf).1.symm.trans hreporting)
  | oops => exact List.filter_eq_self.mpr fun f hf => (List.mem_filter.mp (hsubset hf)).2
  | _ => rfl

/-- **Condensed frames are condensed to themselves exactly if they are settled.** -/
theorem condenseFrames_condenseFrames_eq_iff (kind : Frame.Kind) (frames : List Frame) :
    condenseFrames kind (condenseFrames kind frames) = condenseFrames kind frames
      ↔ IsSettled kind (condenseFrames kind frames) := by
  have hsubset := (condenseFrames_sublist kind frames).subset
  have hfolded : foldRecursion (condenseFrames kind frames) = condenseFrames kind frames :=
    foldRuns_foldRuns _ _
  generalize condenseFrames kind frames = left at hsubset hfolded ⊢
  constructor
  · intro h
    -- again no step leaves anything out
    have hcondense := condenseFrames_sublist kind left
    rw [h] at hcondense
    have hlibrary := hcondense.eq_of_length_le (length_dropLibraryFrames_le kind left)
    rw [condenseFrames, ← hlibrary] at h
    have htrim := (foldRuns_sublist Frame.sameSite (trimNullCalls left)).length_le
    rw [← foldRecursion, h] at htrim
    obtain ⟨htop, hbottom⟩ := trimNullCalls_eq_self_iff.mp
      ((trimNullCalls_sublist left).eq_of_length_le htrim)
    refine ⟨htop, hbottom, ?_, ?_⟩
    · rintro rfl
      exact (of_dropDebuggerLibraryFrames_eq_self hlibrary.symm).1
    · rintro rfl
      exact (of_dropDebuggerLibraryFrames_eq_self hlibrary.symm).2
  · intro h
    rw [condenseFrames, h.dropLibraryFrames_eq_self hsubset,
      trimNullCalls_eq_self_iff.mpr ⟨h.top, h.bottom⟩, hfolded]

/-! ### Recorded frames for which one pass is enough -/

/-- **One pass is not enough for a name** that has, behind the mark of the C library, another mark
or the name of a call that ends the process. -/
def NeedsAnotherPass (f : Frame) : Prop :=
  ∃ name, f.symbol = .named ("__GI_" ++ name)
    ∧ ((publicName? name).isSome = true ∨ ∃ r ∈ exitCalls, r.function = name)

/-- The new name is no alias. -/
theorem resolveAlias_resolveAlias (h : ¬NeedsAnotherPass f) :
    resolveAlias (resolveAlias f) = resolveAlias f := by
  obtain ⟨s, d⟩ := f
  cases d with
  | debugger d =>
    have hmark : ∀ name, s = .named ("__GI_" ++ name) → publicName? name = none := by
      intro name hname
      by_contra hne
      exact h ⟨name, hname, Or.inl (Option.isSome_iff_ne_none.mpr hne)⟩
    exact congrArg (Frame.mk · (.debugger d)) (publicSymbol_publicSymbol hmark)
  | _ => rfl

/-- The new name is that of a call that ends the process only if the old one was. -/
theorem covered_exitCalls_resolveAlias (h : ¬NeedsAnotherPass f)
    (hf : covered exitCalls f = false) : covered exitCalls (resolveAlias f) = false := by
  have hvariants : ∀ r ∈ exitCalls, r.function ∉ variantFunctions := by decide
  have hglib : ∀ r ∈ exitCalls, r.function.toList.head? ≠ some 'g' := by decide
  refine eq_false_of_ne_true fun hcovered => ?_
  obtain ⟨s, d⟩ := f
  cases d with
  | debugger d =>
    obtain ⟨r, hr, hcovers⟩ := List.any_eq_true.mp hcovered
    obtain ⟨hname, hfits⟩ := (Bool.and_eq_true _ _).mp hcovers
    rcases cases_of_name?_publicSymbol (eq_of_beq hname) with
      hvariant | hsame | ⟨tail, htail⟩ | hmark
    · exact hvariants r hr hvariant
    · exact List.any_eq_false.mp hf r hr ((Bool.and_eq_true _ _).mpr ⟨beq_iff_eq.mpr hsame, hfits⟩)
    · exact hglib r hr (by simp [htail])
    · exact h ⟨r.function, hmark, Or.inr ⟨r, hr, rfl⟩⟩
  | _ => exact absurd hcovered (ne_true_of_eq_false hf)

/-- A frame that is left of a debugger's thread is one that was recorded, under its new name, and no
call that ended the process. -/
theorem exists_of_mem_dropDebuggerLibraryFrames (hf : f ∈ dropDebuggerLibraryFrames frames) :
    ∃ g ∈ frames, covered exitCalls g = false ∧ resolveAlias g = f := by
  obtain ⟨hmem, -⟩ := List.mem_filter.mp hf
  obtain ⟨g, hg, hname⟩ := List.mem_map.mp ((afterLast_suffix _ _).subset hmem)
  exact ⟨g, (afterLast_suffix _ _).subset hg, of_mem_afterLast hg, hname⟩

/-- A null call is not the same site as any frame. -/
theorem sameSite_eq_false_of_isNullCall (hf : isNullCall f = true) (g : Frame) :
    g.sameSite f = false := by
  refine eq_false_of_ne_true fun hsame => ?_
  rw [Frame.sameSite_comm] at hsame
  rw [isNullCall_of_isResolved (Frame.isResolved_of_sameSite hsame)] at hf
  exact Bool.false_ne_true hf

/-- **It takes two null calls side by side** to leave one at an end. -/
theorem not_isNullCall_of_isChain
    (hchain : frames.IsChain fun f g => ¬(isNullCall f = true ∧ isNullCall g = true)) :
    (∀ f, (foldRecursion (trimNullCalls frames)).head? = some f → isNullCall f = false)
      ∧ ∀ f, (foldRecursion (trimNullCalls frames)).getLast? = some f → isNullCall f = false := by
  constructor
  · intro f hf
    rw [foldRecursion, head?_foldRuns] at hf
    exact head?_of_isChain hchain (head?_of_dropLastIf hf)
  · intro f hf
    refine eq_false_of_ne_true fun hnull => ?_
    have hlast := getLast?_of_foldRuns (sameSite_eq_false_of_isNullCall hnull) hf
    have hchain := hchain.suffix (dropFirstIf_suffix isNullCall frames)
    exact Bool.false_ne_true ((getLast?_of_isChain hchain hlast).symm.trans hnull)

/-- **One pass settles frames** among which no two null calls stand side by side, and for a debugger
no name needs another pass. -/
theorem isSettled_condenseFrames
    (hnull : (dropLibraryFrames kind frames).IsChain
      fun f g => ¬(isNullCall f = true ∧ isNullCall g = true))
    (hnames : kind = .debugger → ∀ f ∈ frames, ¬NeedsAnotherPass f) :
    IsSettled kind (condenseFrames kind frames) := by
  have hends := not_isNullCall_of_isChain hnull
  have hsubset := (condenseFrames_sublist kind frames).subset
  refine ⟨hends.1, hends.2, ?_, ?_⟩
  · rintro rfl f hf
    obtain ⟨g, hg, hexit, rfl⟩ := exists_of_mem_dropDebuggerLibraryFrames (hsubset hf)
    exact covered_exitCalls_resolveAlias (hnames rfl g hg) hexit
  · rintro rfl f hf
    obtain ⟨g, hg, -, rfl⟩ := exists_of_mem_dropDebuggerLibraryFrames (hsubset hf)
    exact resolveAlias_resolveAlias (hnames rfl g hg)

end Condense

namespace Thread

open Condense

theorem condense_condense_eq_iff (t : Thread) :
    t.condense.condense = t.condense ↔ IsSettled t.kind t.condense.frames := by
  rw [condense, condense, Thread.mk.injEq, and_iff_right rfl, and_iff_right rfl]
  exact condenseFrames_condenseFrames_eq_iff t.kind t.frames

/-- For a settled population it makes no difference whether its threads are to be condensed. -/
theorem distances_map_condense {threads : List Thread}
    (h : ∀ t ∈ threads, t.condense.condense = t.condense) (s : Settings) :
    (s.withCondense true).distances (threads.map condense)
      = (s.withCondense false).distances (threads.map condense) := by
  have hpopulation : (s.withCondense true).population (threads.map condense)
      = (s.withCondense false).population (threads.map condense) := by
    rw [Settings.population, Settings.population, Settings.withCondense, Settings.withCondense,
      if_pos rfl, if_neg Bool.false_ne_true, List.map_map]
    exact List.map_congr_left h
  rw [Settings.distances, hpopulation]
  rfl

/-- **Condensing a thread twice.** A condensed thread is condensed to itself exactly if one pass has
settled it: no null call is left at an end, and – for a debugger – no frame has an alias as its new
name, or the name of a call that ends the process. That is so for every thread among whose frames,
without those of libraries, no two null calls stand side by side, and in which – for a debugger – no
name has, behind the mark of the C library, another mark or the name of a call that ends the
process. The matrix of a population of condensed threads that are settled is the same whether or not
the threads are to be condensed. -/
theorem condense_twice :
    (∀ t : Thread, t.condense.condense = t.condense ↔ IsSettled t.kind t.condense.frames)
      ∧ (∀ t : Thread,
          (dropLibraryFrames t.kind t.frames).IsChain
            (fun f g => ¬(isNullCall f = true ∧ isNullCall g = true)) →
          (t.kind = .debugger → ∀ f ∈ t.frames, ¬NeedsAnotherPass f) →
          t.condense.condense = t.condense)
      ∧ ∀ (s : Settings) (threads : List Thread),
          (∀ t ∈ threads, IsSettled t.kind t.condense.frames) →
          (s.withCondense true).distances (threads.map condense)
            = (s.withCondense false).distances (threads.map condense) := by
  refine ⟨condense_condense_eq_iff, fun t hnull hnames => ?_, fun s threads h => ?_⟩
  · exact (condense_condense_eq_iff t).mpr (isSettled_condenseFrames hnull hnames)
  · exact distances_map_condense (fun t ht => (condense_condense_eq_iff t).mpr (h t ht)) s

/-- Two threads of a debugger. The one has a null call on top and a recursion, the other one reached
the end of the process under an alias that the cut is made at. -/
theorem condense_twice_two_threads :
    let call (name file : String) : Frame := ⟨.named name, .debugger { sourceFile := some file }⟩
    let null : Frame := ⟨.unknown, .debugger { address := some 0 }⟩
    let main := call "main" "main.c"
    let t : Thread := ⟨1, .debugger, [null, call "parse" "parse.c", call "parse" "parse.c", main]⟩
    let u : Thread :=
      ⟨2, .debugger, [call "__GI_raise" "raise.c", call "__GI_memset" "libc.so", main]⟩
    (dropLibraryFrames t.kind t.frames).IsChain
        (fun f g => ¬(isNullCall f = true ∧ isNullCall g = true))
      ∧ (∀ f ∈ t.frames, ¬NeedsAnotherPass f) ∧ IsSettled u.kind u.condense.frames
      ∧ t.condense.condense = t.condense ∧ u.condense.condense = u.condense
      ∧ ({ condense := true } : Settings).distances ([t, u].map condense)
          = ({ condense := false } : Settings).distances ([t, u].map condense) := by
  intro call null main t u
  have hnull : (dropLibraryFrames t.kind t.frames).IsChain
      (fun f g => ¬(isNullCall f = true ∧ isNullCall g = true)) := by decide +kernel
  have hnames : ∀ f ∈ t.frames, ¬NeedsAnotherPass f := by
    have hunmarked : ∀ f ∈ t.frames, f.symbol.name?.bind (afterBeginning? "__GI_") = none := by
      decide +kernel
    rintro f hf ⟨name, hname, -⟩
    have hmark := afterBeginning?_eq_some_iff.mpr (Eq.refl ("__GI_" ++ name))
    have hnone := hunmarked f hf
    rw [hname, Symbol.name?, Option.bind_some, hmark] at hnone
    exact absurd hnone (by simp)
  have hu : u.condense.condense = u.condense := by decide +kernel
  obtain ⟨hiff, henough, hmatrix⟩ := condense_twice
  have ht := henough t hnull fun _ => hnames
  refine ⟨hnull, hnames, (hiff u).mp hu, ht, hu, hmatrix {} [t, u] ?_⟩
  exact List.forall_mem_cons.mpr ⟨(hiff t).mp ht, List.forall_mem_singleton.mpr ((hiff u).mp hu)⟩

/-- **A second pass may have something left to do**: a null call that stood behind another one, a
call that ends the process and was printed as an alias, and an alias of an alias. Then it makes a
difference to the matrix as well whether condensed threads are to be condensed. -/
theorem condense_not_idempotent :
    let call (name file : String) : Frame := ⟨.named name, .debugger { sourceFile := some file }⟩
    let null : Frame := ⟨.unknown, .core {}⟩
    let main : Frame := .ofCoreSymbol (.named "main")
    let nulls : Thread := ⟨1, .core, [null, null, main]⟩
    let plain : Thread := ⟨2, .core, [main]⟩
    let ended : Thread := ⟨3, .debugger, [call "parse" "parse.c", call "__GI_exit" "exit.c"]⟩
    let marked : Thread := ⟨4, .debugger, [call "__GI_IA__g_main" "loop.c"]⟩
    nulls.condense.condense ≠ nulls.condense ∧ ended.condense.condense ≠ ended.condense
      ∧ marked.condense.condense ≠ marked.condense
      ∧ (({ condense := true } : Settings).distances ([nulls, plain].map condense)).toOption.map
          (·.slots)
        ≠ (({ condense := false } : Settings).distances ([nulls, plain].map condense)).toOption.map
          (·.slots) := by
  intro call null main nulls plain ended marked
  refine ⟨by decide +kernel, by decide +kernel, by decide +kernel, ?_⟩
  rw [Settings.IsValid.distances_eq (by decide), Settings.IsValid.distances_eq (by decide)]
  decide +kernel

end Thread

end CrashTriage
