import CrashTriage.Proofs.Pairing.Relabelling

/-!
# Frames with the same label

A label stands for the symbol of a frame and for nothing else of it. So two frames with the same
label are the same site exactly if their details agree (`Frame.sameSite_relabel`): pairing asks
where two frames are, but not which library, module, file or line they record.

**A label singles out two frames** of threads that had none before: one of each thread, its
counterparts (`Pairing.AreCounterparts`). No other frame has the label, and no other frame is the
same site as either of them. The counterparts themselves are the same site if nothing but their
symbols was in doubt (`Pairing.exists_counterparts`); unresolved frames of two libraries are paired,
and remain different sites (`Pairing.counterparts_of_two_libraries`).
-/

namespace CrashTriage

/-- A label agrees only with itself. -/
theorem Symbol.agrees_paired_iff {label : UInt32} {s : Symbol} :
    (paired label).agrees s = true ↔ s = paired label := by
  cases s with
  | paired other => rw [agrees, beq_iff_eq, paired.injEq, eq_comm]
  | _ => simp [agrees]

namespace Frame

/-! ### What a label leaves open -/

/-- Whether two frames whose symbols agree are the same site: nothing else that identifies the place
contradicts it. A core dump or a Java stack trace records nothing else that counts. -/
def Details.agrees : Details → Details → Bool
  | .core _, .core _ => true
  | .python a, .python b =>
    a.fileName == b.fileName && a.specialFunction == b.specialFunction
      && a.specialFile == b.specialFile
  | .oops a, .oops b => compatible a.moduleName b.moduleName
  | .java _, .java _ => true
  | .debugger a, .debugger b => compatible a.library b.library
  | .ruby a, .ruby b => a.fileName == b.fileName && a.specialFunction == b.specialFunction
  | .script a, .script b => a.line == b.line && a.fileName == b.fileName
  | _, _ => false

/-- A core dump's frame that nothing locates is not located by what locates another one. -/
theorem CoreDetails.sameLocation_of_isUnresolved {s : Symbol} {d : CoreDetails}
    (h : isUnresolved ⟨s, .core d⟩ = true) (e : CoreDetails) : d.sameLocation e = false := by
  refine eq_false_of_ne_true fun hsame => ?_
  simp only [isUnresolved, Bool.and_eq_true, Option.isNone_iff_eq_none] at h
  rcases isSome_of_sameLocation hsame with hbuild | hfingerprint
  · rw [h.1.2] at hbuild
    exact absurd hbuild (by simp)
  · rw [h.2] at hfingerprint
    exact absurd hfingerprint (by simp)

/-- **A frame that was labelled is the same site** as those with its label whose details agree. -/
theorem sameSite_relabel {f : Frame} (hf : f.isUnresolved = true) (label : UInt32) (g : Frame) :
    (f.relabel (.paired label)).sameSite g = true
      ↔ g.symbol = .paired label ∧ f.details.agrees g.details = true := by
  rw [← Symbol.agrees_paired_iff, ← Bool.and_eq_true, ← Bool.eq_iff_iff]
  obtain ⟨s, d⟩ := f
  obtain ⟨t, e⟩ := g
  cases d with
  | core d =>
    cases e with
    | core e =>
      -- where the other frame has no symbol either, the locations would decide
      have hlocation := CoreDetails.sameLocation_of_isUnresolved hf e
      cases t <;>
        simp [relabel, sameSite, Symbol.isUnknown, Symbol.agrees, Details.agrees, hlocation]
    | _ => simp [relabel, sameSite, Details.agrees]
  | script d =>
    -- the line is compared first, and the symbol only then
    cases e with
    | script e => simp only [relabel, sameSite, Details.agrees, Bool.and_assoc, Bool.and_left_comm]
    | _ => simp [relabel, sameSite, Details.agrees]
  | _ => cases e <;> simp [relabel, sameSite, Details.agrees, Bool.and_assoc]

end Frame

/-- No frame of the thread has a label. -/
def Thread.IsUnlabelled (t : Thread) : Prop :=
  ∀ f ∈ t.frames, ∀ label, f.symbol ≠ .paired label

namespace Pairing

variable {positions : List Nat} {t t' : Thread} {label : UInt32} {i : Nat} {f : Frame}

/-! ### Where a label is -/

/-- **The label of a frame tells its position**, if there were no labels before. -/
theorem IsRelabelled.of_label (h : IsRelabelled positions t t') (ht : t.IsUnlabelled)
    (hf : t'.frames[i]? = some f) (hlabel : f.symbol = .paired label) :
    positions[label.toNat]? = some i := by
  by_cases hi : i ∈ positions
  · obtain ⟨k, hk⟩ := List.mem_iff_getElem?.mp hi
    obtain ⟨other, g, rfl, -, -, hg⟩ := h.labelled k i hk
    obtain rfl := Option.some.inj (hf.symm.trans hg)
    obtain rfl : other = label := Symbol.paired.inj hlabel
    exact hk
  · -- a frame that was kept had no label
    rw [h.unchanged i hi] at hf
    exact absurd hlabel (ht f (List.mem_of_getElem? hf) label)

/-- The labels are below the number of positions. -/
theorem IsRelabelled.label_lt (h : IsRelabelled positions t t') (ht : t.IsUnlabelled)
    (hf : f ∈ t'.frames) (hlabel : f.symbol = .paired label) :
    label.toNat < positions.length := by
  obtain ⟨i, hi⟩ := List.mem_iff_getElem?.mp hf
  exact (List.getElem?_eq_some_iff.mp (h.of_label ht hi hlabel)).1

/-- **The frame at a position has the label of the position**, and was unresolved. -/
theorem IsRelabelled.exists_labelled (h : IsRelabelled positions t t')
    (hi : positions[label.toNat]? = some i) :
    ∃ f : Frame, f.isUnresolved = true ∧ t'.frames[i]? = some (f.relabel (.paired label)) := by
  obtain ⟨other, f, hother, -, hf, hget⟩ := h.labelled _ i hi
  obtain rfl := UInt32.toNat_inj.mp hother
  exact ⟨f, hf, hget⟩

/-- No other frame has the label of a position. -/
theorem IsRelabelled.symbol_ne (h : IsRelabelled positions t t') (ht : t.IsUnlabelled)
    (hi : positions[label.toNat]? = some i) {k : Nat} (hk : k ≠ i)
    (hf : t'.frames[k]? = some f) : f.symbol ≠ .paired label := by
  intro hlabel
  exact hk (Option.some.inj ((h.of_label ht hf hlabel).symm.trans hi))

/-! ### Counterparts -/

/-- **Two frames are the counterparts with a label**, the one at a position of the first thread and
the other one at a position of the second, if they have the label, and no other frame of either
thread has it or is the same site as one of them. -/
structure AreCounterparts (label : UInt32) (t u : Thread) (i j : Nat) (x y : Frame) : Prop where
  /-- The first frame is in the first thread. -/
  left_mem : t.frames[i]? = some x
  /-- The second frame is in the second thread. -/
  right_mem : u.frames[j]? = some y
  /-- The first frame has the label. -/
  left_label : x.symbol = .paired label
  /-- The second frame has the label. -/
  right_label : y.symbol = .paired label
  /-- All other frames of the first thread are told apart from both. -/
  left_apart : ∀ k z, k ≠ i → t.frames[k]? = some z →
    z.symbol ≠ .paired label ∧ x.sameSite z = false ∧ y.sameSite z = false
  /-- All other frames of the second thread are told apart from both. -/
  right_apart : ∀ k z, k ≠ j → u.frames[k]? = some z →
    z.symbol ≠ .paired label ∧ x.sameSite z = false ∧ y.sameSite z = false

/-- A frame without the label is told apart from a labelled one. -/
theorem sameSite_relabel_eq_false {g : Frame} (hf : f.isUnresolved = true)
    (hg : g.symbol ≠ .paired label) : (f.relabel (.paired label)).sameSite g = false :=
  eq_false_of_ne_true fun hsame => hg ((Frame.sameSite_relabel hf label g).mp hsame).1

/-- **Every label that is given singles out two counterparts**, which are the same site exactly if
their details agree. -/
theorem exists_counterparts {a b : Thread} (ha : a.IsUnlabelled) (hb : b.IsUnlabelled)
    (hcount : a.frames.countP Frame.isUnresolved < 2 ^ 32
      ∨ b.frames.countP Frame.isUnresolved < 2 ^ 32)
    (h : ∃ f ∈ (pair a b).1.frames ++ (pair a b).2.frames, f.symbol = .paired label) :
    ∃ i j x y, AreCounterparts label (pair a b).1 (pair a b).2 i j x y
      ∧ (x.sameSite y = true ↔ x.details.agrees y.details = true) := by
  obtain ⟨hleft, hright⟩ := isRelabelled_pair hcount
  generalize pairedPositions Frame.sameSite Frame.isResolved a.frames b.frames = places
    at hleft hright
  -- the label is given, so there is a place for it
  have hlt : label.toNat < places.length := by
    obtain ⟨f, hf, hlabel⟩ := h
    rcases List.mem_append.mp hf with hf | hf
    · exact List.length_map Prod.fst ▸ hleft.label_lt ha hf hlabel
    · exact List.length_map Prod.snd ▸ hright.label_lt hb hf hlabel
  obtain ⟨p, hp⟩ : ∃ p, places[label.toNat]? = some p := ⟨_, List.getElem?_eq_getElem hlt⟩
  have hfst : (places.map Prod.fst)[label.toNat]? = some p.1 := by
    rw [List.getElem?_map, hp]
    rfl
  have hsnd : (places.map Prod.snd)[label.toNat]? = some p.2 := by
    rw [List.getElem?_map, hp]
    rfl
  obtain ⟨f, hf, hx⟩ := hleft.exists_labelled hfst
  obtain ⟨g, hg, hy⟩ := hright.exists_labelled hsnd
  refine ⟨p.1, p.2, _, _, ⟨hx, hy, rfl, rfl, ?_, ?_⟩, ?_⟩
  · intro k z hk hz
    have hlabel := hleft.symbol_ne ha hfst hk hz
    exact ⟨hlabel, sameSite_relabel_eq_false hf hlabel, sameSite_relabel_eq_false hg hlabel⟩
  · intro k z hk hz
    have hlabel := hright.symbol_ne hb hsnd hk hz
    exact ⟨hlabel, sameSite_relabel_eq_false hf hlabel, sameSite_relabel_eq_false hg hlabel⟩
  · rw [Frame.sameSite_relabel hf]
    exact and_iff_right rfl

/-- Two unresolved frames behind the same one, where the debugger printed the library of only one of
them: they are paired, and the same site. -/
theorem exists_counterparts_missing_library :
    let frame (s : Symbol) (library : Option String) : Frame := ⟨s, .debugger { library }⟩
    let a : Thread := ⟨0, .debugger, [frame (.named "main") none, frame .unknown none]⟩
    let b : Thread := ⟨1, .debugger,
      [frame (.named "main") none, frame .unknown (some "libfoo.so")]⟩
    a.IsUnlabelled ∧ b.IsUnlabelled ∧ a.frames.countP Frame.isUnresolved < 2 ^ 32
      ∧ ∃ i j x y, AreCounterparts 0 (pair a b).1 (pair a b).2 i j x y ∧ x.sameSite y = true := by
  intro frame a b
  have ha : a.IsUnlabelled := by simp [Thread.IsUnlabelled, a, frame]
  have hb : b.IsUnlabelled := by simp [Thread.IsUnlabelled, b, frame]
  have hcount : a.frames.countP Frame.isUnresolved < 2 ^ 32 := by decide
  obtain ⟨i, j, x, y, hxy, hsame⟩ := exists_counterparts ha hb (Or.inl hcount)
    (show ∃ f ∈ (pair a b).1.frames ++ (pair a b).2.frames, f.symbol = .paired 0 by decide)
  -- no two libraries are recorded that differ
  have hagree : ∀ f ∈ (pair a b).1.frames, ∀ g ∈ (pair a b).2.frames,
      f.details.agrees g.details = true := by
    decide
  exact ⟨ha, hb, hcount, i, j, x, y, hxy, hsame.mpr
    (hagree x (List.mem_of_getElem? hxy.left_mem) y (List.mem_of_getElem? hxy.right_mem))⟩

/-- Two unresolved frames of different libraries behind the same frame: they are paired, and are not
the same site. -/
theorem counterparts_of_two_libraries :
    let frame (s : Symbol) (library : Option String) : Frame := ⟨s, .debugger { library }⟩
    let a : Thread := ⟨0, .debugger,
      [frame (.named "main") none, frame .unknown (some "libfoo.so")]⟩
    let b : Thread := ⟨0, .debugger,
      [frame (.named "main") none, frame .unknown (some "libbar.so")]⟩
    let x := frame (.paired 0) (some "libfoo.so")
    let y := frame (.paired 0) (some "libbar.so")
    a.kind = b.kind ∧ a.IsUnlabelled ∧ b.IsUnlabelled
      ∧ a.frames.countP Frame.isUnresolved < 2 ^ 32
      ∧ b.frames.countP Frame.isUnresolved < 2 ^ 32
      ∧ (pair a b).1.frames[1]? = some x ∧ (pair a b).2.frames[1]? = some y
      ∧ x.sameSite y = false := by
  intro frame a b x y
  refine ⟨rfl, ?_, ?_, by decide, by decide, by decide, by decide, by decide⟩
  · simp [Thread.IsUnlabelled, a, frame]
  · simp [Thread.IsUnlabelled, b, frame]

end Pairing

end CrashTriage
