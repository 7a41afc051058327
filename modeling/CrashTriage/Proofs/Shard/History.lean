import CrashTriage.Proofs.Matrix.Population
import CrashTriage.Proofs.Shard.Computing
import CrashTriage.Proofs.Shard.Culprits

/-!
# Computing a shard again and again

A shard is computed in place, and it may be asked to be computed any number of times, over whatever
populations. **What can go wrong is asked before anything is written** (`Shard.call_of_accepts`,
`Shard.call_of_not_accepts`), so a call that fails leaves the shard as it was. Whether a call
succeeds depends on the run and on the population alone (`Shard.Accepts`), and a call that succeeds
replaces all that an earlier one has written.

So the shard always shows the last call that succeeded, whatever became of the others
(`Shard.afterCalls_cases`); and from then on it is no longer refused by a merge for a distance that
is missing or for a cell outside of the matrix (`Shard.merge_ne_of_computed`).
-/

namespace CrashTriage

namespace Shard

variable {s s' : Shard} {threads : List Thread}

/-! ### One call -/

/-- **A shard accepts a population** of the right size and of one kind, if its run lies inside the
matrix. -/
structure Accepts (s : Shard) (threads : List Thread) : Prop where
  /-- There is a thread for each column. -/
  length_eq : threads.length = s.shape.columns
  /-- The run lies inside the matrix. -/
  inside : s.IsInside
  /-- All threads are of one kind. -/
  uniform : Population.IsUniform threads

/-- A program that first looks at the shard goes on with the one that is there. -/
theorem run_get_bind (s : Shard) (next : Shard → ExceptT ComparisonError (StateM Shard) Unit) :
    (((get >>= next : ExceptT ComparisonError (StateM Shard) Unit).run.run s).run)
      = ((next s).run.run s).run :=
  rfl

/-- **Computing in place comes to the same as computing another shard**, and in case of a failure
to doing nothing. -/
theorem call_eq_compute (s : Shard) (threads : List Thread) :
    s.call threads = match s.compute threads with
      | .ok s' => (.ok (), s')
      | .error e => (.error e, s) := by
  rw [call, computeInPlace, run_get_bind, compute]
  -- one check after the other, and nothing is written until all are passed
  rcases Population.checkSize threads s.shape.columns with e | ⟨⟩
  · rfl
  rcases s.start? with _ | p
  · rfl
  rcases Population.checkKinds threads with e | ⟨⟩ <;> rfl

theorem call_of_accepts (h : s.Accepts threads) :
    s.call threads = (.ok (), s.computed threads) := by
  rw [call_eq_compute, compute_eq_ok_iff.mpr ⟨h.length_eq, h.inside, h.uniform, rfl⟩]

theorem call_of_not_accepts (h : ¬s.Accepts threads) :
    ∃ e, s.call threads = (.error e, s) := by
  rw [call_eq_compute]
  rcases hcompute : s.compute threads with e | s'
  · exact ⟨e, rfl⟩
  · obtain ⟨hlength, hin, hkinds, -⟩ := compute_eq_ok_iff.mp hcompute
    exact absurd ⟨hlength, hin, hkinds⟩ h

/-- **A call succeeds exactly if the shard accepts the population.** -/
theorem call_eq_ok_iff : (s.call threads).1 = .ok () ↔ s.Accepts threads := by
  by_cases h : s.Accepts threads
  · rw [call_of_accepts h]
    exact iff_of_true rfl h
  · obtain ⟨e, he⟩ := call_of_not_accepts h
    rw [he]
    exact iff_of_false (by simp) h

/-! ### What a call does -/

/-- The shards are of the same run and metric; only what was computed may differ. -/
def SameRun (s' s : Shard) : Prop :=
  s' = { s with distances := s'.distances, checksum := s'.checksum }

theorem SameRun.trans {s'' : Shard} (h : s''.SameRun s') (h' : s'.SameRun s) : s''.SameRun s := by
  unfold SameRun at h h'
  rw [h'] at h
  exact h

/-- **What a shard accepts depends on its run alone.** -/
theorem SameRun.accepts_iff (h : s'.SameRun s) : s'.Accepts threads ↔ s.Accepts threads := by
  unfold SameRun at h
  have hshape : s'.shape = s.shape := by rw [h]
  have hstart : s'.start? = s.start? := by
    rw [h]
    rfl
  have hin : s'.IsInside ↔ s.IsInside := by
    rw [← not_iff_not, ← start?_eq_none_iff, ← start?_eq_none_iff, hstart]
  exact ⟨fun h => ⟨hshape ▸ h.length_eq, hin.mp h.inside, h.uniform⟩,
    fun h => ⟨hshape ▸ h.length_eq, hin.mpr h.inside, h.uniform⟩⟩

/-- **A call replaces all that was computed before.** -/
theorem SameRun.computed_eq (h : s'.SameRun s) : s'.computed threads = s.computed threads := by
  unfold SameRun at h
  rw [h]
  rfl

theorem call_sameRun (s : Shard) (threads : List Thread) : (s.call threads).2.SameRun s := by
  by_cases h : s.Accepts threads
  · rw [call_of_accepts h]
    rfl
  · obtain ⟨e, he⟩ := call_of_not_accepts h
    rw [he]
    rfl

/-- **What a shard becomes by a call over a population**: it has as many distances as cells, each
of them that of the two threads of the cell, and the checksum of the population. Nothing else has
changed, and no cell is one of a thread that is not there. -/
structure IsResult (s' s : Shard) (threads : List Thread) : Prop where
  /-- Nothing but the distances and the checksum has changed. -/
  sameRun : s'.SameRun s
  /-- The checksum is that of the population. -/
  checksum_eq : s'.checksum = some (Population.checksum threads)
  /-- There is a distance for each cell. -/
  filled : s'.IsFilled
  /-- The threads of all cells are there. -/
  cell_lt : ∀ c ∈ s.cells, c.row < c.column ∧ c.column < threads.length
  /-- Each distance is that of the threads of its cell. -/
  distance_eq : ∀ k < s.length, ∃ c a b, c ∈ s.shape ∧ c.position s.shape.columns = s.start + k
    ∧ threads[c.row]? = some a ∧ threads[c.column]? = some b
    ∧ s'.distances.bind (·[k]?) = some (s.metric.pairedDistance a b)

theorem Accepts.isResult_computed (h : s.Accepts threads) :
    (s.computed threads).IsResult s threads where
  sameRun := rfl
  checksum_eq := rfl
  filled := h.inside.isFilled_computed
  cell_lt c hc := by
    obtain ⟨k, hk⟩ := List.mem_iff_getElem?.mp hc
    obtain ⟨-, ⟨-, hlt, hcolumn⟩, -⟩ := (getElem?_cells h.inside).mp hk
    exact ⟨hlt, h.length_eq ▸ hcolumn⟩
  distance_eq k hk := by
    have hlength := length_cells h.inside
    obtain ⟨c, hc⟩ : ∃ c, s.cells[k]? = some c := ⟨_, List.getElem?_eq_getElem (by omega)⟩
    obtain ⟨-, ⟨hrow, hlt, hcolumn⟩, hposition⟩ := (getElem?_cells h.inside).mp hc
    have hthreads := h.length_eq
    obtain ⟨a, ha⟩ : ∃ a, threads[c.row]? = some a := ⟨_, List.getElem?_eq_getElem (by omega)⟩
    obtain ⟨b, hb⟩ : ∃ b, threads[c.column]? = some b := ⟨_, List.getElem?_eq_getElem (by omega)⟩
    refine ⟨c, a, b, ⟨hrow, hlt, hcolumn⟩, hposition, ha, hb, ?_⟩
    rw [computed, restore, Option.bind_some, List.getElem?_map, hc, Option.map_some,
      Population.distance_eq s.metric ha hb]

/-! ### Many calls -/

theorem afterCalls_concat (s : Shard) (calls : List (List Thread)) (threads : List Thread) :
    s.afterCalls (calls ++ [threads]) = ((s.afterCalls calls).call threads).2 :=
  List.foldl_append

/-- **No number of calls changes the run.** -/
theorem afterCalls_sameRun (s : Shard) (calls : List (List Thread)) :
    (s.afterCalls calls).SameRun s := by
  induction calls using List.reverseRecOn with
  | nil => rfl
  | append_singleton calls threads ih =>
    rw [afterCalls_concat]
    exact (call_sameRun _ threads).trans ih

/-- **The last call that succeeded** decides what a shard shows: it is computed over the population
of that call, or as in the beginning if there is none. -/
theorem afterCalls_cases (s : Shard) (calls : List (List Thread)) :
    ((∀ p ∈ calls, ¬s.Accepts p) ∧ s.afterCalls calls = s)
      ∨ ∃ earlier threads later, calls = earlier ++ threads :: later ∧ s.Accepts threads
        ∧ (∀ p ∈ later, ¬s.Accepts p) ∧ s.afterCalls calls = s.computed threads := by
  induction calls using List.reverseRecOn with
  | nil => exact .inl ⟨by simp, rfl⟩
  | append_singleton calls last ih =>
    have hrun := afterCalls_sameRun s calls
    rw [afterCalls_concat]
    by_cases hlast : s.Accepts last
    · refine .inr ⟨calls, last, [], rfl, hlast, by simp, ?_⟩
      rw [call_of_accepts (hrun.accepts_iff.mpr hlast), hrun.computed_eq]
    · -- the last call fails, so what was the case before it still is
      obtain ⟨e, he⟩ := call_of_not_accepts (mt hrun.accepts_iff.mp hlast)
      rw [he]
      rcases ih with ⟨hnone, hstate⟩ | ⟨earlier, threads, later, rfl, hthreads, hlater, hstate⟩
      · exact .inl ⟨List.forall_mem_append.mpr ⟨hnone, List.forall_mem_singleton.mpr hlast⟩, hstate⟩
      · exact .inr ⟨earlier, threads, later ++ [last], by simp, hthreads,
          List.forall_mem_append.mpr ⟨hlater, List.forall_mem_singleton.mpr hlast⟩, hstate⟩

/-! ### Merging computed shards -/

/-- A computed shard inside the matrix can only fail the checks that compare it with others. -/
theorem FirstFault.ne_of_computed {shape : Shape} {metric : Metric} {checksum : UInt32} {k : Nat}
    {e : MergeError} (he : FirstFault shape metric checksum k s e) (hcomputed : s.isComputed)
    (hfilled : s.IsFilled) (hin : s.IsInside) :
    e ≠ .notComputed k ∧ (∀ expected found, e ≠ .lengthMismatch k expected found)
      ∧ e ≠ .outOfRange k := by
  cases he with
  | shape => simp
  | metric => simp
  | computed hshape hmetric hnot => exact absurd hcomputed hnot
  | checksum => simp
  | length hshape hmetric hchecksum hsome hlength =>
    obtain ⟨distances, hsome', hlength'⟩ := hfilled
    rw [hsome] at hsome'
    exact absurd (Option.some.inj hsome' ▸ hlength') hlength
  | range hshape hmetric hchecksum hfilled hout => exact absurd hin hout

/-- **A computed shard is not refused** for a distance that is missing or for a cell outside of the
matrix, whatever it is merged with. -/
theorem merge_ne_of_computed {shards : List Shard} {k : Nat} {e : MergeError}
    (hget : shards[k]? = some s) (hcomputed : s.isComputed) (hfilled : s.IsFilled)
    (hin : s.IsInside) (herror : merge shards = .error e) :
    e ≠ .notComputed k ∧ (∀ expected found, e ≠ .lengthMismatch k expected found)
      ∧ e ≠ .outOfRange k := by
  rcases of_merge_eq_error herror with
    rfl | ⟨model, -, -, rfl⟩ | ⟨j, t, ht, rfl | ⟨shape, metric, checksum, hfault⟩⟩
      | ⟨covered, total, rfl⟩
  · simp
  · simp
  · simp
  · by_cases hjk : j = k
    · subst hjk
      obtain rfl := Option.some.inj (hget.symm.trans ht)
      exact hfault.ne_of_computed hcomputed hfilled hin
    · -- the culprit is another shard, and the error names that one
      cases hfault <;> simp [hjk]
  · simp

/-- **Computing is all or nothing, at any time.** Whatever a shard is in the beginning and over
whatever populations it was called to be computed: one more call succeeds exactly if the shard
accepts the population; if it fails, the shard is left as it was, and if it succeeds, the shard is
the result over that population. So the shard is always the result over the last population that it
accepted, if there was one, and then a merge refuses it neither for a distance that is missing nor
for a cell outside of the matrix. -/
theorem afterCalls_isAtomic (s : Shard) (calls : List (List Thread)) :
    (∀ threads,
      (((s.afterCalls calls).call threads).1 = .ok () ↔ s.Accepts threads)
      ∧ (((s.afterCalls calls).call threads).1 ≠ .ok () →
        ((s.afterCalls calls).call threads).2 = s.afterCalls calls)
      ∧ (((s.afterCalls calls).call threads).1 = .ok () →
        ((s.afterCalls calls).call threads).2.IsResult (s.afterCalls calls) threads))
    ∧ ((∀ p ∈ calls, ¬s.Accepts p) ∧ s.afterCalls calls = s
      ∨ ∃ earlier threads later, calls = earlier ++ threads :: later ∧ s.Accepts threads
        ∧ (∀ p ∈ later, ¬s.Accepts p) ∧ (s.afterCalls calls).IsResult s threads
        ∧ ∀ (shards : List Shard) (k : Nat) (e : MergeError),
          shards[k]? = some (s.afterCalls calls) → merge shards = .error e →
          e ≠ .notComputed k ∧ (∀ expected found, e ≠ .lengthMismatch k expected found)
            ∧ e ≠ .outOfRange k) := by
  refine ⟨fun threads => ?_, ?_⟩
  · have hiff : (s.afterCalls calls).Accepts threads ↔ s.Accepts threads :=
      (afterCalls_sameRun s calls).accepts_iff
    refine ⟨call_eq_ok_iff.trans hiff, fun hfailed => ?_, fun hok => ?_⟩
    · obtain ⟨e, he⟩ := call_of_not_accepts (mt call_eq_ok_iff.mpr hfailed)
      rw [he]
    · have haccepts := call_eq_ok_iff.mp hok
      rw [call_of_accepts haccepts]
      exact haccepts.isResult_computed
  · rcases afterCalls_cases s calls with hnone | ⟨earlier, threads, later, hcalls, haccepts, hlater,
      hstate⟩
    · exact .inl hnone
    · rw [hstate]
      exact .inr ⟨earlier, threads, later, hcalls, haccepts, hlater, haccepts.isResult_computed,
        fun shards k e hget => merge_ne_of_computed hget rfl haccepts.inside.isFilled_computed
          haccepts.inside.computed⟩

/-- A shard with distances of unknown origin, called with a thread too few and then with the right
ones. -/
theorem afterCalls_isAtomic_restored_shard :
    let s : Shard :=
      { shape := ⟨1, 2⟩, first := ⟨0, 1⟩, length := 1, metric := .edits,
        distances := some [5, 7], checksum := some 9 }
    let a : Thread := ⟨0, .debugger, [.ofDebuggerSymbol (.named "main")]⟩
    let b : Thread := ⟨1, .debugger, [.ofDebuggerSymbol .unknown]⟩
    s.afterCalls [[a]] = s ∧ ((s.afterCalls [[a]]).call [a, b]).1 = .ok ()
      ∧ ((s.afterCalls [[a]]).call [a, b]).2.IsResult (s.afterCalls [[a]]) [a, b] := by
  intro s a b
  have hfew : ¬s.Accepts [a] := fun h => absurd h.length_eq (by decide)
  have haccepts : s.Accepts [a, b] :=
    ⟨rfl, ⟨by decide, by decide, by decide⟩, .debugger, by decide⟩
  obtain ⟨hiff, -, hresult⟩ := (afterCalls_isAtomic s [[a]]).1 [a, b]
  have hok := hiff.mpr haccepts
  refine ⟨?_, hok, hresult hok⟩
  obtain ⟨hiff, hfailed, -⟩ := (afterCalls_isAtomic s []).1 [a]
  exact hfailed (mt hiff.mp hfew)

end Shard

end CrashTriage
