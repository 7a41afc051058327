import CrashTriage.Distance
import CrashTriage.Proofs.Metric.EditCount
import CrashTriage.Proofs.Metric.JaccardSets
import CrashTriage.Proofs.Pairing.Labels

/-!
# The distance of a crash from itself

A sequence of resolved frames is at distance zero from itself (`Metric.ofFrames_self`). A debugger's
thread with unresolved frames is paired with itself before it is compared, and then no frame is
unresolved any more, as long as there is an anchor: **its distance from itself is zero**.

Threads that are well resolved are not paired, though, and the trampoline of a signal handler counts
as well resolved even if its function is unknown. A thread may be well resolved with such a frame in
it (`Thread.HidesUnresolved`). It is compared as it is, and its edit distance from itself is not
zero. Besides such threads there is no exception.
-/

namespace CrashTriage

/-! ### Threads that are well resolved -/

/-- **Only the trampoline of a signal handler** can count as well resolved and be unresolved. -/
theorem Frame.signalHandler_of_isSound {f : Frame} (hsound : f.isSound = true)
    (hunresolved : f.isResolved = false) :
    f.symbol.isUnknown = true ∧ ∃ d, f.details = .debugger d ∧ d.signalHandler = true := by
  obtain ⟨s, d⟩ := f
  cases d with
  | debugger d =>
    have hunknown : s.isUnknown = true := by simpa [isResolved, isUnresolved] using hunresolved
    have hnamed : s.isNamed = false := by
      cases s with
      | unknown => rfl
      | _ => exact absurd hunknown (by simp [Symbol.isUnknown])
    refine ⟨hunknown, d, rfl, ?_⟩
    simpa [isSound, hnamed] using hsound
  | _ =>
    -- any other frame counts as well resolved only if it is resolved
    have hresolved : Frame.isResolved _ = true := hsound
    rw [hunresolved] at hresolved
    exact absurd hresolved Bool.false_ne_true

namespace Thread

variable {t : Thread}

theorem isSound_iff : t.isSound = true ↔ ∀ f ∈ t.frames, f.isSound = true := by
  rw [isSound, beq_iff_eq, soundCount, List.countP_eq_length]

/-- **A thread hides unresolved frames** if all its frames count as well resolved, although one of
them is unresolved. -/
def HidesUnresolved (t : Thread) : Prop :=
  (∀ f ∈ t.frames, f.isSound = true) ∧ ∃ f ∈ t.frames, f.isResolved = false

/-- A thread that is well resolved and hides nothing has only resolved frames. -/
theorem isResolved_of_isSound (hsound : t.isSound = true) (h : ¬t.HidesUnresolved) {f : Frame}
    (hf : f ∈ t.frames) : f.isResolved = true := by
  by_contra hne
  exact h ⟨isSound_iff.mp hsound, f, hf, eq_false_of_ne_true hne⟩

end Thread

namespace Metric

variable {m : Metric} {t : Thread} {l : List Frame}

/-! ### Comparing frames with themselves -/

/-- **Resolved frames are at edit distance zero from themselves.** -/
theorem editDistance_self (swaps : Bool) (h : ∀ f ∈ l, f.isResolved = true)
    (hlength : l.length < 2 ^ 64) : Edit.distance Frame.sameSite swaps l l = 0 := by
  have hcount : Edit.count Frame.sameSite swaps l l = 0 :=
    Edit.count_eq_zero_iff.mpr (List.forall₂_same.mpr fun f hf => by
      rw [Frame.sameSite_self]
      exact h f hf)
  rw [Edit.distance, hcount, Nat.max_self]
  split
  · rfl
  · next hne => exact Single.zero_div (Single.isModerate_toFloat32 (Nat.pos_of_ne_zero hne) hlength)

/-- **With an unresolved frame the edit distance is not zero.** -/
theorem editDistance_self_ne_zero (swaps : Bool) (h : ∃ f ∈ l, f.isResolved = false)
    (hlength : l.length < 2 ^ 64) : Edit.distance Frame.sameSite swaps l l ≠ 0 := by
  obtain ⟨f, hf, hunresolved⟩ := h
  -- were the count zero, the unresolved frame would be the same site as itself
  have hcount : Edit.count Frame.sameSite swaps l l ≠ 0 := by
    intro hzero
    have hself := List.forall₂_same.mp (Edit.count_eq_zero_iff.mp hzero) f hf
    rw [Frame.sameSite_self, hunresolved] at hself
    exact absurd hself Bool.false_ne_true
  have hle : Edit.count Frame.sameSite swaps l l ≤ l.length := by
    have hmax : Edit.count Frame.sameSite swaps l l ≤ max l.length l.length :=
      Edit.count_le_max l l
    omega
  have hpos := List.length_pos_of_mem hf
  rw [Edit.distance, Nat.max_self, if_neg (by omega)]
  exact Single.div_ne_zero
    (Single.isModerate_toFloat32 (Nat.pos_of_ne_zero hcount) (by omega))
    (Single.isModerate_toFloat32 hpos hlength)

/-- **Resolved frames are at distance zero from themselves**, for every metric that is a
distance. -/
theorem ofFrames_self (hm : m ≠ jaroWinkler) (h : ∀ f ∈ l, f.isResolved = true)
    (hlength : l.length < 2 ^ 64) : m.ofFrames l l = 0 := by
  cases m with
  | edits => exact editDistance_self false h hlength
  | editsAndSwaps => exact editDistance_self true h hlength
  | jaccard =>
    refine Jaccard.distance_self (fun f hf => ?_) hlength
    rw [Frame.sameSite_self]
    exact h f hf
  | jaroWinkler => exact absurd rfl hm

/-! ### Comparing a crash with itself -/

theorem needsPairing_self (hkind : t.kind = .debugger) : needsPairing t t = !t.isSound := by
  rw [needsPairing, hkind, Bool.and_self]
  rfl

theorem distance_self_eq (m : Metric) (t : Thread) :
    m.distance t t = m.ofFrames t.frames t.frames := by
  rw [distance, if_pos rfl]

/-- A thread that is not well resolved is compared with itself after all its frames are
resolved. -/
theorem pairedDistance_of_not_isSound (hm : m ≠ jaroWinkler) (hkind : t.kind = .debugger)
    (hsound : t.isSound = false) (hresolved : ∃ f ∈ t.frames, f.isResolved = true)
    (hlength : t.frames.length < 2 ^ 64) : m.pairedDistance t t = 0 := by
  obtain ⟨t', hpair, -, hlength', hall⟩ := Pairing.pair_self hresolved
  rw [pairedDistance, if_pos ⟨rfl, by rw [needsPairing_self hkind, hsound]; rfl⟩, hpair]
  dsimp only
  rw [distance_self_eq]
  exact ofFrames_self hm hall (hlength' ▸ hlength)

/-- A thread that is well resolved is compared with itself as it is. -/
theorem pairedDistance_of_isSound (m : Metric) (hkind : t.kind = .debugger)
    (hsound : t.isSound = true) :
    m.pairedDistance t t = m.ofFrames t.frames t.frames := by
  rw [pairedDistance, if_neg, distance_self_eq]
  rw [needsPairing_self hkind, hsound]
  simp

/-- **A crash is at distance zero from itself unless it hides unresolved frames.** A debugger's
thread with a resolved frame is at distance zero from itself for every metric that is a distance,
if it is not one whose frames all count as well resolved although one of them is unresolved; that
one is then the trampoline of a signal handler with an unknown function. A thread that does hide
unresolved frames is not paired: its two edit distances from itself are not zero, and not all of
its distinct frames count as common. -/
theorem pairedDistance_self (hkind : t.kind = .debugger)
    (hresolved : ∃ f ∈ t.frames, f.isResolved = true) (hlength : t.frames.length < 2 ^ 64) :
    (¬t.HidesUnresolved → ∀ m ≠ jaroWinkler, m.pairedDistance t t = 0)
      ∧ (t.HidesUnresolved →
          (∃ f ∈ t.frames, f.symbol.isUnknown = true
            ∧ ∃ d, f.details = .debugger d ∧ d.signalHandler = true)
          ∧ edits.pairedDistance t t ≠ 0 ∧ editsAndSwaps.pairedDistance t t ≠ 0
          ∧ jaccard.pairedDistance t t = Jaccard.distance Frame.sameSite t.frames t.frames
          ∧ Jaccard.common Frame.sameSite t.frames t.frames
              < Jaccard.union Frame.sameSite t.frames t.frames) := by
  constructor
  · intro hhides m hm
    rcases hsound : t.isSound with _ | _
    · exact pairedDistance_of_not_isSound hm hkind hsound hresolved hlength
    · rw [pairedDistance_of_isSound m hkind hsound]
      exact ofFrames_self hm (fun f hf => Thread.isResolved_of_isSound hsound hhides hf) hlength
  · rintro ⟨hall, f, hf, hunresolved⟩
    have hsound := Thread.isSound_iff.mpr hall
    -- the hidden frame is the same site as none, so it counts as an edit and is not common
    have hnone : ∀ g, Frame.sameSite g f = false := by
      intro g
      by_contra hne
      have hsame : f.sameSite g = true := by
        rw [Frame.sameSite_comm]
        exact eq_true_of_ne_false hne
      rw [Frame.isResolved_of_sameSite hsame] at hunresolved
      exact absurd hunresolved (by simp)
    refine ⟨⟨f, hf, Frame.signalHandler_of_isSound (hall f hf) hunresolved⟩, ?_, ?_, ?_,
      Jaccard.common_lt_union hf hnone⟩
    · rw [pairedDistance_of_isSound _ hkind hsound]
      exact editDistance_self_ne_zero false ⟨f, hf, hunresolved⟩ hlength
    · rw [pairedDistance_of_isSound _ hkind hsound]
      exact editDistance_self_ne_zero true ⟨f, hf, hunresolved⟩ hlength
    · rw [pairedDistance_of_isSound _ hkind hsound]
      rfl

/-- A crash with two unresolved frames around a known one is paired with itself. -/
theorem pairedDistance_self_unresolved_around_main :
    let t : Thread := ⟨0, .debugger, [.ofDebuggerSymbol .unknown,
      .ofDebuggerSymbol (.named "main"), .ofDebuggerSymbol .unknown]⟩
    t.kind = .debugger ∧ (∃ f ∈ t.frames, f.isResolved = true) ∧ t.frames.length < 2 ^ 64
      ∧ ¬t.HidesUnresolved ∧ jaccard.pairedDistance t t = 0 := by
  intro t
  have hresolved : ∃ f ∈ t.frames, f.isResolved = true := by decide
  have hlength : t.frames.length < 2 ^ 64 := by decide
  have hhides : ¬t.HidesUnresolved := fun h => absurd (Thread.isSound_iff.mpr h.1) (by decide)
  exact ⟨rfl, hresolved, hlength, hhides,
    (pairedDistance_self rfl hresolved hlength).1 hhides jaccard (by decide)⟩

/-- A crash of a known function below the trampoline of a signal handler is not at distance zero
from itself: both frames count as well resolved, so the trampoline is not paired. -/
theorem pairedDistance_self_signal_handler :
    let t : Thread := ⟨0, .debugger, [⟨.unknown, .debugger { signalHandler := true }⟩,
      ⟨.named "main", .debugger { sourceFile := some "m.c" }⟩]⟩
    (∃ f ∈ t.frames, f.isResolved = true) ∧ edits.pairedDistance t t ≠ 0
      ∧ editsAndSwaps.pairedDistance t t ≠ 0 ∧ jaccard.pairedDistance t t ≠ 0 := by
  decide +kernel

end Metric

end CrashTriage
