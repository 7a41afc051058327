import CrashTriage.Frame.Site

/-!
# The tolerance of frames

Being the same site is a tolerance on the resolved frames: it is symmetric
(`Frame.sameSite_comm`), a frame is the same site as itself exactly if it is resolved
(`Frame.sameSite_self`), an unresolved frame is the same site as none
(`Frame.isResolved_of_sameSite`), and so are frames of different kinds
(`Frame.kind_eq_of_sameSite`). It is not transitive, because a qualifier may be missing.

The same is shown of each of its parts first: of symbols, of qualifiers and of locations.
-/

namespace CrashTriage

/-! ### Symbols -/

namespace Symbol

theorem agrees_comm (s t : Symbol) : s.agrees t = t.agrees s := by
  cases s <;> cases t <;> simp only [agrees, Bool.beq_comm]

theorem agrees_self (s : Symbol) : s.agrees s = !s.isUnknown := by
  cases s <;> simp [agrees, isUnknown]

/-- What agrees with a symbol is not unknown. -/
theorem isUnknown_of_agrees {s t : Symbol} (h : s.agrees t = true) : s.isUnknown = false := by
  cases s with
  | unknown => exact absurd h (by simp [agrees])
  | named name => rfl
  | paired label => rfl

end Symbol

namespace Frame

/-! ### Qualifiers and locations -/

theorem compatible_comm (a b : Option String) : compatible a b = compatible b a := by
  cases a <;> cases b <;> simp only [compatible, Bool.beq_comm]

theorem compatible_self (a : Option String) : compatible a a = true := by
  cases a <;> simp [compatible]

theorem bothGiven_comm (a b : Option String) : bothGiven a b = bothGiven b a := by
  cases a <;> cases b <;> simp only [bothGiven, Bool.beq_comm]

theorem bothGiven_self (a : Option String) : bothGiven a a = a.isSome := by
  cases a <;> simp [bothGiven]

theorem isSome_of_bothGiven {a b : Option String} (h : bothGiven a b = true) :
    a.isSome = true := by
  cases a with
  | none => exact absurd h (by simp [bothGiven])
  | some a => rfl

namespace CoreDetails

theorem sameLocation_comm (a b : CoreDetails) : a.sameLocation b = b.sameLocation a := by
  simp only [sameLocation, bothGiven_comm a.buildId, bothGiven_comm a.fingerprint,
    Bool.beq_comm (a := a.buildIdOffset)]

/-- A location is the same as itself if there is one. -/
theorem sameLocation_self (a : CoreDetails) :
    a.sameLocation a = (a.buildId.isSome || a.fingerprint.isSome) := by
  simp only [sameLocation, bothGiven_self, beq_self_eq_true, Bool.and_true]

theorem isSome_of_sameLocation {a b : CoreDetails} (h : a.sameLocation b = true) :
    a.buildId.isSome = true ∨ a.fingerprint.isSome = true := by
  rcases (Bool.or_eq_true _ _).mp h with hbuild | hfingerprint
  · exact Or.inl (isSome_of_bothGiven ((Bool.and_eq_true _ _).mp hbuild).1)
  · exact Or.inr (isSome_of_bothGiven hfingerprint)

end CoreDetails

/-! ### Frames -/

theorem isResolved_iff {f : Frame} : f.isResolved = true ↔ f.isUnresolved = false := by
  rw [isResolved, Bool.not_eq_true']

/-- **The tolerance is symmetric.** -/
theorem sameSite_comm (f g : Frame) : f.sameSite g = g.sameSite f := by
  obtain ⟨s, d⟩ := f
  obtain ⟨t, e⟩ := g
  cases d <;> cases e <;>
    simp only [sameSite, Symbol.agrees_comm s, compatible_comm, Bool.or_comm s.isUnknown,
      CoreDetails.sameLocation_comm, Bool.beq_comm]

/-- **A frame is the same site as itself exactly if it is resolved.** -/
theorem sameSite_self (f : Frame) : f.sameSite f = f.isResolved := by
  obtain ⟨s, d⟩ := f
  cases d with
  | core d =>
    simp only [sameSite, isResolved, isUnresolved, Symbol.agrees_self, Bool.or_self,
      CoreDetails.sameLocation_self]
    cases s.isUnknown <;> cases d.buildId <;> cases d.fingerprint <;> rfl
  | _ =>
    simp only [sameSite, isResolved, isUnresolved, Symbol.agrees_self, compatible_self,
      beq_self_eq_true, Bool.and_true, Bool.true_and]

/-- **Only resolved frames are the same site as any.** -/
theorem isResolved_of_sameSite {f g : Frame} (h : f.sameSite g = true) : f.isResolved = true := by
  obtain ⟨s, d⟩ := f
  obtain ⟨t, e⟩ := g
  cases d with
  | core d =>
    cases e with
    | core e =>
      rw [isResolved, isUnresolved]
      rcases hs : s.isUnknown with _ | _
      · rfl
      · rw [sameSite] at h
        dsimp only at h ⊢
        rw [hs, Bool.true_or, if_pos rfl] at h
        rcases CoreDetails.isSome_of_sameLocation h with hbuild | hfingerprint
        · simp [hbuild]
        · simp [hfingerprint]
    | _ => exact absurd h (by simp [sameSite])
  | _ =>
    have hagrees : s.agrees t = true := by
      cases e <;> simp_all [sameSite]
    rw [isResolved, isUnresolved, Symbol.isUnknown_of_agrees hagrees]
    rfl

/-- **Only frames of one kind are the same site.** -/
theorem kind_eq_of_sameSite {f g : Frame} (h : f.sameSite g = true) : f.kind = g.kind := by
  obtain ⟨s, d⟩ := f
  obtain ⟨t, e⟩ := g
  -- off the diagonal of the kinds there is no case in which frames are the same site
  revert h
  cases d <;> cases e <;> simp [sameSite, kind, Details.kind]

/-- **Being the same site is a tolerance** on the resolved frames of each kind. It does not depend
on the order of the frames, a frame is the same site as itself exactly if something tells where it
is, and only two such frames, of one kind, are the same site at all. -/
theorem sameSite_isTolerance (f g : Frame) :
    f.sameSite g = g.sameSite f
      ∧ (f.sameSite f = true ↔ f.isUnresolved = false)
      ∧ (f.sameSite g = true →
          f.kind = g.kind ∧ f.isUnresolved = false ∧ g.isUnresolved = false) := by
  refine ⟨sameSite_comm f g, ?_, fun h => ⟨kind_eq_of_sameSite h, ?_, ?_⟩⟩
  · rw [sameSite_self, isResolved_iff]
  · exact isResolved_iff.mp (isResolved_of_sameSite h)
  · rw [sameSite_comm] at h
    exact isResolved_iff.mp (isResolved_of_sameSite h)

/-- Two frames of core dumps with the same machine code, of which only one has a symbol, in
different builds of a module. -/
theorem sameSite_isTolerance_fingerprint :
    let f : Frame := ⟨.unknown, .core { buildId := some "a1", fingerprint := some "f0" }⟩
    let g : Frame := ⟨.named "main", .core { buildId := some "b2", fingerprint := some "f0" }⟩
    f.sameSite g = true ∧ g.sameSite f = true ∧ f.sameSite f = true ∧ f.kind = g.kind
      ∧ f.isUnresolved = false ∧ g.isUnresolved = false := by
  intro f g
  have hsame : f.sameSite g = true := by decide
  obtain ⟨hcomm, hself, h⟩ := sameSite_isTolerance f g
  obtain ⟨hkind, hf, hg⟩ := h hsame
  exact ⟨hsame, hcomm ▸ hsame, hself.mpr hf, hkind, hf, hg⟩

/-- A frame whose library the debugger did not print is the same site as frames of two libraries,
which are not the same site. -/
example :
    let read (library : Option String) : Frame := ⟨.named "read", .debugger { library }⟩
    (read (some "libc")).sameSite (read none) = true
      ∧ (read none).sameSite (read (some "libpthread")) = true
      ∧ (read (some "libc")).sameSite (read (some "libpthread")) = false := by
  decide

end Frame

end CrashTriage
