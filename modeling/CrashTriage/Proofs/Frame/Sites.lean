import CrashTriage.Proofs.Frame.Tolerance

/-!
# Sites

Where no qualifier can be missing, being the same site is having the same site: the symbol, and the
details that are compared with it (`Frame.site?`). A frame is **plain** if that is so
(`Frame.isPlain`): it names no module and no library, which another frame may leave out, and if it
is from a core dump, it has a symbol. Every frame of the other kinds is plain.

**Two plain frames are the same site exactly if both have a site and it is the same one**
(`Frame.sameSite_iff_site?`). So among plain frames the tolerance is transitive.
-/

namespace CrashTriage

namespace Symbol

/-- **Symbols agree if they are equal**, and known. -/
theorem agrees_iff {s t : Symbol} : s.agrees t = true ↔ s.isUnknown = false ∧ s = t := by
  cases s <;> cases t <;> simp [agrees, isUnknown]

end Symbol

namespace Frame

/-- The details that are compared, with everything else left at its default. -/
def Details.compared : Details → Details
  | .core _ => .core {}
  | .python d => .python
      { fileName := d.fileName, specialFunction := d.specialFunction, specialFile := d.specialFile }
  | .oops d => .oops { moduleName := d.moduleName }
  | .java _ => .java {}
  | .debugger d => .debugger { library := d.library }
  | .ruby d => .ruby { fileName := d.fileName, specialFunction := d.specialFunction }
  | .script d => .script { fileName := d.fileName, line := d.line }

/-- What a frame is compared by. -/
structure Site where
  /-- The function that executes. -/
  symbol : Symbol
  /-- The details that are compared with it. -/
  details : Details
deriving DecidableEq

/-- The site of a frame, if something tells where it is. -/
def site? (f : Frame) : Option Site :=
  if f.isResolved then some ⟨f.symbol, f.details.compared⟩ else none

/-- Whether nothing that the frame is compared by may be missing in another frame or in itself. -/
def isPlain (f : Frame) : Bool :=
  match f.details with
  | .core _ => !f.symbol.isUnknown
  | .oops d => d.moduleName.isNone
  | .debugger d => d.library.isNone
  | _ => true

variable {f g : Frame}

theorem isNone_site? (f : Frame) : f.site?.isNone = f.isUnresolved := by
  rw [site?, isResolved]
  cases f.isUnresolved <;> rfl

theorem isSome_site? (f : Frame) : f.site?.isSome = f.isResolved := by
  rw [site?]
  cases f.isResolved <;> rfl

/-- A plain frame is resolved if its symbol is known. -/
theorem isResolved_of_isPlain (h : f.isPlain = true) : f.isResolved = !f.symbol.isUnknown := by
  obtain ⟨s, d⟩ := f
  cases d with
  | core d =>
    rw [isResolved, isUnresolved, (Bool.not_eq_true' _).mp h]
    rfl
  | _ => rfl

/-- Plain frames are the same site if their symbols agree and the compared details are equal. -/
theorem sameSite_iff_compared (hf : f.isPlain = true) (hg : g.isPlain = true) :
    f.sameSite g = true
      ↔ f.symbol.agrees g.symbol = true ∧ f.details.compared = g.details.compared := by
  obtain ⟨s, d⟩ := f
  obtain ⟨t, e⟩ := g
  cases d <;> cases e <;>
    simp_all [sameSite, Details.compared, isPlain, compatible, and_assoc, and_left_comm, and_comm]

/-- **Plain frames are the same site exactly if they have the same one.** -/
theorem sameSite_iff_site? (hf : f.isPlain = true) (hg : g.isPlain = true) :
    f.sameSite g = true ↔ ∃ s, f.site? = some s ∧ g.site? = some s := by
  rw [sameSite_iff_compared hf hg, Symbol.agrees_iff]
  constructor
  · rintro ⟨⟨hknown, hsymbol⟩, hdetails⟩
    have hresolved : f.isResolved = true := by rw [isResolved_of_isPlain hf, hknown]; rfl
    have hresolved' : g.isResolved = true := by
      rw [isResolved_of_isPlain hg, ← hsymbol, hknown]
      rfl
    exact ⟨⟨f.symbol, f.details.compared⟩, if_pos hresolved, by
      rw [site?, if_pos hresolved', hsymbol, hdetails]⟩
  · rintro ⟨s, hs, hs'⟩
    obtain ⟨hresolved, hsite⟩ := Option.ite_none_right_eq_some.mp hs
    obtain ⟨-, hsite'⟩ := Option.ite_none_right_eq_some.mp hs'
    obtain ⟨hsymbol, hdetails⟩ := Site.mk.inj (Option.some.inj (hsite.trans hsite'.symm))
    rw [isResolved_of_isPlain hf, Bool.not_eq_true'] at hresolved
    exact ⟨⟨hresolved, hsymbol⟩, hdetails⟩

end Frame

end CrashTriage
