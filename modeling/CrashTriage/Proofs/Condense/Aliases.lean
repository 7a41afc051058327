import CrashTriage.Condense.Alias
import CrashTriage.Proofs.Frame.Tolerance
import Mathlib.Data.List.Infix

/-!
# What resolving an alias does

Resolving an alias replaces the symbol of a frame and nothing else
(`Condense.details_resolveAlias`). A frame that has a symbol keeps one, but for two names: **behind
the mark of the C library, the empty name and `??` are no names**
(`Condense.isResolved_resolveAlias_iff`). Glib and gtk mark names that go on with a `g` after the
mark, and the functions that have variants all have names.

Marks are taken off once. So a public name has no mark itself, **unless there was another one behind
the mark of the C library** (`Condense.publicSymbol_publicSymbol`).
-/

namespace CrashTriage

namespace Condense

variable {beginning text rest name : String} {s : Symbol} {d : Frame.DebuggerDetails}

/-- Resolving an alias changes nothing but the symbol. -/
@[simp] theorem details_resolveAlias (f : Frame) : (resolveAlias f).details = f.details := by
  rw [resolveAlias]
  split
  · exact Frame.details_relabel _ f
  · rfl

/-! ### Names -/

/-- What comes behind a beginning makes up the text with it. -/
theorem afterBeginning?_eq_some_iff :
    afterBeginning? beginning text = some rest ↔ text = beginning ++ rest := by
  rw [afterBeginning?, Option.ite_none_right_eq_some, List.isPrefixOf_iff_prefix,
    List.prefix_iff_eq_append, Option.some.injEq, ← String.toList_inj, ← String.toList_inj,
    String.toList_ofList, String.toList_append, String.length_toList]
  constructor
  · rintro ⟨htext, hrest⟩
    rw [← htext, hrest]
  · intro htext
    have hdrop : text.toList.drop beginning.length = rest.toList := by
      rw [htext, ← String.length_toList, List.drop_left]
    exact ⟨by rw [hdrop, htext], hdrop⟩

theorem isUnknown_ofName_iff :
    (Symbol.ofName name).isUnknown = true ↔ name = "" ∨ name = Symbol.unknownMark := by
  rw [Symbol.ofName]
  split
  · next h => exact iff_of_true rfl h
  · next h => exact iff_of_false Bool.false_ne_true h

/-- **What a public name is told from**: the mark of glib or gtk, behind which it begins with a `g`,
or the mark of the C library. -/
theorem eq_of_publicName? (h : publicName? text = some name) :
    (text = "IA__" ++ name ∧ ∃ tail, name = "g" ++ tail) ∨ text = "__GI_" ++ name := by
  rw [publicName?] at h
  split at h
  · next hmark =>
    have htext := afterBeginning?_eq_some_iff.mp h
    refine Or.inl ⟨htext, ?_⟩
    have hglib : ∀ start, (afterBeginning? ("IA__" ++ ("g" ++ start)) text).isSome = true →
        ∃ tail, name = "g" ++ tail := by
      intro start hstart
      obtain ⟨rest, hrest⟩ := Option.isSome_iff_exists.mp hstart
      rw [afterBeginning?_eq_some_iff, htext, String.append_assoc, String.append_right_inj,
        String.append_assoc] at hrest
      exact ⟨start ++ rest, hrest⟩
    rcases (Bool.or_eq_true _ _).mp hmark with hg | hgtk
    · exact hglib "_" hg
    · exact hglib "tk" hgtk
  · exact Or.inr (afterBeginning?_eq_some_iff.mp h)

/-- **Only behind the mark of the C library** there may be no name. -/
theorem isUnknown_ofName_of_publicName? (h : publicName? text = some name) :
    (Symbol.ofName name).isUnknown = true ↔ text = "__GI_" ∨ text = "__GI_??" := by
  rw [isUnknown_ofName_iff]
  rcases eq_of_publicName? h with ⟨htext, tail, htail⟩ | rfl
  · refine iff_of_false ?_ (by simp [htext, String.ext_iff])
    rintro (hname | hname)
    · simp [htail, String.ext_iff] at hname
    · simp [htail, String.ext_iff, Symbol.unknownMark] at hname
  · have hempty : "__GI_" ++ name = "__GI_" ++ "" ↔ name = "" := String.append_right_inj "__GI_"
    have hunknown : "__GI_" ++ name = "__GI_" ++ Symbol.unknownMark ↔ name = Symbol.unknownMark :=
      String.append_right_inj "__GI_"
    have hmarked : "__GI_" ++ Symbol.unknownMark = "__GI_??" := by decide
    rw [String.append_empty] at hempty
    rw [hmarked] at hunknown
    rw [hempty, hunknown]

/-! ### Symbols and frames -/

theorem stripAlias_of_some (h : publicName? text = some name) :
    stripAlias (.named text) = .ofName name := by
  rw [stripAlias, Symbol.name?, Option.bind_some, h]

theorem stripAlias_of_none (h : publicName? text = none) :
    stripAlias (.named text) = .named text := by
  rw [stripAlias, Symbol.name?, Option.bind_some, h]

/-- **Only two names are given up with the mark of an alias.** -/
theorem isUnknown_stripAlias_iff :
    (stripAlias s).isUnknown = true
      ↔ s.isUnknown = true ∨ s = .named "__GI_" ∨ s = .named "__GI_??" := by
  cases s with
  | unknown => exact iff_of_true rfl (Or.inl rfl)
  | paired label => simp [stripAlias, Symbol.name?, Symbol.isUnknown]
  | named text =>
    have hnamed : (Symbol.named text).isUnknown = false := rfl
    rw [hnamed, or_iff_right Bool.false_ne_true, Symbol.named.injEq, Symbol.named.injEq]
    rcases hpublic : publicName? text with _ | name
    · -- neither of the two names is left as it is
      have hempty : publicName? "__GI_" = some "" := by decide +kernel
      have hunknown : publicName? "__GI_??" = some "??" := by decide +kernel
      rw [stripAlias_of_none hpublic, hnamed]
      refine iff_of_false Bool.false_ne_true ?_
      rintro (rfl | rfl)
      · exact absurd (hpublic.symm.trans hempty) (by simp)
      · exact absurd (hpublic.symm.trans hunknown) (by simp)
    · rw [stripAlias_of_some hpublic]
      exact isUnknown_ofName_of_publicName? hpublic

/-- A variant has a name, and is one of a function in the list. -/
theorem of_genericFunction? (h : genericFunction? s d = some name) :
    s.isUnknown = false ∧ name ∈ variantFunctions := by
  rw [genericFunction?] at h
  obtain ⟨generic, hvariant, hfile⟩ := Option.bind_eq_some_iff.mp h
  obtain ⟨text, htext, hvariant⟩ := Option.bind_eq_some_iff.mp hvariant
  obtain ⟨-, hname⟩ := Option.ite_none_right_eq_some.mp hfile
  obtain rfl := Option.some.inj hname
  rw [variantOf?] at hvariant
  obtain ⟨stem, -, hbase⟩ := Option.bind_eq_some_iff.mp hvariant
  obtain ⟨ending, -, hbase⟩ := List.exists_of_findSome?_eq_some hbase
  obtain ⟨base, -, hfound⟩ := Option.bind_eq_some_iff.mp hbase
  refine ⟨?_, List.mem_of_find?_eq_some hfound⟩
  cases s with
  | named text => rfl
  | _ => exact absurd htext (by simp [Symbol.name?])

/-- **Resolving an alias leaves every frame its symbol**, but for the two names. -/
theorem isUnknown_publicSymbol_iff :
    (publicSymbol d s).isUnknown = true
      ↔ s.isUnknown = true ∨ s = .named "__GI_" ∨ s = .named "__GI_??" := by
  rw [← isUnknown_stripAlias_iff, publicSymbol]
  split
  · next name h =>
    have hnames : ∀ name ∈ variantFunctions, (Symbol.ofName name).isUnknown = false := by decide
    obtain ⟨hknown, hmem⟩ := of_genericFunction? h
    rw [hknown, hnames name hmem]
  · rfl

/-- **A frame that something tells the place of** is told it by its public name as well, unless the
debugger printed one of the two names. -/
theorem isResolved_resolveAlias_iff {f : Frame} (hf : f.isResolved = true) :
    (resolveAlias f).isResolved = false
      ↔ f.kind = .debugger ∧ (f.symbol = .named "__GI_" ∨ f.symbol = .named "__GI_??") := by
  obtain ⟨s, d⟩ := f
  cases d with
  | debugger d =>
    have hunknown : s.isUnknown = false := Frame.isResolved_iff.mp hf
    have hiff : (publicSymbol d s).isUnknown = true
        ↔ s = .named "__GI_" ∨ s = .named "__GI_??" := by
      rw [isUnknown_publicSymbol_iff, hunknown, or_iff_right Bool.false_ne_true]
    rw [Frame.isResolved, Bool.not_eq_false']
    exact hiff.trans (and_iff_right rfl).symm
  | _ =>
    refine iff_of_false (fun hout => Bool.false_ne_true (hout.symm.trans hf)) ?_
    rintro ⟨hkind, -⟩
    exact absurd hkind (by simp [Frame.kind, Frame.Details.kind])

/-! ### Aliases of aliases -/

/-- A name that begins with a `g` has no mark. -/
theorem publicName?_of_g (tail : String) : publicName? ("g" ++ tail) = none := by
  simp [publicName?, afterBeginning?]

theorem stripAlias_ofName (h : publicName? name = none) :
    stripAlias (.ofName name) = .ofName name := by
  rw [Symbol.ofName]
  split
  · rfl
  · exact stripAlias_of_none h

/-- The public symbol is that of a function with variants, or what is left without a mark. -/
theorem publicSymbol_cases (d : Frame.DebuggerDetails) (s : Symbol) :
    (∃ name ∈ variantFunctions, publicSymbol d s = .named name)
      ∨ publicSymbol d s = stripAlias s ∧ genericFunction? (stripAlias s) d = none := by
  have hnames : ∀ name ∈ variantFunctions, Symbol.ofName name = .named name := by decide
  rw [publicSymbol]
  rcases hgeneric : genericFunction? (stripAlias s) d with _ | name
  · exact Or.inr ⟨rfl, rfl⟩
  · have hmem := (of_genericFunction? hgeneric).2
    exact Or.inl ⟨name, hmem, hnames name hmem⟩

/-- A function with variants bears no mark itself. -/
theorem publicSymbol_of_mem_variantFunctions (hmem : name ∈ variantFunctions) :
    publicSymbol d (.named name) = .named name := by
  have hplain : ∀ name ∈ variantFunctions, publicName? name = none ∧ variantOf? name = none := by
    decide +kernel
  obtain ⟨hpublic, hvariant⟩ := hplain name hmem
  rw [publicSymbol, stripAlias_of_none hpublic, genericFunction?, Symbol.name?, Option.bind_some,
    hvariant]
  rfl

/-- Where a public name comes from: it is that of a function with variants, or it was there before,
or it was behind one of the marks. -/
theorem cases_of_name?_publicSymbol (h : (publicSymbol d s).name? = some name) :
    name ∈ variantFunctions ∨ s.name? = some name ∨ (∃ tail, name = "g" ++ tail)
      ∨ s = .named ("__GI_" ++ name) := by
  rcases publicSymbol_cases d s with ⟨generic, hmem, hgeneric⟩ | ⟨hstrip, -⟩
  · rw [hgeneric] at h
    exact Or.inl (Option.some.inj h ▸ hmem)
  · rw [hstrip] at h
    cases s with
    | named text =>
      rcases hpublic : publicName? text with _ | bare
      · rw [stripAlias_of_none hpublic] at h
        exact Or.inr (Or.inl h)
      · rw [stripAlias_of_some hpublic, Symbol.ofName] at h
        split at h
        · exact absurd h (by simp [Symbol.name?])
        · obtain rfl : bare = name := Option.some.inj h
          rcases eq_of_publicName? hpublic with ⟨-, hglib⟩ | rfl
          · exact Or.inr (Or.inr (Or.inl hglib))
          · exact Or.inr (Or.inr (Or.inr rfl))
    | _ => exact absurd h (by simp [stripAlias, Symbol.name?])

theorem stripAlias_stripAlias
    (h : ∀ name, s = .named ("__GI_" ++ name) → publicName? name = none) :
    stripAlias (stripAlias s) = stripAlias s := by
  cases s with
  | named text =>
    rcases hpublic : publicName? text with _ | name
    · rw [stripAlias_of_none hpublic, stripAlias_of_none hpublic]
    · rw [stripAlias_of_some hpublic]
      refine stripAlias_ofName ?_
      rcases eq_of_publicName? hpublic with ⟨-, tail, rfl⟩ | rfl
      · exact publicName?_of_g tail
      · exact h name rfl
  | _ => rfl

/-- **A public symbol is its own public symbol**, unless the mark of the C library had another mark
behind it. -/
theorem publicSymbol_publicSymbol
    (h : ∀ name, s = .named ("__GI_" ++ name) → publicName? name = none) :
    publicSymbol d (publicSymbol d s) = publicSymbol d s := by
  rcases publicSymbol_cases d s with ⟨name, hmem, hname⟩ | ⟨hstrip, hgeneric⟩
  · rw [hname, publicSymbol_of_mem_variantFunctions hmem]
  · rw [hstrip, publicSymbol, stripAlias_stripAlias h, hgeneric]

end Condense

end CrashTriage
