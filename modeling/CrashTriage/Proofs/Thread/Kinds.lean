import CrashTriage.Proofs.Condense.Selection
import CrashTriage.Thread.Edit

/-!
# A thread keeps its kind

A thread is built of frames of its kind, and a frame of another kind is refused, with the first one
of them as the cause (`Thread.ofFrames_eq_error_iff`, `Thread.ofDocument_eq_rejected_iff`). Later
the thread is edited, condensed and paired with others, and not all of that asks for the kinds
again. It need not: an edit leaves frames out, adds one that was asked about, or puts other symbols
on them, and **the kinds of the frames are among those from before**
(`Thread.IsUniform.of_kinds_subset`).

So whatever becomes of a thread, all of its frames are of the kind that it was created with
(`Thread.IsReached.isUniform`), and an edit that is refused leaves it as it was
(`Thread.edited_of_refuses`).
-/

namespace CrashTriage

/-- Labels keep the kinds of the frames. -/
@[simp] theorem Pairing.map_kind_labelAt (positions : List Nat) (frames : List Frame) :
    (labelAt positions frames).map Frame.kind = frames.map Frame.kind := by
  refine List.ext_getElem? fun i => ?_
  rw [labelAt, List.getElem?_map, List.getElem?_mapIdx, List.getElem?_map, Option.map_map]
  congr 1
  funext f
  simp only [Function.comp_apply]
  split <;> rfl

namespace Thread

variable {t t' : Thread} {id : UInt32} {kind : Frame.Kind} {frames : List Frame} {f : Frame}
  {e : ComparisonError}

/-! ### Building a thread -/

/-- **Frames of one kind are all it takes** to build a thread of them. -/
theorem ofFrames_eq_ok_iff :
    ofFrames id kind frames = .ok t ↔ (∀ f ∈ frames, f.kind = kind) ∧ t = ⟨id, kind, frames⟩ := by
  rw [ofFrames]
  split
  · next f hfind =>
    have hne : f.kind ≠ kind := by simpa using List.find?_some hfind
    exact iff_of_false (by simp) fun h => hne (h.1 f (List.mem_of_find?_eq_some hfind))
  · next hfind =>
    have hall : ∀ f ∈ frames, f.kind = kind := fun f hf => by
      simpa using List.find?_eq_none.mp hfind f hf
    rw [Except.ok.injEq, eq_comm]
    exact ⟨fun h => ⟨hall, h⟩, fun h => h.2⟩

/-- **Frames are refused for the first one of another kind.** -/
theorem ofFrames_eq_error_iff :
    ofFrames id kind frames = .error e
      ↔ ∃ before f after, frames = before ++ f :: after ∧ (∀ g ∈ before, g.kind = kind)
        ∧ f.kind ≠ kind ∧ e = .kindMismatch kind f.kind := by
  rw [ofFrames]
  split
  · next f hfind =>
    constructor
    · intro h
      obtain ⟨hne, before, after, hframes, hbefore⟩ := List.find?_eq_some_iff_append.mp hfind
      exact ⟨before, f, after, hframes, by simpa using hbefore, by simpa using hne,
        (Except.error.inj h).symm⟩
    · rintro ⟨before, f', after, hframes, hbefore, hne, rfl⟩
      -- the first one is found, so it is the one that was found
      have hsome : some f = some f' := hfind.symm.trans (List.find?_eq_some_iff_append.mpr
        ⟨by simpa using hne, before, after, hframes, by simpa using hbefore⟩)
      rw [Option.some.inj hsome]
  · next hfind =>
    refine iff_of_false (by simp) ?_
    rintro ⟨before, f, after, rfl, -, hne, -⟩
    have hkind : f.kind = kind := by
      simpa using List.find?_eq_none.mp hfind f (List.mem_append_right before List.mem_cons_self)
    exact hne hkind

/-- A document whose parts can be read is refused for the frames alone. -/
theorem ofDocument_eq {doc : Document} (hparts : partsOf? doc = some (id, kind, frames)) :
    ofDocument doc = ReadError.ofBuild (ofFrames id kind frames) := by
  rw [ofDocument, hparts]
  rfl

theorem ofDocument_eq_malformed {doc : Document} (hparts : partsOf? doc = none) :
    ofDocument doc = .error .malformed := by
  rw [ofDocument, hparts]
  rfl

/-- **A document is read as the thread of its parts**, if its frames are of the kind it declares. -/
theorem ofDocument_eq_ok_iff {doc : Document} :
    ofDocument doc = .ok t
      ↔ partsOf? doc = some (t.id, t.kind, t.frames) ∧ ∀ f ∈ t.frames, f.kind = t.kind := by
  rcases hparts : partsOf? doc with _ | ⟨id, kind, frames⟩
  · simp [ofDocument_eq_malformed hparts]
  have hok : ofDocument doc = .ok t ↔ ofFrames id kind frames = .ok t := by
    rw [ofDocument_eq hparts]
    cases ofFrames id kind frames <;> simp [ReadError.ofBuild]
  rw [hok, ofFrames_eq_ok_iff]
  constructor
  · rintro ⟨hall, rfl⟩
    exact ⟨rfl, hall⟩
  · rintro ⟨heq, hall⟩
    obtain ⟨rfl, rfl, rfl⟩ : id = t.id ∧ kind = t.kind ∧ frames = t.frames := by simpa using heq
    exact ⟨hall, rfl⟩

/-- **A document is refused for the first frame of another kind** than it declares. -/
theorem ofDocument_eq_rejected_iff {doc : Document} :
    ofDocument doc = .error (.rejected e)
      ↔ ∃ id kind before f after, partsOf? doc = some (id, kind, before ++ f :: after)
        ∧ (∀ g ∈ before, g.kind = kind) ∧ f.kind ≠ kind ∧ e = .kindMismatch kind f.kind := by
  rcases hparts : partsOf? doc with _ | ⟨id, kind, frames⟩
  · simp [ofDocument_eq_malformed hparts]
  have herror : ofDocument doc = .error (.rejected e) ↔ ofFrames id kind frames = .error e := by
    rw [ofDocument_eq hparts]
    cases ofFrames id kind frames <;> simp [ReadError.ofBuild]
  rw [herror, ofFrames_eq_error_iff]
  constructor
  · rintro ⟨before, f, after, rfl, h⟩
    exact ⟨id, kind, before, f, after, rfl, h⟩
  · rintro ⟨id', kind', before, f, after, heq, h⟩
    obtain ⟨rfl, rfl, rfl⟩ : id = id' ∧ kind = kind' ∧ frames = before ++ f :: after := by
      simpa using heq
    exact ⟨before, f, after, rfl, h⟩

/-! ### Editing a thread -/

/-- **When a demand is refused**: for a frame of another kind, and for a position without a
frame. -/
def Refuses (t : Thread) : Edit → Prop
  | .push f => f.kind ≠ t.kind
  | .removeAt index => t.frames.length ≤ index
  | .dropAbove index => t.frames.length ≤ index
  | .keepInner _ => False
  | .condense => False

theorem edit?_eq_none_iff {e : Edit} : t.edit? e = none ↔ t.Refuses e := by
  cases e with
  | push f =>
    rw [edit?, push, Refuses]
    split
    · next heq => simp [Except.toOption, heq]
    · next hne => simp [Except.toOption, hne]
  | removeAt index => simp [edit?, removeAt?, Refuses]
  | dropAbove index => simp [edit?, dropAbove?, Refuses]
  | keepInner count => simp [edit?, Refuses]
  | condense => simp [edit?, Refuses]

/-- **A demand that is refused leaves the thread as it was.** -/
theorem edited_of_refuses {e : Edit} (h : t.Refuses e) : t.edited e = t := by
  rw [edited, edit?_eq_none_iff.mpr h, Option.getD_none]

/-! ### What an edit keeps -/

/-- **A thread remains of its kind** if no other kinds come in. -/
theorem IsUniform.of_kinds_subset (h : t.IsUniform) (hkind : t'.kind = t.kind)
    (hkinds : t'.frames.map Frame.kind ⊆ t.frames.map Frame.kind) : t'.IsUniform := by
  intro f hf
  obtain ⟨g, hg, heq⟩ := List.mem_map.mp (hkinds (List.mem_map_of_mem hf))
  rw [← heq, h g hg, hkind]

theorem IsUniform.push (h : t.IsUniform) (hok : t.push f = .ok t') :
    t'.IsUniform ∧ t'.id = t.id ∧ t'.kind = t.kind := by
  rw [Thread.push] at hok
  split at hok
  · next heq =>
    obtain rfl := Except.ok.inj hok
    refine ⟨fun g hg => ?_, rfl, rfl⟩
    rcases List.mem_append.mp hg with hg | hg
    · exact h g hg
    · rw [List.mem_singleton.mp hg, heq]
  · exact absurd hok (by simp)

/-- A thread with some of the frames left out. -/
theorem IsUniform.of_sublist (h : t.IsUniform) (hkind : t'.kind = t.kind)
    (hsub : t'.frames.Sublist t.frames) : t'.IsUniform :=
  h.of_kinds_subset hkind (hsub.map Frame.kind).subset

/-- **An edit keeps the number and the kind of the thread, and all frames of that kind.** -/
theorem IsUniform.edited (h : t.IsUniform) (e : Edit) :
    (t.edited e).IsUniform ∧ (t.edited e).id = t.id ∧ (t.edited e).kind = t.kind := by
  rcases hedit : t.edit? e with _ | t'
  · rw [Thread.edited, hedit]
    exact ⟨h, rfl, rfl⟩
  rw [Thread.edited, hedit, Option.getD_some]
  cases e with
  | push f =>
    rcases hpush : t.push f with cause | t''
    · rw [edit?, hpush] at hedit
      exact absurd hedit (by simp [Except.toOption])
    · rw [edit?, hpush] at hedit
      obtain rfl := Option.some.inj hedit
      exact h.push hpush
  | removeAt index =>
    obtain ⟨⟨f, t''⟩, hremove, rfl⟩ := Option.map_eq_some_iff.mp hedit
    obtain ⟨g, -, heq⟩ := Option.map_eq_some_iff.mp hremove
    obtain ⟨-, rfl⟩ := Prod.mk.inj heq
    exact ⟨h.of_sublist rfl (List.eraseIdx_sublist t.frames index), rfl, rfl⟩
  | dropAbove index =>
    rw [edit?, dropAbove?, Option.ite_none_right_eq_some] at hedit
    obtain ⟨-, heq⟩ := hedit
    obtain rfl := Option.some.inj heq
    exact ⟨h.of_sublist rfl (List.drop_sublist index t.frames), rfl, rfl⟩
  | keepInner count =>
    obtain rfl := Option.some.inj hedit
    exact ⟨h.of_sublist rfl (List.take_sublist count t.frames), rfl, rfl⟩
  | condense =>
    obtain rfl := Option.some.inj hedit
    exact ⟨h.of_kinds_subset rfl
      (Condense.map_kind_condenseFrames_sublist t.kind t.frames).subset, rfl, rfl⟩

/-- **Pairing keeps all frames of either thread of its kind**, and puts nothing but labels on
them. -/
theorem IsUniform.pair_fst (h : t.IsUniform) (other : Thread) :
    (Pairing.pair t other).1.IsUniform :=
  h.of_kinds_subset rfl (by rw [Pairing.pair, Pairing.map_kind_labelAt]; exact List.Subset.refl _)

theorem IsUniform.pair_snd (h : t.IsUniform) (other : Thread) :
    (Pairing.pair other t).2.IsUniform :=
  h.of_kinds_subset rfl (by rw [Pairing.pair, Pairing.map_kind_labelAt]; exact List.Subset.refl _)

/-! ### Runs of edits -/

/-- **A thread that is reached has only frames of the kind it was created with.** -/
theorem IsReached.isUniform (h : IsReached id kind t) :
    t.IsUniform ∧ t.id = id ∧ t.kind = kind := by
  induction h with
  | empty id kind => exact ⟨fun f hf => absurd hf List.not_mem_nil, rfl, rfl⟩
  | ofFrames hok =>
    obtain ⟨hall, rfl⟩ := ofFrames_eq_ok_iff.mp hok
    exact ⟨hall, rfl, rfl⟩
  | ofDocument hparts hok =>
    obtain ⟨hparts', hall⟩ := ofDocument_eq_ok_iff.mp hok
    rw [hparts] at hparts'
    obtain ⟨rfl, rfl, -⟩ : _ = _ ∧ _ = _ ∧ _ = _ := by simpa using hparts'
    exact ⟨hall, rfl, rfl⟩
  | edited h e ih =>
    obtain ⟨huniform, rfl, rfl⟩ := ih
    exact huniform.edited e
  | pairFst h hother ih ihother => exact ⟨ih.1.pair_fst _, ih.2⟩
  | pairSnd h hother ih ihother => exact ⟨ih.1.pair_snd _, ih.2⟩

/-- **A thread keeps the kind that it was created with**, whatever becomes of it, and has no frame
of another one; its number stays the same as well. A demand is refused exactly for a frame of
another kind and for a position without a frame, and then the thread is as it was before. Threads
can be built, of frames or of a document, exactly if all frames are of the kind that is declared,
and the first one that is not is the cause otherwise. -/
theorem isReached_keeps_kind :
    (∀ id kind t, IsReached id kind t → t.IsUniform ∧ t.id = id ∧ t.kind = kind)
      ∧ (∀ (t : Thread) (e : Edit),
          (t.edit? e = none ↔ t.Refuses e) ∧ (t.Refuses e → t.edited e = t))
      ∧ (∀ id kind frames t, ofFrames id kind frames = .ok t
          ↔ (∀ f ∈ frames, f.kind = kind) ∧ t = ⟨id, kind, frames⟩)
      ∧ (∀ id kind frames e, ofFrames id kind frames = .error e
          ↔ ∃ before f after, frames = before ++ f :: after ∧ (∀ g ∈ before, g.kind = kind)
            ∧ f.kind ≠ kind ∧ e = .kindMismatch kind f.kind)
      ∧ (∀ doc t, ofDocument doc = .ok t
          ↔ partsOf? doc = some (t.id, t.kind, t.frames) ∧ ∀ f ∈ t.frames, f.kind = t.kind)
      ∧ ∀ doc e, ofDocument doc = .error (.rejected e)
          ↔ ∃ id kind before f after, partsOf? doc = some (id, kind, before ++ f :: after)
            ∧ (∀ g ∈ before, g.kind = kind) ∧ f.kind ≠ kind ∧ e = .kindMismatch kind f.kind :=
  ⟨fun _ _ _ h => h.isUniform, fun _ _ => ⟨edit?_eq_none_iff, edited_of_refuses⟩,
    fun _ _ _ _ => ofFrames_eq_ok_iff, fun _ _ _ _ => ofFrames_eq_error_iff,
    fun _ _ => ofDocument_eq_ok_iff, fun _ _ => ofDocument_eq_rejected_iff⟩

/-- A crash to which a frame of another kind is not added, and which then is condensed and paired
with another crash: its unresolved frame gets a label. -/
theorem isReached_keeps_kind_refused_frame :
    let crash : Thread :=
      ⟨7, .debugger, [.ofDebuggerSymbol .unknown, .ofDebuggerSymbol (.named "main")]⟩
    let after := (crash.edited (.push (.ofJavaSymbol (.named "run")))).edited .condense
    let paired := (Pairing.pair after { crash with id := 8 }).1
    IsReached 7 .debugger paired ∧ paired.symbolTexts = ["unknown#0", "main"]
      ∧ paired.IsUniform ∧ paired.id = 7 ∧ paired.kind = .debugger := by
  intro crash after paired
  have hcrash : IsReached 7 .debugger crash :=
    .ofFrames (rfl : ofFrames 7 .debugger crash.frames = .ok crash)
  have hother : IsReached 8 .debugger { crash with id := 8 } :=
    .ofFrames (rfl : ofFrames 8 .debugger crash.frames = .ok { crash with id := 8 })
  have hpaired : IsReached 7 .debugger paired := ((hcrash.edited _).edited _).pairFst hother
  exact ⟨hpaired, by decide, isReached_keeps_kind.1 7 .debugger paired hpaired⟩

end Thread

end CrashTriage
