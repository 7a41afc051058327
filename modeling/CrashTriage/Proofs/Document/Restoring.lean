import CrashTriage.Proofs.Document.Fields
import CrashTriage.Proofs.Thread.Kinds
import CrashTriage.Report

/-!
# What was persisted is restored

Reading what was written gives back the same value: **every frame, every thread that does not mix
kinds, and every report of such threads** (`Report.ofDocument_restores`). Nothing is lost in
between – a value that is left out because it is absent is absent again, and a name is taken as it
stands, whatever it is.

A persisted record has no order of its fields that a reader could rely on, and none of the readers
does: the same value is restored from any document that is the same up to order. That rests on the
names of the fields being distinct (`Frame.nodup_names_toFields`), and it goes from the inside to the
outside – a frame, its thread, and the report.
-/

namespace CrashTriage

open Document

/-! ### Symbols and kinds -/

theorem Symbol.ofDocument?_toDocument (s : Symbol) : ofDocument? s.toDocument = some s := by
  cases s with
  | unknown => rfl
  | named name => rfl
  | paired label =>
    have hlabel := congrArg (Option.map paired) (word32?_ofWord32 label)
    rwa [toDocument, ofDocument?]

theorem Symbol.isRigid_toDocument (s : Symbol) : s.toDocument.IsRigid := by
  cases s with
  | unknown => exact isRigid_string _
  | named name => exact isRigid_singleton (isRigid_string name)
  | paired label => exact isRigid_singleton (isRigid_ofWord32 label)

namespace Frame

theorem Kind.ofDocument?_toDocument (k : Kind) : Kind.ofDocument? k.toDocument = some k := by
  cases k <;> decide +kernel

theorem Kind.ofTag?_tag (k : Kind) : Kind.ofTag? k.tag = some k := by
  cases k <;> decide +kernel

/-! ### Details -/

section Details

variable {s : Symbol} {fields : Fields}

theorem symbolOf?_of_lookup {d : Details}
    (h : ∀ name, fields.lookup name = (symbolField s ++ d.toFields).lookup name) :
    symbolOf? fields = some s := by
  rw [symbolOf?, orElse_eq, h, List.lookup_append, symbolField, lookup_field, if_pos rfl,
    Option.some_or, Option.elim_some, Symbol.ofDocument?_toDocument]

/-- **The details of each kind are read as they were written**, whatever the order of the fields. -/
theorem Details.ofFields?_of_lookup {d : Details}
    (h : ∀ name, fields.lookup name = (symbolField s ++ d.toFields).lookup name) :
    Details.ofFields? d.kind fields = some d := by
  -- each kind looks its names up one by one, and finds what it wrote under them
  cases d <;>
    simp [Details.ofFields?, Details.kind, CoreDetails.ofFields?, PythonDetails.ofFields?,
      OopsDetails.ofFields?, JavaDetails.ofFields?, DebuggerDetails.ofFields?,
      RubyDetails.ofFields?, ScriptDetails.ofFields?, h, symbolField, Details.toFields,
      CoreDetails.toFields, PythonDetails.toFields, OopsDetails.toFields, JavaDetails.toFields,
      DebuggerDetails.toFields, RubyDetails.toFields, ScriptDetails.toFields, orElse_eq,
      nullable_eq, List.lookup_append]

/-- **No field of a frame is written twice.** -/
theorem nodup_names_toFields (s : Symbol) (d : Details) :
    (names (symbolField s ++ d.toFields)).Nodup := by
  cases d <;>
    simp [symbolField, Details.toFields, CoreDetails.toFields, PythonDetails.toFields,
      OopsDetails.toFields, JavaDetails.toFields, DebuggerDetails.toFields, RubyDetails.toFields,
      ScriptDetails.toFields, List.nodup_append, or_imp, forall_and]

/-- A frame holds scalars, and at most one value in its symbol. -/
theorem hasRigidValues_toFields (s : Symbol) (d : Details) :
    HasRigidValues (symbolField s ++ d.toFields) := by
  cases d <;>
    simp [symbolField, Details.toFields, CoreDetails.toFields, PythonDetails.toFields,
      OopsDetails.toFields, JavaDetails.toFields, DebuggerDetails.toFields, RubyDetails.toFields,
      ScriptDetails.toFields, Symbol.isRigid_toDocument]

end Details

/-! ### Frames -/

/-- **A frame is restored** from what was written of it, in any order. -/
theorem ofDocument?_of_sameUpToOrder {f : Frame} {d : Document}
    (h : f.toDocument.SameUpToOrder d) : ofDocument? d = some f := by
  obtain ⟨content, rfl, hcontent⟩ := h.of_singleton
  obtain ⟨fields, rfl, hlookup⟩ := hcontent.lookup_eq (nodup_names_toFields f.symbol f.details)
    (hasRigidValues_toFields f.symbol f.details)
  have hread : ofDocument? (.record [(f.kind.tag, .record fields)]) = (do
      let kind ← Kind.ofTag? f.kind.tag
      let symbol ← symbolOf? fields
      let details ← Details.ofFields? kind fields
      return { symbol, details }) := rfl
  have hdetails : Details.ofFields? f.kind fields = some f.details :=
    Details.ofFields?_of_lookup hlookup
  rw [hread, Kind.ofTag?_tag, Option.bind_eq_bind, Option.bind_some, symbolOf?_of_lookup hlookup,
    Option.bind_eq_bind, Option.bind_some, hdetails]
  rfl

end Frame

/-! ### Threads -/

namespace Thread

variable {t : Thread} {d : Document}

/-- **The parts of a thread are restored.** -/
theorem partsOf?_of_sameUpToOrder (h : t.toDocument.SameUpToOrder d) :
    partsOf? d = some (t.id, t.kind, t.frames) := by
  obtain ⟨fields, rfl, -, hlookup⟩ := h.lookup (by simp)
  have hid := hlookup "id"
  have hkind := hlookup "kind"
  have hframes := hlookup "frames"
  simp only [List.lookup_append, lookup_field] at hid hkind hframes
  obtain ⟨_, hid, hsame⟩ := exists_of_rel_sameUpToOrder hid
  obtain rfl := isRigid_ofWord32 _ _ hsame
  obtain ⟨_, hkind, hsame⟩ := exists_of_rel_sameUpToOrder hkind
  obtain rfl := isRigid_string _ _ hsame
  obtain ⟨_, hframes, hsame⟩ := exists_of_rel_sameUpToOrder hframes
  obtain ⟨items, rfl, hitems⟩ := hsame.of_list
  -- each of the frames is restored
  have hread : list? Frame.ofDocument? (.list items) = some t.frames :=
    mapM_of_forall₂ ((List.forall₂_map_left_iff.mp hitems).imp
      fun f d hsame => Frame.ofDocument?_of_sameUpToOrder hsame)
  have hread' : Frame.Kind.ofDocument? (.string t.kind.text) = some t.kind :=
    Frame.Kind.ofDocument?_toDocument t.kind
  simp [partsOf?, record?, orElse_eq, required, hid, hkind, hframes, hread, hread']

/-- **A thread that does not mix kinds is restored** from what was written of it, in any order. -/
theorem ofDocument_of_sameUpToOrder (ht : t.IsUniform) (h : t.toDocument.SameUpToOrder d) :
    ofDocument d = .ok t :=
  ofDocument_eq_ok_iff.mpr ⟨partsOf?_of_sameUpToOrder h, ht⟩

end Thread

/-! ### Reports -/

namespace Report

variable {r : Report} {d : Document}

/-- **A report of threads that do not mix kinds is restored** from what was written of it, in any
order. -/
theorem ofDocument_of_sameUpToOrder (hr : ∀ t ∈ r.threads, t.IsUniform)
    (h : r.toDocument.SameUpToOrder d) : ofDocument d = .ok r := by
  obtain ⟨fields, rfl, -, hlookup⟩ := h.lookup (by simp)
  have hthreads := hlookup "threads"
  have hcrash := hlookup "crash_thread"
  simp only [List.lookup_append, lookup_field, lookup_optionalField] at hthreads hcrash
  obtain ⟨_, hthreads, hsame⟩ := exists_of_rel_sameUpToOrder hthreads
  obtain ⟨items, rfl, hitems⟩ := hsame.of_list
  have hindex : fields.lookup "crash_thread" = r.crashIndex.map ofWord64 := by
    refine eq_of_rel_sameUpToOrder hcrash fun d hd => ?_
    obtain ⟨index, -, rfl⟩ := Option.map_eq_some_iff.mp hd
    exact isRigid_ofWord64 index
  -- the items are taken as they are first, and then each of the threads is restored
  have htake : list? some (.list items) = some items :=
    mapM_of_forall₂ (List.forall₂_same.mpr fun _ _ => rfl)
  have hread : items.mapM Thread.ofDocument = .ok r.threads :=
    mapM_of_forall₂ (((List.forall₂_and_left _ _).mpr ⟨hr, List.forall₂_map_left_iff.mp hitems⟩).imp
      fun t d ht => Thread.ofDocument_of_sameUpToOrder ht.1 ht.2)
  simp [ofDocument, record?, nullable_eq, required, hindex, hthreads, htake, hread,
    ReadError.ofForm, bind, Except.bind, pure, Except.pure]

/-- **Persistence loses nothing.** Every frame, every thread that does not mix kinds and every
report of such threads is restored from what was written of it: reading gives the same value again,
from the document that was written and from any other that differs from it only in the order of the
fields. -/
theorem ofDocument_restores :
    (∀ (f : Frame) (d : Document), f.toDocument.SameUpToOrder d → Frame.ofDocument? d = some f)
      ∧ (∀ (t : Thread) (d : Document), t.IsUniform → t.toDocument.SameUpToOrder d →
          Thread.ofDocument d = .ok t)
      ∧ ∀ (r : Report) (d : Document), (∀ t ∈ r.threads, t.IsUniform) →
          r.toDocument.SameUpToOrder d → ofDocument d = .ok r :=
  ⟨fun _ _ => Frame.ofDocument?_of_sameUpToOrder,
    fun _ _ => Thread.ofDocument_of_sameUpToOrder,
    fun _ _ => ofDocument_of_sameUpToOrder⟩

/-- A report whose index has no thread, written with the index in front of the threads. Its frames
have a name that looks like an unknown function, no name at all, and the last label there is. -/
theorem ofDocument_restores_index_first :
    let f : Frame := ⟨.named "??", .core { address := 18446744073709551615, buildId := some "" }⟩
    let t : Thread := ⟨3, .core, [f, .ofCoreSymbol (.named ""), .ofCoreSymbol (.paired 4294967295)]⟩
    let r : Report := { threads := [t], crashIndex := some 7 }
    let d : Document := .record
      [("crash_thread", .ofWord64 7), ("threads", .list (r.threads.map Thread.toDocument))]
    t.IsUniform ∧ r.toDocument.SameUpToOrder d ∧ ofDocument d = .ok r
      ∧ ofDocument r.toDocument = .ok r ∧ Thread.ofDocument t.toDocument = .ok t
      ∧ Frame.ofDocument? f.toDocument = some f := by
  intro f t r d
  obtain ⟨hframe, hthread, hreport⟩ := ofDocument_restores
  have ht : t.IsUniform := by decide
  have hr : ∀ t ∈ r.threads, t.IsUniform := List.forall_mem_singleton.mpr ht
  have hd : r.toDocument.SameUpToOrder d := by
    refine .record (List.Perm.swap _ _ _) fun name value value' hvalue hvalue' => ?_
    -- each name is there once, with the same value in both orders
    have hnodup : (names [("crash_thread", ofWord64 7),
        ("threads", list (r.threads.map Thread.toDocument))]).Nodup := by decide
    have hmem := (lookup_eq_some_iff_mem hnodup).mpr ((List.Perm.swap _ _ _).mem_iff.mp hvalue)
    have hmem' := (lookup_eq_some_iff_mem hnodup).mpr hvalue'
    rw [Option.some.inj (hmem.symm.trans hmem')]
    exact .refl value'
  exact ⟨ht, hd, hreport r d hr hd, hreport r _ hr (.refl _), hthread t _ ht (.refl _),
    hframe f _ (.refl _)⟩

end Report

end CrashTriage
