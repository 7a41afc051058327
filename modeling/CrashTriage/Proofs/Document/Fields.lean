import CrashTriage.Document
import Mathlib.Data.List.Forall2
import Mathlib.Data.List.Perm.Basic
import Mathlib.Data.List.Nodup

/-!
# Written fields are found again

A reader of a record asks for a field by its name, so all that matters of the record is what each
name is found to stand for. A field that is always written stands for its value, and one that may be
left out stands for its value exactly if there is one (`Document.lookup_field`,
`Document.lookup_optionalField`); the readers of scalars give back what was written.

**The order of the fields does not matter**, as long as no name is there twice: a record whose
fields are rearranged is found to hold the same values (`Document.SameUpToOrder.lookup`). A record
in which nothing else can be rearranged – its values are scalars, or records of a single field –
looks the same to every reader (`Document.SameUpToOrder.lookup_eq`).
-/

namespace CrashTriage

namespace Document

variable {α : Type} {fields fields' : Fields} {name : String} {d d' : Document}

/-! ### Scalars and lists -/

theorem naturalBelow?_natural {n bound : Nat} (h : n < bound) :
    (natural n).naturalBelow? bound = some n :=
  if_pos h

/-- **A word of 32 bits is read as it was written.** -/
@[simp] theorem word32?_ofWord32 (w : UInt32) : (ofWord32 w).word32? = some w := by
  rw [word32?, ofWord32, naturalBelow?_natural w.toNat_lt, Option.map_some, UInt32.ofNat_toNat]

/-- **A word of 64 bits is read as it was written.** -/
@[simp] theorem word64?_ofWord64 (w : UInt64) : (ofWord64 w).word64? = some w := by
  rw [word64?, ofWord64, naturalBelow?_natural w.toNat_lt, Option.map_some, UInt64.ofNat_toNat]

@[simp] theorem flag?_flag (b : Bool) : (flag b).flag? = some b := rfl

@[simp] theorem string?_string (s : String) : (string s).string? = some s := rfl

/-- Values that are read one by one are all read. -/
theorem mapM_of_forall₂ {m : Type → Type} [Monad m] [LawfulMonad m] {read : Document → m α}
    {values : List α} {items : List Document}
    (h : List.Forall₂ (fun x d => read d = pure x) values items) :
    items.mapM read = pure values := by
  induction h with
  | nil => rfl
  | cons hread _ ih => rw [List.mapM_cons, hread, ih, pure_bind, pure_bind]

/-! ### What a name stands for -/

@[simp] theorem lookup_field (name other : String) (value : Document) :
    (field name value).lookup other = if other = name then some value else none := by
  by_cases h : other = name
  · simp [field, h]
  · rw [if_neg h, field, List.lookup_cons, beq_false_of_ne h, List.lookup_nil]

@[simp] theorem lookup_optionalField (name other : String) (value : Option Document) :
    (optionalField name value).lookup other = if other = name then value else none := by
  cases value with
  | none => simp [optionalField]
  | some value => exact lookup_field name other value

/-- What a field that has a default is read as depends on what its name stands for. -/
theorem orElse_eq (fields : Fields) (name : String) (default : α) (read : Document → Option α) :
    orElse fields name default read = (fields.lookup name).elim (some default) read := by
  rw [orElse]
  cases fields.lookup name <;> rfl

/-- What is read of a value that may not be there. -/
def optional? (read : Document → Option α) : Option Document → Option (Option α)
  | none | some null => some none
  | some value => (read value).map some

theorem nullable_eq (fields : Fields) (name : String) (read : Document → Option α) :
    nullable fields name read = optional? read (fields.lookup name) := rfl

/-- **A value that may not be there is read as it was written**, there or not. -/
theorem optional?_map {read : Document → Option α} {write : α → Document}
    (hread : ∀ x, read (write x) = some x) (hnull : ∀ x, write x ≠ null) (value : Option α) :
    optional? read (value.map write) = some value := by
  cases value with
  | none => rfl
  | some x =>
    rw [Option.map_some, optional?, hread]
    · rfl
    · exact hnull x

@[simp] theorem optional?_string (value : Option String) :
    optional? string? (value.map string) = some value :=
  optional?_map string?_string (fun _ => Document.noConfusion) value

@[simp] theorem optional?_ofWord32 (value : Option UInt32) :
    optional? word32? (value.map ofWord32) = some value :=
  optional?_map word32?_ofWord32 (fun _ => Document.noConfusion) value

@[simp] theorem optional?_ofWord64 (value : Option UInt64) :
    optional? word64? (value.map ofWord64) = some value :=
  optional?_map word64?_ofWord64 (fun _ => Document.noConfusion) value

/-! ### The names of a record -/

/-- The names of fields, in their order. -/
def names (fields : Fields) : List String :=
  fields.map Prod.fst

@[simp] theorem names_append (fields fields' : Fields) :
    names (fields ++ fields') = names fields ++ names fields' :=
  List.map_append

@[simp] theorem names_field (name : String) (value : Document) : names (field name value) = [name] :=
  rfl

@[simp] theorem mem_names_optionalField (name other : String) (value : Option Document) :
    other ∈ names (optionalField name value) ↔ other = name ∧ value.isSome = true := by
  cases value <;> simp [optionalField, names]

@[simp] theorem nodup_names_optionalField (name : String) (value : Option Document) :
    (names (optionalField name value)).Nodup := by
  cases value <;> simp [optionalField, names]

theorem lookup_eq_none_iff_not_mem : fields.lookup name = none ↔ name ∉ names fields := by
  rw [List.lookup_eq_none_iff, names, List.mem_map]
  constructor
  · rintro h ⟨p, hp, rfl⟩
    exact absurd (h p hp) (by simp)
  · intro h p hp
    have hne : p.1 ≠ name := fun heq => h ⟨p, hp, heq⟩
    simpa using hne.symm

/-- **A name that is there once stands for the value beside it.** -/
theorem lookup_eq_some_iff_mem (h : (names fields).Nodup) :
    fields.lookup name = some d ↔ (name, d) ∈ fields := by
  rw [List.lookup_eq_some_iff]
  constructor
  · rintro ⟨before, after, rfl, -⟩
    exact List.mem_append_right before List.mem_cons_self
  · intro hmem
    obtain ⟨before, after, rfl⟩ := List.append_of_mem hmem
    refine ⟨before, after, rfl, fun p hp => ?_⟩
    -- the name is not there twice
    rw [names_append, List.nodup_append] at h
    have hne : p.1 ≠ name := h.2.2 p.1 (List.mem_map_of_mem hp) name List.mem_cons_self
    simpa using hne.symm

/-! ### Rearranged documents -/

/-- **Two documents are the same up to order** if they differ at most in the order of the fields of
their records. -/
inductive SameUpToOrder : Document → Document → Prop
  /-- A document is the same as itself. -/
  | refl (d : Document) : SameUpToOrder d d
  /-- The items of a list keep their places. -/
  | list {items items' : List Document} (hlength : items.length = items'.length)
      (h : ∀ (i : Nat) (d d' : Document), items[i]? = some d → items'[i]? = some d' →
        SameUpToOrder d d') :
      SameUpToOrder (.list items) (.list items')
  /-- The fields of a record keep their names. -/
  | record {fields fields' : Fields} (hnames : (names fields).Perm (names fields'))
      (h : ∀ (name : String) (d d' : Document), (name, d) ∈ fields → (name, d') ∈ fields' →
        SameUpToOrder d d') :
      SameUpToOrder (.record fields) (.record fields')

namespace SameUpToOrder

/-- A rearranged list has as many items, each of them rearranged. -/
theorem of_list {items : List Document} (h : SameUpToOrder (.list items) d') :
    ∃ items', d' = .list items' ∧ List.Forall₂ SameUpToOrder items items' := by
  cases h with
  | refl => exact ⟨items, rfl, List.forall₂_same.mpr fun d _ => refl d⟩
  | list hlength h =>
    refine ⟨_, rfl, List.forall₂_iff_get.mpr ⟨hlength, fun i hi hi' => ?_⟩⟩
    exact h i _ _ (List.getElem?_eq_getElem hi) (List.getElem?_eq_getElem hi')

/-- **What the names of a rearranged record stand for is rearranged**, if no name is there twice. -/
theorem lookup (h : SameUpToOrder (.record fields) d') (hnodup : (names fields).Nodup) :
    ∃ fields', d' = .record fields' ∧ (names fields).Perm (names fields')
      ∧ ∀ name, Option.Rel SameUpToOrder (fields.lookup name) (fields'.lookup name) := by
  cases h with
  | refl =>
    refine ⟨fields, rfl, List.Perm.refl _, fun name => ?_⟩
    cases fields.lookup name with
    | none => exact .none
    | some d => exact .some (refl d)
  | @record _ fields' hnames h =>
    refine ⟨fields', rfl, hnames, fun name => ?_⟩
    have hnodup' := hnames.nodup_iff.mp hnodup
    rcases hd : fields.lookup name with _ | d
    · -- a name that is not there is not there in the other order
      have hnone : fields'.lookup name = none := lookup_eq_none_iff_not_mem.mpr fun hmem =>
        lookup_eq_none_iff_not_mem.mp hd (hnames.mem_iff.mpr hmem)
      rw [hnone]
      exact .none
    · have hmem := (lookup_eq_some_iff_mem hnodup).mp hd
      obtain ⟨⟨_, d''⟩, hmem', rfl⟩ :=
        List.mem_map.mp (hnames.mem_iff.mp (List.mem_map_of_mem hmem))
      rw [(lookup_eq_some_iff_mem hnodup').mpr hmem']
      exact .some (h _ d d'' hmem hmem')

end SameUpToOrder

/-- **A document is rigid** if nothing in it can be rearranged. -/
def IsRigid (d : Document) : Prop :=
  ∀ d', SameUpToOrder d d' → d' = d

@[simp] theorem isRigid_flag (b : Bool) : (flag b).IsRigid := by
  intro d' h
  cases h
  rfl

@[simp] theorem isRigid_string (s : String) : (string s).IsRigid := by
  intro d' h
  cases h
  rfl

@[simp] theorem isRigid_ofWord32 (w : UInt32) : (ofWord32 w).IsRigid := by
  intro d' h
  cases h
  rfl

@[simp] theorem isRigid_ofWord64 (w : UInt64) : (ofWord64 w).IsRigid := by
  intro d' h
  cases h
  rfl

/-- **All values of a record are rigid.** -/
def HasRigidValues (fields : Fields) : Prop :=
  ∀ p ∈ fields, p.2.IsRigid

@[simp] theorem hasRigidValues_append :
    HasRigidValues (fields ++ fields') ↔ HasRigidValues fields ∧ HasRigidValues fields' :=
  List.forall_mem_append

@[simp] theorem hasRigidValues_field : HasRigidValues (field name d) ↔ d.IsRigid :=
  List.forall_mem_singleton

@[simp] theorem hasRigidValues_optionalField {write : α → Document}
    (hwrite : ∀ x, (write x).IsRigid) (value : Option α) :
    HasRigidValues (optionalField name (value.map write)) := by
  cases value with
  | none => exact fun p hp => absurd hp List.not_mem_nil
  | some x => exact hasRigidValues_field.mpr (hwrite x)

/-- A record of one field can only be rearranged in the value of that field. -/
theorem SameUpToOrder.of_singleton (h : SameUpToOrder (.record [(name, d)]) d') :
    ∃ value, d' = .record [(name, value)] ∧ SameUpToOrder d value := by
  obtain ⟨fields', rfl, hnames, hlookup⟩ := h.lookup (List.nodup_singleton _)
  obtain ⟨⟨other, value⟩, rfl⟩ : ∃ p, fields' = [p] := by
    have hlength := hnames.length_eq
    simp only [names, List.length_map, List.length_singleton] at hlength
    exact List.length_eq_one_iff.mp hlength.symm
  obtain rfl : name = other := by simpa [names] using hnames
  have hvalue := hlookup name
  simp only [List.lookup_cons, beq_self_eq_true] at hvalue
  cases hvalue with
  | some hvalue => exact ⟨value, rfl, hvalue⟩

theorem isRigid_singleton (h : d.IsRigid) : (record [(name, d)]).IsRigid := by
  intro d' hd'
  obtain ⟨value, rfl, hvalue⟩ := hd'.of_singleton
  rw [h value hvalue]

/-- A value that is there is there in the other order, rearranged. -/
theorem exists_of_rel_sameUpToOrder {value : Option Document}
    (h : Option.Rel SameUpToOrder (some d) value) : ∃ d', value = some d' ∧ SameUpToOrder d d' := by
  cases h with
  | some hsame => exact ⟨_, rfl, hsame⟩

/-- A rigid value is not rearranged, if it is there at all. -/
theorem eq_of_rel_sameUpToOrder {value value' : Option Document}
    (h : Option.Rel SameUpToOrder value value') (hrigid : ∀ d, value = some d → d.IsRigid) :
    value' = value := by
  cases h with
  | none => rfl
  | some hsame => rw [hrigid _ rfl _ hsame]

/-- **A record of rigid values looks the same in any order of the fields.** -/
theorem SameUpToOrder.lookup_eq (h : SameUpToOrder (.record fields) d')
    (hnodup : (names fields).Nodup) (hrigid : HasRigidValues fields) :
    ∃ fields', d' = .record fields' ∧ ∀ name, fields'.lookup name = fields.lookup name := by
  obtain ⟨fields', rfl, -, hlookup⟩ := h.lookup hnodup
  refine ⟨fields', rfl, fun name => ?_⟩
  exact eq_of_rel_sameUpToOrder (hlookup name) fun d hd =>
    hrigid (name, d) ((lookup_eq_some_iff_mem hnodup).mp hd)

end Document

end CrashTriage
