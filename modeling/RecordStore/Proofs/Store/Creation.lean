import Mathlib.Data.List.Induction
import RecordStore.Proofs.Store.Soundness

/-!
# Creating a type

A type is created with all its fields or not at all, and which of the two happens can be said without
the fields being declared one by one (`created_or_refused`): no type may have the name in any spelling,
and the fields have to be some, with names that are neither blank nor spellings of each other
(`Declarable`). If they are not, the first field that cannot stand behind those before it decides the
fault (`Misdeclared`).

A table looks a new field up by its key, and the look-up takes the canonical form of the key once more.
That this finds the fields with the same key, and no others, is what `run_addField_ofFields` rests on.
-/

namespace RecordStore

open RecordStore.Text

/-- The fields can be those of a type. -/
structure Declarable (fields : List Field) : Prop where
  /-- No name is blank. -/
  named : ∀ field ∈ fields, field.key ≠ ""
  /-- No two names are spellings of one. -/
  distinct : (fields.map Field.key).Nodup

/-- The fault for which the first of the fields is refused that cannot be declared behind those before
it. A name that is blank is not asked whether it is new. -/
inductive Misdeclared : List Field → Fault → Prop where
  /-- The name is blank. -/
  | blank {before : List Field} {field : Field} (hbefore : Declarable before)
      (hblank : field.key = "") (rest : List Field) :
      Misdeclared (before ++ field :: rest) (.badField field.name)
  /-- The name is a spelling of one before it. -/
  | repeated {before : List Field} {field other : Field} (hbefore : Declarable before)
      (hnamed : field.key ≠ "") (hother : other ∈ before) (hkey : other.key = field.key)
      (rest : List Field) : Misdeclared (before ++ field :: rest) (.duplicateField field.name)

section

variable {fields before : List Field} {field : Field} {fault : Fault}

theorem declarable_nil : Declarable [] := ⟨fun _ h ↦ absurd h List.not_mem_nil, List.nodup_nil⟩

theorem declarable_append_singleton_iff :
    Declarable (before ++ [field]) ↔
      Declarable before ∧ field.key ≠ "" ∧ field.key ∉ before.map Field.key := by
  constructor
  · rintro ⟨hnamed, hdistinct⟩
    rw [List.map_append, List.map_singleton, ← List.concat_eq_append, List.nodup_concat] at hdistinct
    exact ⟨⟨fun f hf ↦ hnamed f (List.mem_append_left _ hf), hdistinct.2⟩,
      hnamed field (List.mem_append_right _ List.mem_cons_self), hdistinct.1⟩
  · rintro ⟨hbefore, hnamed, hnew⟩
    refine ⟨List.forall_mem_append.2 ⟨hbefore.named, List.forall_mem_singleton.2 hnamed⟩, ?_⟩
    rw [List.map_append, List.map_singleton, ← List.concat_eq_append, List.nodup_concat]
    exact ⟨hnew, hbefore.distinct⟩

theorem Declarable.of_append {rest : List Field} (h : Declarable (before ++ rest)) :
    Declarable before where
  named f hf := h.named f (List.mem_append_left _ hf)
  distinct := by
    have hdistinct := h.distinct
    rw [List.map_append] at hdistinct
    exact hdistinct.of_append_left

/-- What cannot be declared among the first fields, cannot be declared at all. -/
theorem Misdeclared.append (h : Misdeclared fields fault) (more : List Field) :
    Misdeclared (fields ++ more) fault := by
  cases h with
  | blank hbefore hblank rest =>
    rw [List.append_assoc, List.cons_append]
    exact .blank hbefore hblank _
  | repeated hbefore hnamed hother hkey rest =>
    rw [List.append_assoc, List.cons_append]
    exact .repeated hbefore hnamed hother hkey _

theorem Misdeclared.not_declarable (h : Misdeclared fields fault) : ¬ Declarable fields := by
  intro hfields
  cases h with
  | @blank before field hbefore hblank rest =>
    exact hfields.named field (List.mem_append_right _ List.mem_cons_self) hblank
  | @repeated before field other hbefore hnamed hother hkey rest =>
    rw [← List.singleton_append, ← List.append_assoc] at hfields
    obtain ⟨-, -, hnew⟩ := declarable_append_singleton_iff.1 hfields.of_append
    exact hnew (hkey ▸ List.mem_map_of_mem hother)

/-- **Either all fields can be declared, or a first one cannot.** -/
theorem declarable_or_misdeclared (fields : List Field) :
    Declarable fields ∨ ∃ fault, Misdeclared fields fault := by
  induction fields using List.reverseRecOn with
  | nil => exact .inl declarable_nil
  | append_singleton before field ih =>
    rcases ih with hbefore | ⟨fault, hfault⟩
    · by_cases hblank : field.key = ""
      · exact .inr ⟨_, .blank hbefore hblank []⟩
      by_cases hknown : field.key ∈ before.map Field.key
      · obtain ⟨other, hother, hkey⟩ := List.mem_map.1 hknown
        exact .inr ⟨_, .repeated hbefore hblank hother hkey []⟩
      · exact .inl (declarable_append_singleton_iff.2 ⟨hbefore, hblank, hknown⟩)
    · exact .inr ⟨fault, hfault.append [field]⟩

end

/-! ### Declaring one field after another -/

namespace Table

variable {name : String} {fields before : List Field} {field : Field} {fault : Fault}

/-- The table of a new type: its fields, an empty index for each unique one, and no records. -/
def ofFields (name : String) (fields : List Field) : Table where
  name := trim name
  schema := ⟨fields⟩
  records := []
  indexes := (Schema.uniqueKeys ⟨fields⟩).map fun key ↦ (key, [])
  nextId := 0

theorem declare_ofFields (hnew : field.key ∉ before.map Field.key) :
    (ofFields name before).declare field = ofFields name (before ++ [field]) := by
  have hkeys : field.key ∉ Entries.keys (ofFields name before).indexes := by
    have hunique := (Schema.uniqueKeys_sublist ⟨before⟩).subset
    simp only [ofFields, Entries.keys, List.map_map, Function.comp_def, List.map_id']
    exact fun hmem ↦ hnew (hunique hmem)
  have hindexes : (if field.unique then Entries.put field.key [] (ofFields name before).indexes
      else (ofFields name before).indexes) = (ofFields name (before ++ [field])).indexes := by
    rw [Entries.put_of_not_mem hkeys]
    cases hunique : field.unique <;>
      simp [ofFields, Schema.uniqueKeys, List.filter_append, hunique]
  rw [declare, hindexes]
  rfl

/-- **Declaring a further field of a new type.** -/
theorem run_addField_ofFields (name : String) (before : List Field) (field : Field) :
    (addField field).run (ofFields name before) =
      if field.key = "" then .error (.badField field.name) (ofFields name before)
      else if field.key ∈ before.map Field.key then
        .error (.duplicateField field.name) (ofFields name before)
      else .ok () (ofFields name (before ++ [field])) := by
  -- the key that is looked up is in canonical form already
  have hknown : ((ofFields name before).schema.field? field.key).isSome ↔
      field.key ∈ before.map Field.key := by
    rw [Option.isSome_iff_ne_none, Ne, Schema.field?_eq_none_iff, field.canonical_key, not_not]
    rfl
  rw [run_addField]
  simp only [hknown]
  by_cases hblank : field.key = ""
  · rw [if_pos hblank, if_pos hblank]
  by_cases hmem : field.key ∈ before.map Field.key
  · rw [if_neg hblank, if_neg hblank, if_pos hmem, if_pos hmem]
  · rw [if_neg hblank, if_neg hblank, if_neg hmem, if_neg hmem, declare_ofFields hmem]
    rfl

theorem run_forM_of_declarable (h : Declarable (before ++ fields)) :
    (fields.forM addField).run (ofFields name before) = .ok () (ofFields name (before ++ fields)) := by
  induction fields generalizing before with
  | nil =>
    rw [List.append_nil]
    rfl
  | cons field rest ih =>
    rw [← List.singleton_append, ← List.append_assoc] at h ⊢
    obtain ⟨-, hnamed, hnew⟩ := declarable_append_singleton_iff.1 h.of_append
    show (addField field >>= fun _ ↦ rest.forM addField).run _ = _
    rw [EStateM.run_bind, run_addField_ofFields, if_neg hnamed, if_neg hnew]
    exact ih h

/-- The first field that cannot be declared decides the fault. -/
theorem run_forM_of_misdeclared (h : Misdeclared fields fault) (name : String) :
    ∃ left, (fields.forM addField).run (ofFields name []) = .error fault left := by
  -- the fields before it are declared, and those behind it are not reached
  have hreached {before : List Field} {field : Field} (hbefore : Declarable before)
      (hrun : (addField field).run (ofFields name before) = .error fault (ofFields name before))
      (rest : List Field) :
      ((before ++ field :: rest).forM addField).run (ofFields name []) =
        .error fault (ofFields name before) := by
    have hfront : (before.forM addField).run (ofFields name []) = .ok () (ofFields name before) :=
      @run_forM_of_declarable name before [] hbefore
    rw [Action.run_forM_append hfront]
    change (addField field >>= fun _ ↦ rest.forM addField).run _ = _
    rw [EStateM.run_bind, hrun]
  cases h with
  | blank hbefore hblank rest =>
    exact ⟨_, hreached hbefore (by rw [run_addField_ofFields, if_pos hblank]) rest⟩
  | repeated hbefore hnamed hother hkey rest =>
    have hmem := hkey ▸ List.mem_map_of_mem (f := Field.key) hother
    exact ⟨_, hreached hbefore (by rw [run_addField_ofFields, if_neg hnamed, if_pos hmem]) rest⟩

end Table

/-! ### Creating a type in a store -/

namespace Store

variable {store : Store} {name : String} {fields : List Field} {table : Table} {fault : Fault}

/-- No type has the name, in any spelling. -/
def Lacks (store : Store) (name : String) : Prop :=
  ∀ key table, (key, table) ∈ store.tables → canonical table.name ≠ canonical name

theorem Sound.table?_eq_none_iff (h : Sound store) : store.table? name = none ↔ store.Lacks name := by
  constructor
  · intro hnone key table hmem hname
    obtain rfl : key = canonical name := (h.named key table hmem).trans hname
    rw [h.table?_eq_some_iff.2 hmem] at hnone
    cases hnone
  · intro hlacks
    cases hfound : store.table? name with
    | none => rfl
    | some table =>
      have hmem := h.table?_eq_some_iff.1 hfound
      exact absurd (h.named _ table hmem).symm (hlacks _ table hmem)

/-- Why a type is not created: the first of the three reasons that there is. -/
inductive RefusesType (store : Store) (name : String) : List Field → Fault → Prop where
  /-- A type has the name. -/
  | taken (htaken : ¬ store.Lacks name) (fields : List Field) :
      RefusesType store name fields (.typeExists name)
  /-- There are no fields. -/
  | noFields (hfree : store.Lacks name) : RefusesType store name [] .noFields
  /-- A field cannot be declared. -/
  | misdeclared {fields : List Field} {fault : Fault} (hfree : store.Lacks name)
      (hfields : Misdeclared fields fault) : RefusesType store name fields fault

/-- There is no reason against a type that can be created. -/
theorem RefusesType.not_declarable (h : RefusesType store name fields fault) :
    ¬ (store.Lacks name ∧ fields ≠ [] ∧ Declarable fields) := by
  rintro ⟨hfree, hne, hfields⟩
  cases h with
  | taken htaken => exact htaken hfree
  | noFields => exact hne rfl
  | misdeclared _ hmisdeclared => exact hmisdeclared.not_declarable hfields

theorem perform_createType_of_declarable (h : Sound store) (hfree : store.Lacks name)
    (hne : fields ≠ []) (hfields : Declarable fields) :
    (createType name fields).perform store =
      (store.set name (.ofFields name fields), .ok (.ofFields name fields)) := by
  have hrun : (fields.forM Table.addField).run (.empty (trim name)) =
      .ok () (.ofFields name fields) :=
    @Table.run_forM_of_declarable name fields [] hfields
  rw [perform_createType, h.table?_eq_none_iff.2 hfree, if_neg (by simp), if_neg (by simpa using hne),
    hrun]

theorem perform_createType_of_refuses (h : Sound store) (hrefuses : RefusesType store name fields fault) :
    (createType name fields).perform store = (store, .error fault) := by
  rw [perform_createType]
  cases hrefuses with
  | taken htaken =>
    rw [← h.table?_eq_none_iff, ← Ne, ← Option.isSome_iff_ne_none] at htaken
    rw [if_pos htaken]
  | noFields hfree =>
    rw [h.table?_eq_none_iff.2 hfree, if_neg (by simp), if_pos (by simp)]
  | misdeclared hfree hfields =>
    have hne : fields ≠ [] := by
      rintro rfl
      exact hfields.not_declarable declarable_nil
    obtain ⟨left, hrun⟩ := Table.run_forM_of_misdeclared hfields name
    have hempty : Table.ofFields name [] = .empty (trim name) := rfl
    rw [hempty] at hrun
    rw [h.table?_eq_none_iff.2 hfree, if_neg (by simp), if_neg (by simpa using hne), hrun]

/-- A type is created, or there is a reason why not. -/
theorem declarable_or_refuses (store : Store) (name : String) (fields : List Field) :
    (store.Lacks name ∧ fields ≠ [] ∧ Declarable fields) ∨
      ∃ fault, RefusesType store name fields fault := by
  by_cases hfree : store.Lacks name
  · rcases declarable_or_misdeclared fields with hfields | ⟨fault, hfields⟩
    · by_cases hne : fields = []
      · subst hne
        exact .inr ⟨_, .noFields hfree⟩
      · exact .inl ⟨hfree, hne, hfields⟩
    · exact .inr ⟨fault, .misdeclared hfree hfields⟩
  · exact .inr ⟨_, .taken hfree fields⟩

/-- The tables of the other types are not touched. -/
theorem mem_set_of_ne (h : Sound store) (hset : Sound (store.set name table)) {key : String}
    (hkey : key ≠ canonical name) (other : Table) :
    (key, other) ∈ (store.set name table).tables ↔ (key, other) ∈ store.tables := by
  rw [← Entries.lookup_eq_some_iff_mem hset.nodup, ← Entries.lookup_eq_some_iff_mem h.nodup]
  exact Eq.congr_left (lookup_enter_of_ne hkey table store.tables)

/-- **A type is created as a whole or not at all.** In a store that calls lead to, it is created
exactly if no type has its name in any spelling and its fields can be declared and are some. It has
these fields then, in their order, an empty index for each unique one and no records, it is found by
any spelling of its name, and all other types are as they were. Otherwise the store is as it was, and
the fault is that of the first reason there is: the name, then the lack of fields, then the first
field that cannot be declared behind those before it. -/
theorem created_or_refused (calls : List Call) (name : String) (fields : List Field) :
    let store := after calls
    let outcome := (createType name fields).perform store
    (∀ table, outcome.2 = .ok table ↔
      (store.Lacks name ∧ fields ≠ [] ∧ Declarable fields) ∧ table = .ofFields name fields) ∧
    (∀ table, outcome.2 = .ok table →
      (∀ spelling, canonical spelling = canonical name → outcome.1.table? spelling = some table) ∧
      ∀ key other, key ≠ canonical name →
        ((key, other) ∈ outcome.1.tables ↔ (key, other) ∈ store.tables)) ∧
    (∀ fault, outcome.2 = .error fault ↔ RefusesType store name fields fault) ∧
    ∀ fault, outcome.2 = .error fault → outcome.1 = store := by
  intro store outcome
  have hstore : Sound store := sound_after calls
  have hsound : Sound outcome.1 := (atomic_createType name fields).perform hstore
  rcases declarable_or_refuses store name fields with hfree | ⟨fault, hrefuses⟩
  · have houtcome : outcome = (store.set name (.ofFields name fields), .ok (.ofFields name fields)) :=
      perform_createType_of_declarable hstore hfree.1 hfree.2.1 hfree.2.2
    rw [houtcome] at hsound
    rw [houtcome]
    refine ⟨fun table ↦ ⟨?_, ?_⟩, fun table htable ↦ ?_, fun fault ↦ ⟨nofun, fun hrefuses ↦ ?_⟩,
      fun _ hfault ↦ nomatch hfault⟩
    · rintro ⟨⟩
      exact ⟨hfree, rfl⟩
    · rintro ⟨-, rfl⟩
      rfl
    · cases htable
      exact ⟨fun spelling hspelling ↦ table?_set_self store hspelling _,
        fun key other hkey ↦ mem_set_of_ne hstore hsound hkey other⟩
    · exact absurd hfree hrefuses.not_declarable
  · have houtcome : outcome = (store, .error fault) := perform_createType_of_refuses hstore hrefuses
    rw [houtcome]
    refine ⟨fun table ↦ ⟨nofun, fun h ↦ absurd h.1 hrefuses.not_declarable⟩, nofun,
      fun other ↦ ⟨?_, fun hother ↦ ?_⟩, fun _ _ ↦ rfl⟩
    · rintro ⟨⟩
      exact hrefuses
    · have hsame := houtcome.symm.trans (perform_createType_of_refuses hstore hother)
      exact congrArg Prod.snd hsame

end Store

end RecordStore
