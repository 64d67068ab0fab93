import RecordStore.Proofs.Table.Mask
import RecordStore.Proofs.Table.Numbering
import RecordStore.Proofs.Table.Order

/-!
# What an update breaks

An update is refused for a constraint exactly if the records that it would lead to break one
(`breaks_or_updates`). These records are said without the update: `updated` gives each record that
meets the condition the value that is assigned last to each field, and a constraint is broken if a
required field is left without a value or two of the records hold the same value in a unique field
(`violation?`).

The update never builds these records before it has decided. It asks how many records it would write
to, and whom an index names for the new value. `shared_updated` is why that is neither too strict nor
too lax: all records that are written hold the one new value, so two of them are too many, and one
is too many if the value stays with a record that is not written. A record outside holds what it
held before, so the index of the table as it was is the right one to ask.
-/

namespace RecordStore

open RecordStore.Text
open Record (Fits Rising)

/-! ### Assignments -/

namespace Table

/-- What is assigned last to the field of a key, if anything is. No value stands for the default. -/
def finalFor? (assignments : List (String × Option Value)) (key : String) : Option (Option Value) :=
  (assignments.reverse.find? (canonical ·.1 == key)).map Prod.snd

/-- The fields that assignments name, in the order of first mention. -/
def assigned (assignments : List (String × Option Value)) : List String :=
  (assignments.map (canonical ·.1)).eraseDups

end Table

open Table (finalFor? assigned)

/-- The value of a field after assignments, if it is assigned at all. -/
def Field.valueAfter? (field : Field) (assignments : List (String × Option Value)) : Option Value :=
  (finalFor? assignments field.key).map (·.getD field.kind.default)

/-- The record with the value that is assigned last in each field that is assigned. -/
def Record.assign (schema : Schema) (assignments : List (String × Option Value))
    (record : Record) : Record :=
  { record with
    values := record.values.map fun (key, value) ↦
      (key, ((schema.field? key).bind (·.valueAfter? assignments)).getD value) }

/-- Do two of the records hold the same value under a key? -/
def Record.shared (records : List Record) (key : String) : Bool :=
  records.any fun r ↦ records.any fun s ↦
    r.id != s.id && (r.value? key).any fun v ↦ (s.value? key).any v.same

namespace Schema

/-- The constraint of an assigned field that records break: a required field is left without a
value, or two of them hold the same value in a unique field. -/
def violation? (schema : Schema) (assignments : List (String × Option Value))
    (records : List Record) (key : String) : Option Fault :=
  (schema.field? key).bind fun field ↦
    if field.required && finalFor? assignments key == some none then
      some (.missingRequired field.name)
    else if field.unique && Record.shared records key then some (.duplicateValue field.name)
    else none

end Schema

/-! ### The records that an update leads to -/

namespace Table

variable {table : Table} {schema : Schema} {assignments : List (String × Option Value)}
  {changes : Entries String (Field × Option Value)} {record : Record} {field : Field}
  {met : Record → Bool} {condition : Condition}

/-- The records with the values that are assigned last, in those that meet a condition. -/
def updated (table : Table) (met : Record → Bool) (assignments : List (String × Option Value)) :
    List Record :=
  table.records.map fun record ↦
    if met record then record.assign table.schema assignments else record

/-- The changes name the fields that are assigned, in the order of first mention. -/
theorem keys_of_changes (h : schema.Allows assignments)
    (hchanges : Table.changes schema [] assignments = .ok changes) :
    changes.keys = assigned assignments := by
  rw [h.changes_eq, Except.ok.injEq] at hchanges
  rw [← hchanges, Entries.keys_ofList]
  exact congrArg List.eraseDups (Entries.keys_filterMap fun a ha ↦ h.exists_asked ha)

/-- The changes give each field what is assigned to it last. -/
theorem lookup_of_changes (h : schema.Allows assignments)
    (hchanges : Table.changes schema [] assignments = .ok changes)
    (hfound : schema.field? field.key = some field) :
    changes.lookup field.key = (finalFor? assignments field.key).map fun value ↦ (field, value) := by
  rw [h.changes_eq, Except.ok.injEq] at hchanges
  rw [← hchanges, Entries.lookup_ofList, ← List.filterMap_reverse, finalFor?,
    Entries.lookup_filterMap fun a ha ↦ h.exists_asked (List.mem_reverse.1 ha)]
  cases hfind : assignments.reverse.find? (canonical ·.1 == field.key) with
  | none => rfl
  | some a =>
    -- the assignment names the field itself
    have hname : canonical a.1 = field.key := by simpa using List.find?_some hfind
    have hsame : schema.field? a.1 = some field := by
      rw [← hfound, Schema.field?, hname, Schema.field?, field.canonical_key]
    rw [Option.bind_some, Schema.asked?, hsame]
    rfl

/-- A record holds afterwards what is assigned last, or else what it held. -/
theorem value?_assign (hfound : schema.field? field.key = some field) (record : Record) :
    (record.assign schema assignments).value? field.key =
      (record.value? field.key).map fun value ↦ (field.valueAfter? assignments).getD value := by
  show List.lookup field.key (record.values.map _) = _
  rw [Entries.lookup_map_value
    (fun key value ↦ ((schema.field? key).bind (·.valueAfter? assignments)).getD value), hfound]
  rfl

/-- **Writing the changes is assigning.** -/
theorem write_eq_assign (hnodup : schema.keys.Nodup) (h : schema.Allows assignments)
    (hchanges : Table.changes schema [] assignments = .ok changes) (hfits : Fits schema record) :
    record.write (changes.map toWrite) = record.assign schema assignments := by
  have hassigns := assigns_of_changes .nil hchanges
  have hkeys : (record.assign schema assignments).values.keys = record.values.keys := by
    rw [Record.assign, Entries.keys, List.map_map]
    rfl
  have hwritten : (record.write (changes.map toWrite)).values.keys = record.values.keys :=
    (hassigns.fits_write hnodup hfits).keys.trans hfits.keys.symm
  have hvalues : (record.write (changes.map toWrite)).values =
      (record.assign schema assignments).values := by
    refine Entries.eq_of_keys_of_lookup (hwritten.trans hkeys.symm) ?_ fun key hkey ↦ ?_
    · rw [hwritten, hfits.keys]
      exact hnodup
    rw [hwritten, hfits.keys] at hkey
    obtain ⟨field, hfield, rfl⟩ := List.mem_map.1 hkey
    have hfound := Schema.field?_key hnodup hfield
    obtain ⟨value, hvalue, -⟩ := hfits.exists_value hfield
    have hwrites : (Entries.keys (changes.map toWrite)).Nodup := by
      rw [keys_map_toWrite]
      exact hassigns.nodup
    calc (record.write (changes.map toWrite)).value? field.key
        = ((changes.map toWrite).lookup field.key).or (some value) := by
          rw [Record.value?_write hwrites, hvalue]
      _ = (field.valueAfter? assignments).or (some value) := by
          rw [lookup_map_toWrite, lookup_of_changes h hchanges hfound, Option.map_map]
          rfl
      _ = some ((field.valueAfter? assignments).getD value) := by
          cases field.valueAfter? assignments <;> rfl
      _ = (record.assign schema assignments).value? field.key := by
          rw [value?_assign hfound, hvalue, Option.map_some]
  have hid : (record.write (changes.map toWrite)).id = (record.assign schema assignments).id :=
    Record.id_write _ _
  calc record.write (changes.map toWrite)
      = ⟨(record.write (changes.map toWrite)).id, (record.write (changes.map toWrite)).values⟩ := rfl
    _ = record.assign schema assignments := by rw [hid, hvalues]

/-! ### Values that several records would hold -/

theorem id_updated (record : Record) :
    (if met record then record.assign schema assignments else record).id = record.id := by
  split <;> rfl

theorem shared_eq_true {records : List Record} {key : String} :
    Record.shared records key = true ↔ ∃ r ∈ records, ∃ s ∈ records, r.id ≠ s.id ∧
      ∃ v, r.value? key = some v ∧ ∃ w, s.value? key = some w ∧ v.same w = true := by
  simp [Record.shared, Option.any_eq_true]

/-- What two records hold afterwards is shared, whether they were assigned it or held it before. -/
theorem shared_of_same {r s : Record} (hr : r ∈ table.records) (hs : s ∈ table.records)
    (hid : r.id ≠ s.id) {key : String} {v w : Value}
    (hv : (if met r then r.assign table.schema assignments else r).value? key = some v)
    (hw : (if met s then s.assign table.schema assignments else s).value? key = some w)
    (hsame : v.same w = true) : Record.shared (table.updated met assignments) key = true := by
  refine shared_eq_true.2 ⟨_, List.mem_map_of_mem hr, _, List.mem_map_of_mem hs, ?_,
    v, hv, w, hw, hsame⟩
  rwa [id_updated, id_updated]

/-- A record that is written holds the value that is assigned last. -/
theorem value?_assign_of_some (h : Sound table) (hfield : field ∈ table.schema.fields)
    {value : Value} (hvalue : field.valueAfter? assignments = some value)
    (hrecord : record ∈ table.records) :
    (record.assign table.schema assignments).value? field.key = some value := by
  obtain ⟨old, hold, -⟩ := (h.fits record hrecord).exists_value hfield
  rw [value?_assign (Schema.field?_key h.nodup hfield), hold, hvalue]
  rfl

/-- If two records hold the same value afterwards, then both were assigned it, or one of them was and
the other held it before. -/
theorem many_or_held_of_shared (h : Sound table) (hfield : field ∈ table.schema.fields)
    (hunique : field.unique = true) {value : Value}
    (hvalue : field.valueAfter? assignments = some value)
    (hshared : Record.shared (table.updated met assignments) field.key = true) :
    1 < (table.records.filter met).length ∨
      ScanTable.holds (table.records.filter fun record ↦ !met record) field.key value = true := by
  obtain ⟨r', hr', s', hs', hid, v, hv, w, hw, hsame⟩ := shared_eq_true.1 hshared
  obtain ⟨r, hr, rfl⟩ := List.mem_map.1 hr'
  obtain ⟨s, hs, rfl⟩ := List.mem_map.1 hs'
  rw [id_updated, id_updated] at hid
  rw [holds_eq_true]
  cases hrmet : met r <;> cases hsmet : met s <;> simp only [hrmet, hsmet] at hv hw
  case true.true =>
    have hrin : r ∈ table.records.filter met := List.mem_filter.2 ⟨hr, hrmet⟩
    have hsin : s ∈ table.records.filter met := List.mem_filter.2 ⟨hs, hsmet⟩
    left
    by_contra hfew
    obtain ⟨t, ht⟩ := List.length_eq_one_iff.1
      (Nat.le_antisymm (Nat.not_lt.1 hfew) (List.length_pos_of_mem hrin))
    rw [ht, List.mem_singleton] at hrin hsin
    rw [hrin, hsin] at hid
    exact hid rfl
  case true.false =>
    obtain rfl := Option.some.inj ((value?_assign_of_some h hfield hvalue hr).symm.trans hv)
    exact .inr ⟨s, List.mem_filter.2 ⟨hs, by simp [hsmet]⟩, w, hw, Value.same_symm hsame⟩
  case false.true =>
    obtain rfl := Option.some.inj ((value?_assign_of_some h hfield hvalue hs).symm.trans hw)
    exact .inr ⟨r, List.mem_filter.2 ⟨hr, by simp [hrmet]⟩, v, hv, hsame⟩
  case false.false =>
    -- two records that are left as they were hold different values
    have hkey := Schema.mem_uniqueKeys.2 ⟨field, hfield, hunique, rfl⟩
    have hne : r ≠ s := fun heq ↦ hid (congrArg Record.id heq)
    rw [(h.distinct field.key hkey).forall hr hs hne v w hv hw] at hsame
    cases hsame

/-- Several records that are assigned a value share it. -/
theorem shared_of_many (h : Sound table) (hfield : field ∈ table.schema.fields) {value : Value}
    (hvalue : field.valueAfter? assignments = some value)
    (hmany : 1 < (table.records.filter met).length) :
    Record.shared (table.updated met assignments) field.key = true := by
  rcases hfilter : table.records.filter met with _ | ⟨r, _ | ⟨s, rest⟩⟩
  · rw [hfilter] at hmany
    exact absurd hmany (Nat.not_lt_zero 1)
  · rw [hfilter] at hmany
    exact absurd hmany (Nat.lt_irrefl 1)
  · have hrising : Rising (r :: s :: rest) := hfilter ▸ h.rising.sublist List.filter_sublist
    have hlt : r.id < s.id := (List.pairwise_cons.1 hrising).1 s List.mem_cons_self
    obtain ⟨hr, hrmet⟩ := List.mem_filter.1 (hfilter ▸ List.mem_cons_self : r ∈ _)
    obtain ⟨hs, hsmet⟩ := List.mem_filter.1
      (hfilter ▸ List.mem_cons_of_mem r List.mem_cons_self : s ∈ _)
    refine shared_of_same hr hs (Nat.ne_of_lt hlt) (v := value) (w := value) ?_ ?_
      (Value.same_refl value)
    · rw [if_pos hrmet, value?_assign_of_some h hfield hvalue hr]
    · rw [if_pos hsmet, value?_assign_of_some h hfield hvalue hs]

/-- A record that is assigned a value shares it with one that holds it and is not written. -/
theorem shared_of_held (h : Sound table) (hfield : field ∈ table.schema.fields) {value : Value}
    (hvalue : field.valueAfter? assignments = some value)
    (hsome : table.records.filter met ≠ [])
    (hheld : ScanTable.holds (table.records.filter fun record ↦ !met record) field.key value =
      true) : Record.shared (table.updated met assignments) field.key = true := by
  obtain ⟨s, hs, w, hw, hsame⟩ := holds_eq_true.1 hheld
  obtain ⟨r, hr⟩ := List.exists_mem_of_ne_nil _ hsome
  obtain ⟨hrmem, hrmet⟩ := List.mem_filter.1 hr
  obtain ⟨hsmem, hsmet⟩ := List.mem_filter.1 hs
  have hid : r.id ≠ s.id := by
    rw [← picked_map] at hr
    rw [← spared_map] at hs
    exact id_ne_of_picked_of_spared h.rising hr hs
  refine shared_of_same hrmem hsmem hid (v := value) (w := w) ?_ ?_ (Value.same_symm hsame)
  · rw [if_pos hrmet, value?_assign_of_some h hfield hvalue hrmem]
  · rw [if_neg (by simpa using hsmet), hw]

/-- **Where a unique field is assigned**, two of the records would hold the same value in it exactly
if several records are assigned the value, or one of the others holds it. -/
theorem shared_updated (h : Sound table) (hfield : field ∈ table.schema.fields)
    (hunique : field.unique = true) {value : Value}
    (hvalue : field.valueAfter? assignments = some value)
    (hsome : table.records.filter met ≠ []) :
    Record.shared (table.updated met assignments) field.key =
      (decide (1 < (table.records.filter met).length) ||
        ScanTable.holds (table.records.filter fun record ↦ !met record) field.key value) := by
  rw [Bool.eq_iff_iff, Bool.or_eq_true, decide_eq_true_eq]
  constructor
  · exact many_or_held_of_shared h hfield hunique hvalue
  · rintro (hmany | hheld)
    · exact shared_of_many h hfield hvalue hmany
    · exact shared_of_held h hfield hvalue hsome hheld

/-- **The check of a change** finds what the records would break. -/
theorem broken?_eq_violation? (h : Sound table) (hallows : table.schema.Allows assignments)
    (hchanges : Table.changes table.schema [] assignments = .ok changes)
    (hsome : table.records.filter met ≠ []) {change : String × Field × Option Value}
    (hchange : change ∈ changes) :
    broken? table.indexes ((table.records.filter met).map (·.id)) change =
      table.schema.violation? assignments (table.updated met assignments) change.1 := by
  obtain ⟨key, field, value⟩ := change
  have hassigns := assigns_of_changes .nil hchanges
  obtain ⟨hfield, rfl⟩ := hassigns.declared key field value hchange
  have hfound := Schema.field?_key h.nodup hfield
  have hfinal : finalFor? assignments field.key = some value := by
    have hlookup := Entries.lookup_of_mem hassigns.nodup hchange
    rw [lookup_of_changes hallows hchanges hfound] at hlookup
    obtain ⟨final, hfinal, heq⟩ := Option.map_eq_some_iff.1 hlookup
    rw [hfinal, (Prod.mk.inj heq).2]
  have hnone : (finalFor? assignments field.key == some none) = value.isNone := by
    rw [hfinal]
    cases value <;> rfl
  rw [broken?, Schema.violation?, hfound, Option.bind_some, hnone, List.length_map]
  cases hunique : field.unique with
  | false => rfl
  | true =>
    have hkey := Schema.mem_uniqueKeys.2 ⟨field, hfield, hunique, rfl⟩
    have hafter : field.valueAfter? assignments = some (value.getD field.kind.default) := by
      rw [Field.valueAfter?, hfinal, Option.map_some]
    have hholder : ((table.indexes.holder? field.key (value.getD field.kind.default)).any
        fun number ↦ !((picked table.records (table.records.map met)).map (·.id)).contains number) =
          _ := any_holder?_eq_holds h hkey (value.getD field.kind.default)
    rw [picked_map, spared_map] at hholder
    rw [hholder, shared_updated h hfield hunique hafter hsome]

/-! ### Updates -/

/-- **An update breaks a constraint or is done.** Let the records be those of a table that calls lead
to, and let a condition mean something of each. If it selects none, nothing happens. Otherwise
assignments of values of the right kinds are refused exactly if the records that they lead to break
a constraint of an assigned field, and for the first field, in the order of first mention, of which
this is so; and if it is so of none, they lead to these records, and to the indexes that belong to
them. -/
theorem breaks_or_updates (h : table.Reachable) (met : Record → Bool)
    (hmet : ∀ record ∈ table.records, condition table.schema record = .ok (met record))
    (hallows : table.schema.Allows assignments) :
    let records := table.updated met assignments
    (updateWhere condition assignments).perform table =
      if table.records.filter met = [] then (table, .ok 0)
      else
        match (assigned assignments).findSome? (table.schema.violation? assignments records) with
        | some fault => (table, .error fault)
        | none =>
          ({ table with
              records := records
              indexes := Indexes.ofRecords table.schema.uniqueKeys records },
            .ok (table.records.filter met).length) := by
  intro records
  have hsound := h.sound
  obtain ⟨changes, hchanges⟩ : ∃ changes, Table.changes table.schema [] assignments = .ok changes :=
    ⟨_, hallows.changes_eq⟩
  have hmatching : table.matching condition = .ok (table.records.map met) :=
    matchRecords_eq_map hmet
  rw [Action.perform, run_updateWhere, hchanges, hmatching]
  dsimp only
  rw [picked_map]
  by_cases hnone : table.records.filter met = []
  · rw [if_pos hnone, if_pos (by rw [hnone]; rfl)]
  rw [if_neg hnone, if_neg (by simpa using hnone), writes_eq_findSome?]
  have hfirst : changes.findSome? (broken? table.indexes ((table.records.filter met).map (·.id))) =
      (assigned assignments).findSome? (table.schema.violation? assignments records) := by
    rw [← keys_of_changes hallows hchanges, Entries.keys, List.findSome?_map,
      ← List.head?_filterMap, ← List.head?_filterMap]
    refine congrArg List.head? (List.filterMap_congr fun change hchange ↦ ?_)
    exact broken?_eq_violation? hsound hallows hchanges hnone hchange
  have hwrites := writes_eq_findSome? table.indexes ((table.records.filter met).map (·.id)) changes
  rw [hfirst] at hwrites ⊢
  cases hviolation :
      (assigned assignments).findSome? (table.schema.violation? assignments records) with
  | some fault => rfl
  | none =>
    rw [hviolation] at hwrites
    have hassigns := assigns_of_changes .nil hchanges
    rw [← picked_map] at hnone hwrites
    obtain ⟨-, hindexes⟩ := hsound.tracks_rewrite hassigns hwrites hnone
    have hrecords : (table.rewrite (changes.map toWrite) (table.records.map met)).records =
        records := by
      rw [rewrite, overwrite_fst, written_map]
      refine List.map_congr_left fun record hrecord ↦ ?_
      rw [write_eq_assign hsound.nodup hallows hchanges (hsound.fits record hrecord)]
    rw [hrecords] at hindexes
    dsimp only
    rw [← hindexes, ← hrecords]
    rfl

/-- Two gauges with a level of their own each, of which one has a name. -/
def gauges : Table :=
  afterCalls (.empty "Gauge") [.addField ⟨"Level", .int, false, true⟩,
    .addField ⟨"Name", .text, true, false⟩, .insert [("level", .int 1), ("name", .text "a")],
    .insert [("level", .int 2), ("name", .text "b")]]

/-- A gauge may keep its level, although another one was assigned first; two cannot be reset to the
same level, and neither may lose its name. -/
theorem breaks_or_updates_gauges :
    ((updateWhere (fun _ record ↦ .ok (record.id == 1))
      [("LEVEL", some (.int 1)), (" level", some (.int 2))]).perform gauges).2 = .ok 1 ∧
    ((updateWhere (fun _ _ ↦ .ok true) [("level", none), ("name", none)]).perform gauges).2 =
      .error (.duplicateValue "Level") ∧
    ((updateWhere (fun _ _ ↦ .ok true) [("name", none), ("level", none)]).perform gauges).2 =
      .error (.missingRequired "Name") := by
  have hreachable : gauges.Reachable := ⟨_, _, rfl⟩
  refine ⟨?_, ?_, ?_⟩
  · rw [breaks_or_updates hreachable (fun record ↦ record.id == 1) (fun _ _ ↦ rfl)
      (by decide +kernel)]
    decide +kernel
  · rw [breaks_or_updates hreachable (fun _ ↦ true) (fun _ _ ↦ rfl) (by decide +kernel)]
    decide +kernel
  · rw [breaks_or_updates hreachable (fun _ ↦ true) (fun _ _ ↦ rfl) (by decide +kernel)]
    decide +kernel

end Table

end RecordStore
