import Mathlib.Data.List.Find
import RecordStore.Proofs.Command.Written
import RecordStore.Proofs.Store.Coercion
import RecordStore.Proofs.Store.Selection
import RecordStore.Proofs.Table.Scan

/-!
# Inserting records

A record that is inserted holds in each field what the payload gives, or else the default, so an
insertion comes to three cases: a required field is given nothing, a value of a unique field is
taken, or the record stands behind all others (`perform_insert`).

`Supplied` are the values that can be written for each kind. Whatever is supplied for some of the
fields and written as a payload, in any of the ways to write it, the command is read, the names are
found and the values are those supplied: an insertion can only be refused for required and unique
fields, and the search for all records then returns one row more (`appends_supplied`).
-/

namespace RecordStore

open RecordStore.Text RecordStore.Number RecordStore.Time
open Statement (CanNameType)

/-! ### What forbids an insertion -/

/-- The first required field that a payload gives nothing. -/
def Schema.firstUngiven? (schema : Schema) (values : List (String × Payload)) : Option Field :=
  schema.fields.find? fun field ↦ field.required && (field.given? values).isNone

namespace Table

variable {table : Table} {values : List (String × Payload)}

/-- The first unique field whose new value a record holds. -/
def firstHeld? (table : Table) (values : List (String × Payload)) : Option Field :=
  table.schema.fields.find? fun field ↦
    field.unique && table.records.any (Record.holds field.key (field.newValue values))

/-- The indexes find the value of a new record if a record holds it. -/
theorem firstTaken?_newValues (h : Sound table) :
    table.firstTaken? (table.schema.newValues values) = table.firstHeld? values := by
  rw [firstTaken?_eq h]
  refine List.find?_congr fun field hfield ↦ ?_
  rw [Schema.lookup_newValues h.nodup hfield, Option.any_some]
  rfl

end Table

namespace Store

variable {store : Store} {table : Table} {type line : String} {values : List (String × Payload)}

/-! ### Rows -/

/-- The row of a new record. -/
theorem rowOf_newValues {schema : Schema} (hnodup : schema.keys.Nodup) (id : Nat) :
    rowOf schema ⟨id, schema.newValues values⟩ =
      schema.fields.map fun field ↦ field.newValue values := by
  refine List.map_congr_left fun field hfield ↦ ?_
  show ((schema.newValues values).lookup field.key).getD _ = _
  rw [Schema.lookup_newValues hnodup hfield, Option.getD_some]

/-- The search without a filter returns all records. -/
theorem query_all (hfound : store.table? type = some table)
    (hread : Statement.ofText line = .ok (.search type none)) :
    query store line =
      .ok ⟨table.schema.fields.map (·.name), table.records.map (rowOf table.schema)⟩ := by
  have hselects : Selects store type none table fun _ ↦ true := ⟨hfound, rfl, fun _ _ ↦ rfl⟩
  rw [query_of_selects hselects hread, List.filter_true]

/-! ### Insertions -/

/-- **What an insertion comes to**, once its payload is accepted. -/
theorem perform_insert (hstore : Sound store) (hfound : store.table? type = some table)
    (haccepts : table.schema.Accepts values) :
    (apply (.insert type values)).perform store =
      match table.schema.firstUngiven? values with
      | some field => (store, .error (.missingRequired field.name))
      | none =>
        match table.firstHeld? values with
        | some field => (store, .error (.duplicateValue field.name))
        | none => (store.set type (table.append (table.schema.newValues values)),
            .ok ("Instance inserted into '" ++ table.name ++ "'.")) := by
  have hsound := hstore.sound _ table (hstore.table?_eq_some_iff.1 hfound)
  obtain ⟨assignments, hcoerce, hall⟩ := haccepts.exists_coerce
  have hmissing : Table.firstMissing? table.schema (Table.byKey (givenValues assignments)) =
      table.schema.firstUngiven? values := by
    refine List.find?_congr fun field hfield ↦ ?_
    rw [Schema.lookup_of_coerces hsound.nodup hfield hall]
  rw [Action.perform, apply, run_within, hfound]
  simp only [EStateM.run_bind, EStateM.run_get, Action.run_liftExcept, hcoerce, Table.run_insert,
    Schema.admitAll_of_coerces hsound.nodup hall, Schema.completed_of_coerces hsound.nodup hall,
    hmissing, Table.firstTaken?_newValues hsound]
  cases table.schema.firstUngiven? values with
  | some field =>
    show (store.set type table, _) = _
    rw [set_eq_self hstore hfound]
  | none =>
    cases table.firstHeld? values with
    | some field =>
      show (store.set type table, _) = _
      rw [set_eq_self hstore hfound]
    | none => rfl

end Store

/-! ### Values that can be written -/

/-- A value as it can be written in a payload. -/
inductive Supplied where
  /-- A text. -/
  | text (s : String)
  /-- A 64-bit integer, by its decimal digits. -/
  | int (n : Int64)
  /-- A double, by any numeral. -/
  | double (numeral : String) (h : Number.Legal numeral.toList)
  /-- A truth value. -/
  | bool (b : Bool)
  /-- A moment, by a text that stands for it. -/
  | time (s : String) (m : Moment) (h : Moment.ofText? s = some m)
  /-- A list of texts. -/
  | texts (items : List String)

namespace Supplied

/-- The kind of a supplied value. -/
def kind : Supplied → Kind
  | text _ => .text
  | int _ => .int
  | double .. => .double
  | bool _ => .bool
  | time .. => .time
  | texts _ => .texts

/-- The payload in which a value is supplied. -/
def payload : Supplied → Payload
  | text s => .text s
  | int n => .number (toString n.toInt)
  | double numeral _ => .number numeral
  | bool b => .bool b
  | time s .. => .text s
  | texts items => .array (items.map .text)

theorem isSome_double {numeral : String} (h : Number.Legal numeral.toList) :
    (Double.ofText? numeral).isSome := by
  have hsome := isSome_ofText?_of_legal h
  rwa [String.ofList_toList] at hsome

/-- The supplied value. -/
def value : Supplied → Value
  | text s => .text s
  | int n => .int n
  | double numeral h => .double ((Double.ofText? numeral).get (isSome_double h))
  | bool b => .bool b
  | time _ m _ => .time m
  | texts items => .texts items

theorem textItems_map (items : List String) : Kind.textItems (items.map .text) = .ok items := by
  induction items with
  | nil => rfl
  | cons s items ih =>
    rw [List.map_cons, Kind.textItems, ih]
    rfl

/-- **What is supplied is what is taken.** -/
theorem ofPayload_payload (v : Supplied) : v.kind.ofPayload v.payload = .ok v.value := by
  cases v with
  | text | bool => rfl
  | int n =>
    simp only [kind, payload, value, Kind.ofPayload, integer?_toString]
  | double numeral h =>
    obtain ⟨d, hd⟩ := Option.isSome_iff_exists.1 (isSome_double h)
    simp only [kind, payload, value, Kind.ofPayload, hd, Option.get_some]
  | time s m h =>
    show timeOfText s = _
    rw [timeOfText, h]
    rfl
  | texts items =>
    show (Kind.textItems (items.map .text)).map Value.texts = _
    rw [textItems_map]
    rfl

theorem legal_payload (v : Supplied) : v.payload.Legal := by
  cases v with
  | text s => exact .text s
  | int n => exact .number (legal_toString n.toInt)
  | double numeral h => exact .number h
  | bool b => exact .bool b
  | time s => exact .text s
  | texts items =>
    refine .array fun p hp ↦ ?_
    obtain ⟨s, -, rfl⟩ := List.mem_map.1 hp
    exact .text s

end Supplied

/-- Values for some fields of a schema, at most one for each and of its kind. -/
structure Schema.Supplies (schema : Schema) (supplies : List (Field × Supplied)) : Prop where
  /-- No field is given two values. -/
  nodup : (supplies.map Prod.fst).Nodup
  /-- Only fields of the schema are given values. -/
  declared : ∀ s ∈ supplies, s.1 ∈ schema.fields
  /-- The values are of the fields' kinds. -/
  kind : ∀ s ∈ supplies, s.2.kind = s.1.kind

namespace Supplied

/-- The payload of values for fields, each under the name of its field. -/
def entries (supplies : List (Field × Supplied)) : Entries String Payload :=
  supplies.map fun (field, v) ↦ (field.name, v.payload)

/-- The value that is supplied for a field, or else the default of its kind. -/
def valueOf (supplies : List (Field × Supplied)) (field : Field) : Value :=
  ((supplies.lookup field).map value).getD field.kind.default

end Supplied

namespace Schema.Supplies

variable {schema : Schema} {supplies : List (Field × Supplied)}

/-- Supplied values make a legal payload. -/
theorem legal_entries (h : schema.Supplies supplies) (hnodup : schema.keys.Nodup) :
    (Payload.object (Supplied.entries supplies)).Legal := by
  refine .object ?_ fun e he ↦ ?_
  · have hnames : ((supplies.map Prod.fst).map Field.name).Nodup := by
      refine h.nodup.map_on fun field hfield other hother heq ↦ ?_
      obtain ⟨⟨_, v⟩, hv, rfl⟩ := List.mem_map.1 hfield
      obtain ⟨⟨_, w⟩, hw, rfl⟩ := List.mem_map.1 hother
      exact eq_of_key_eq hnodup (h.declared (_, v) hv) (h.declared (_, w) hw)
        (congrArg canonical heq)
    rw [List.map_map] at hnames
    rwa [Supplied.entries, List.map_map]
  · obtain ⟨⟨field, v⟩, -, rfl⟩ := List.mem_map.1 he
    exact v.legal_payload

/-- Every supplied value is for a field that is found, and can be taken as its value. -/
theorem accepts_entries (h : schema.Supplies supplies) (hnodup : schema.keys.Nodup) :
    schema.Accepts (Supplied.entries supplies) := by
  intro e he
  obtain ⟨⟨field, v⟩, hv, rfl⟩ := List.mem_map.1 he
  refine ⟨field, (field?_eq_some_iff hnodup).2 ⟨h.declared (field, v) hv, rfl⟩, .inr ⟨v.value, ?_⟩⟩
  rw [← h.kind (field, v) hv]
  exact v.ofPayload_payload

/-- The payload gives each field what is supplied for it. -/
theorem given?_entries (h : schema.Supplies supplies) (hnodup : schema.keys.Nodup) {field : Field}
    (hfield : field ∈ schema.fields) :
    field.given? (Supplied.entries supplies) = (supplies.lookup field).map Supplied.value := by
  cases hlookup : supplies.lookup field with
  | none =>
    refine Field.given?_eq_none fun e he hname ↦ ?_
    obtain ⟨⟨other, v⟩, hv, rfl⟩ := List.mem_map.1 he
    obtain rfl := eq_of_key_eq hnodup (h.declared (other, v) hv) hfield hname
    exact Entries.lookup_eq_none_iff_not_mem.1 hlookup (Entries.mem_keys.2 ⟨v, hv⟩)
  | some v =>
    have hv : (field, v) ∈ supplies := Entries.mem_of_lookup hlookup
    have hvalue : field.kind.ofPayload v.payload = .ok v.value := by
      rw [← h.kind (field, v) hv]
      exact v.ofPayload_payload
    obtain ⟨before, after, rfl⟩ := List.append_of_mem hv
    rw [Supplied.entries, List.map_append, List.map_cons]
    refine Field.given?_of_last rfl hvalue fun e he hname ↦ ?_
    obtain ⟨⟨other, u⟩, hu, rfl⟩ := List.mem_map.1 he
    have hmem : (other, u) ∈ before ++ (field, v) :: after :=
      List.mem_append_right _ (List.mem_cons_of_mem _ hu)
    obtain rfl := eq_of_key_eq hnodup (h.declared (other, u) hmem) hfield hname
    -- the field has no second entry
    have htwice := h.nodup
    rw [List.map_append, List.map_cons] at htwice
    exact absurd (List.mem_map_of_mem hu) (List.nodup_cons.1 htwice.of_append_right).1

/-- A new record holds what is supplied. -/
theorem newValue_entries (h : schema.Supplies supplies) (hnodup : schema.keys.Nodup) {field : Field}
    (hfield : field ∈ schema.fields) :
    field.newValue (Supplied.entries supplies) = Supplied.valueOf supplies field := by
  rw [Field.newValue, Supplied.valueOf, h.given?_entries hnodup hfield]

end Schema.Supplies

/-- A reason to refuse the values that are supplied for a new record. -/
inductive Table.Forbids (table : Table) (supplies : List (Field × Supplied)) : Fault → Prop where
  /-- A field is required, and nothing is supplied for it. -/
  | missing {field : Field} (hfield : field ∈ table.schema.fields)
      (hrequired : field.required = true) (hnone : field ∉ supplies.map Prod.fst) :
    Forbids table supplies (.missingRequired field.name)
  /-- A field is unique, and a record holds the value already. -/
  | taken {field : Field} (hfield : field ∈ table.schema.fields) (hunique : field.unique = true)
      {record : Record} (hrecord : record ∈ table.records)
      (hholds : record.holds field.key (Supplied.valueOf supplies field) = true) :
    Forbids table supplies (.duplicateValue field.name)

namespace Schema.Supplies

variable {table : Table} {supplies : List (Field × Supplied)} {field : Field}

theorem forbids_of_firstUngiven? (h : table.schema.Supplies supplies)
    (hnodup : table.schema.keys.Nodup)
    (hfind : table.schema.firstUngiven? (Supplied.entries supplies) = some field) :
    table.Forbids supplies (.missingRequired field.name) := by
  have hfield := List.mem_of_find?_eq_some hfind
  have hcheck := List.find?_some hfind
  rw [Bool.and_eq_true, h.given?_entries hnodup hfield, Option.isNone_map,
    Option.isNone_iff_eq_none] at hcheck
  exact .missing hfield hcheck.1 (Entries.lookup_eq_none_iff_not_mem.1 hcheck.2)

theorem forbids_of_firstHeld? (h : table.schema.Supplies supplies)
    (hnodup : table.schema.keys.Nodup)
    (hfind : table.firstHeld? (Supplied.entries supplies) = some field) :
    table.Forbids supplies (.duplicateValue field.name) := by
  have hfield := List.mem_of_find?_eq_some hfind
  have hcheck := List.find?_some hfind
  rw [Bool.and_eq_true, h.newValue_entries hnodup hfield, List.any_eq_true] at hcheck
  obtain ⟨hunique, record, hrecord, hholds⟩ := hcheck
  exact .taken hfield hunique hrecord hholds

end Schema.Supplies

namespace Store

/-- **Inserting what is supplied.** A command that supplies values for some fields of a type, each
written as its kind asks for, is refused for nothing but a required field without a value or a
unique field whose value is taken. Otherwise the search for all records returns the same rows as
before, and behind them one that has in each column what was supplied, or the default of the field's
kind. -/
theorem appends_supplied (calls : List Call) {type : String} {table : Table}
    (hfound : (after calls).table? type = some table) (hname : CanNameType type)
    {supplies : List (Field × Supplied)} (hsupplies : table.schema.Supplies supplies)
    {line : String} (hline : Statement.Written (.insert type (Supplied.entries supplies)) line) :
    (∀ fault, (step (after calls) line).2 = .error fault →
      fault.category = .constraint ∧ table.Forbids supplies fault) ∧
    ∀ message, (step (after calls) line).2 = .ok message →
      ∀ search, Statement.Written (.search type none) search →
        ∃ rows,
          query (after calls) search = .ok ⟨table.schema.fields.map (·.name), rows⟩ ∧
          query (step (after calls) line).1 search =
            .ok ⟨table.schema.fields.map (·.name),
              rows ++ [table.schema.fields.map (Supplied.valueOf supplies)]⟩ := by
  have hstore := sound_after calls
  have hnodup := (hstore.sound _ table (hstore.table?_eq_some_iff.1 hfound)).nodup
  have hread := Statement.ofText_of_written
    (.insert hname (hsupplies.legal_entries hnodup)) hline
  rw [step_eq_perform hread, perform_insert hstore hfound (hsupplies.accepts_entries hnodup)]
  split
  · next field hfind =>
    refine ⟨fun fault hfault ↦ ?_, fun message hmessage ↦ by cases hmessage⟩
    cases hfault
    exact ⟨rfl, hsupplies.forbids_of_firstUngiven? hnodup hfind⟩
  split
  · next field hfind =>
    refine ⟨fun fault hfault ↦ ?_, fun message hmessage ↦ by cases hmessage⟩
    cases hfault
    exact ⟨rfl, hsupplies.forbids_of_firstHeld? hnodup hfind⟩
  · refine ⟨fun fault hfault ↦ (by cases hfault), fun message _ search hsearch ↦ ?_⟩
    have hsearch := Statement.ofText_of_written (.search hname (by simp)) hsearch
    have hrow : rowOf table.schema
        ⟨table.nextId, table.schema.newValues (Supplied.entries supplies)⟩ =
          table.schema.fields.map (Supplied.valueOf supplies) := by
      rw [rowOf_newValues hnodup]
      exact List.map_congr_left fun field hfield ↦ hsupplies.newValue_entries hnodup hfield
    refine ⟨_, query_all hfound hsearch, ?_⟩
    rw [query_all (table?_set_self (after calls) rfl _) hsearch, Table.append, List.map_append,
      ← hrow]
    rfl

/-- The fields of a reading. -/
def readingFields : List Field :=
  [⟨"sensor \"A\"", .text, true, true⟩, ⟨"count", .int, false, false⟩,
    ⟨"level", .double, false, false⟩, ⟨"tags", .texts, false, false⟩]

/-- Readings, of which one has been taken. -/
def readings : List Call :=
  [.createType "Reading" readingFields,
   .change "reading" (.insert [("sensor \"a\"", .text "("), ("count", .int 7)])]

/-- The table of the readings. -/
def readingTable : Table where
  name := "Reading"
  schema := ⟨readingFields⟩
  records := [⟨0, [("sensor \"a\"", .text "("), ("count", .int 7), ("level", .double .zero),
    ("tags", .texts [])]⟩]
  indexes := [("sensor \"a\"", [(.text "(", 0)])]
  nextId := 1

/-- A reading with brackets and quotes in its texts. -/
def reading : List (Field × Supplied) :=
  [(⟨"level", .double, false, false⟩, .double "-0.50e1" <|
    show Number.Legal (['-'] ++ (['0'] ++ (['.', '5', '0'] ++ 'e' :: ([] ++ ['1'])))) from
      .mk (.inr rfl) (by decide) (.some (by decide)) (.some (.inl rfl) (.inl rfl) (by decide))),
   (⟨"sensor \"A\"", .text, true, true⟩, .text "\x7b\"("),
   (⟨"tags", .texts, false, false⟩, .texts ["\"]", ""])]

/-- The command that inserts the reading. -/
def readingText : String :=
  "insert Reading \x7b\"level\":-0.50e1,\"sensor \\\"A\\\"\":\"\x7b\\\"(\"," ++
    "\"tags\":[\"\\\"]\",\"\"]\x7d"

theorem written_reading :
    Statement.Written (.insert "Reading" (Supplied.entries reading)) readingText := by
  have hpayload : Statement.WrittenPayload (some (Supplied.entries reading)) _ :=
    .some (.object (.cons (padded_self _) (.number _) (padded_self _)
      (.cons (padded_self _) (.text _) (padded_self _)
        (.one (padded_self _) (.array (.cons (.text _) (padded_self _)
          (.one (.text _) (padded_self _)))) (padded_self _)))))
  refine cast (congrArg (Statement.Written _) ?_) (Statement.written_spaced _ .none hpayload)
  decide +kernel

theorem appends_reading :
    (step (after readings) readingText).2 = .ok "Instance inserted into 'Reading'." ∧
      query (step (after readings) readingText).1 "search Reading" =
        .ok ⟨["sensor \"A\"", "count", "level", "tags"],
          [[.text "(", .int 7, .double .zero, .texts []],
            [.text "\x7b\"(", .int 0, .double (.ofInt (-5)), .texts ["\"]", ""]]]⟩ := by
  have hfound : (after readings).table? "Reading" = some readingTable := by decide +kernel
  have hsupplies : readingTable.schema.Supplies reading :=
    ⟨by decide +kernel, by decide +kernel, by decide +kernel⟩
  have hsearch : Statement.Written (.search "Reading" none) "search Reading" := by
    have h := @Statement.Written.intro (.search "Reading" none) "search" [] [' '] [] [] [] [] []
      (by decide) (by decide) blanks_nil blanks_space blanks_nil blanks_nil blanks_nil .none .none
    refine cast (congrArg (Statement.Written _) ?_) h
    decide +kernel
  have hmessage : (step (after readings) readingText).2 =
      .ok "Instance inserted into 'Reading'." := by decide +kernel
  obtain ⟨rows, hbefore, hafter⟩ := (appends_supplied readings hfound (by decide) hsupplies
    written_reading).2 _ hmessage _ hsearch
  have hread := Statement.ofText_of_written (.search (by decide) (by simp)) hsearch
  have hrows := query_all hfound hread
  rw [hrows, Except.ok.injEq, Rows.mk.injEq] at hbefore
  refine ⟨hmessage, ?_⟩
  rw [hafter, ← hbefore.2]
  decide +kernel

end Store

end RecordStore
