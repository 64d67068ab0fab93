import RecordStore.Proofs.Store.Insertion
import RecordStore.Proofs.Table.Scan
import RecordStore.Proofs.Value.Literal

/-!
# Unique fields and filters

Whether a value is taken is asked in two places that share nothing: the insertion looks for the
payload's value in the index of a unique field, and a filter compares what each record holds with
its literal. They agree (`duplicate_iff_found`). The insertion of a literal is refused as a duplicate
if and only if the search for that literal returned a record just before, and if it is not refused,
the search returns the new record and no other just after.

Both sides are brought to `Value.same`. The index stands for a look at all records, since the table
is sound (`Table.firstTaken?_newValues`); a comparison says of a record whether it holds the same
value, since the record holds one of the field's kind (`Filter.evaluate_literal`); and the literal is
one value to both (`Literal.exists_value`).
-/

namespace RecordStore

open RecordStore.Text RecordStore.Number
open Statement (CanNameType)
open Token (CanName)

namespace Table

variable {table : Table} {field : Field}

/-! ### What a comparison with a literal says -/

/-- A comparison with a literal has a meaning for every record of a sound table. -/
theorem condition_literal (h : Sound table) (hfield : field ∈ table.schema.fields)
    (hkind : field.kind ≠ .texts) {operand : Operand} {value : Value}
    (hvalue : field.kind.ofLiteral operand.literal = .ok value)
    (hvaluekind : value.kind = field.kind) {record : Record} (hrecord : record ∈ table.records) :
    Condition.ofFilter (some (.comparison (.name field.name) .equal operand)) table.schema record =
      .ok (record.holds field.key value) := by
  have hfound : table.schema.field? field.name = some field :=
    (Schema.field?_eq_some_iff h.nodup).2 ⟨hfield, rfl⟩
  obtain ⟨held, hheld, hheldkind⟩ := (h.fits record hrecord).exists_value hfield
  rw [Condition.ofFilter, Filter.evaluate_literal hfound hkind hheld hheldkind hvalue hvaluekind,
    Record.holds, hheld]
  rfl

/-! ### What the check of an insertion says -/

variable {values : List (String × Payload)}

/-- Where all other unique fields are given new values, one field decides. -/
theorem firstHeld?_of_fresh (hfield : field ∈ table.schema.fields) (hunique : field.unique = true)
    (hfresh : ∀ other ∈ table.schema.fields, other.unique = true → other ≠ field →
      ∀ record ∈ table.records, record.holds other.key (other.newValue values) = false) :
    table.firstHeld? values =
      if table.records.any (Record.holds field.key (field.newValue values)) then some field
      else none := by
  have honly : ∀ other, table.firstHeld? values = some other → other = field := by
    intro other hfind
    have hcheck := List.find?_some hfind
    rw [Bool.and_eq_true, List.any_eq_true] at hcheck
    obtain ⟨hotherunique, record, hrecord, hholds⟩ := hcheck
    by_contra hne
    rw [hfresh other (List.mem_of_find?_eq_some hfind) hotherunique hne record hrecord] at hholds
    cases hholds
  split
  · next hany =>
    cases hfind : table.firstHeld? values with
    | none =>
      have hcheck := List.find?_eq_none.1 hfind field hfield
      rw [hunique, hany] at hcheck
      exact absurd rfl hcheck
    | some other => rw [honly other hfind]
  · next hnone =>
    cases hfind : table.firstHeld? values with
    | none => rfl
    | some other =>
      have hcheck := List.find?_some hfind
      rw [honly other hfind, Bool.and_eq_true] at hcheck
      exact absurd hcheck.2 hnone

theorem filter_holds_eq_nil_iff {records : List Record} {key : String} {value : Value} :
    records.filter (Record.holds key value) = [] ↔
      ¬ records.any (Record.holds key value) = true := by
  simp [List.filter_eq_nil_iff]

/-- A new record is the only one with its value, if there was none before. -/
theorem filter_append_newValues (hnodup : table.schema.keys.Nodup)
    (hfield : field ∈ table.schema.fields) {value : Value} (hnew : field.newValue values = value)
    (hnone : ¬ table.records.any (Record.holds field.key value) = true) :
    (table.append (table.schema.newValues values)).records.filter (Record.holds field.key value) =
      [⟨table.nextId, table.schema.newValues values⟩] := by
  have hholds :
      Record.holds field.key value ⟨table.nextId, table.schema.newValues values⟩ = true := by
    rw [Record.holds, Record.value?, Schema.lookup_newValues hnodup hfield, hnew]
    exact Value.same_refl value
  rw [append, List.filter_append, filter_holds_eq_nil_iff.2 hnone, List.nil_append,
    List.filter_cons, if_pos hholds, List.filter_nil]

end Table

namespace Store

/-- A payload gives a literal to a field, and is acceptable to the table in all other respects. -/
structure Gives (table : Table) (field : Field) (literal : Literal)
    (values : List (String × Payload)) : Prop where
  /-- The literal is the last value for the field; the other entries are of fields and kinds that
  the type has. -/
  given : ∃ before name after, values = before ++ (name, literal.payload) :: after ∧
    canonical name = field.key ∧ (∀ e ∈ after, canonical e.1 = field.key → e.2 = .null) ∧
    table.schema.Accepts (before ++ after)
  /-- All required fields are given values. -/
  required : ∀ other ∈ table.schema.fields, other.required = true →
    (other.given? values).isSome = true
  /-- The values of the other unique fields are new. -/
  fresh : ∀ other ∈ table.schema.fields, other.unique = true → other ≠ field →
    ∀ record ∈ table.records, record.holds other.key (other.newValue values) = false

variable {store : Store} {table : Table} {field : Field} {literal : Literal} {type line : String}
  {values : List (String × Payload)} {value : Value}

theorem Gives.given?_eq (h : Gives table field literal values)
    (hvalue : field.kind.ofPayload literal.payload = .ok value) :
    field.given? values = some value := by
  obtain ⟨before, name, after, rfl, hname, hafter, -⟩ := h.given
  exact Field.given?_of_last hname hvalue hafter

theorem Gives.newValue_eq (h : Gives table field literal values)
    (hvalue : field.kind.ofPayload literal.payload = .ok value) :
    field.newValue values = value := by
  rw [Field.newValue, h.given?_eq hvalue, Option.getD_some]

theorem Gives.accepts (h : Gives table field literal values) (hnodup : table.schema.keys.Nodup)
    (hfield : field ∈ table.schema.fields)
    (hvalue : field.kind.ofPayload literal.payload = .ok value) : table.schema.Accepts values := by
  obtain ⟨before, name, after, rfl, hname, -, hothers⟩ := h.given
  intro e he
  rcases List.mem_append.1 he with he | he
  · exact hothers e (List.mem_append_left _ he)
  rcases List.mem_cons.1 he with rfl | he
  · exact ⟨field, (Schema.field?_eq_some_iff hnodup).2 ⟨hfield, hname.symm⟩, .inr ⟨value, hvalue⟩⟩
  · exact hothers e (List.mem_append_right _ he)

/-- What an insertion of a literal comes to: it is refused if a record holds the value. -/
theorem step_of_gives (hstore : Sound store) (hfound : store.table? type = some table)
    (hread : Statement.ofText line = .ok (.insert type values))
    (hfield : field ∈ table.schema.fields) (hunique : field.unique = true) (h : Gives table field literal values)
    (hvalue : field.kind.ofPayload literal.payload = .ok value) :
    step store line =
      if table.records.any (Record.holds field.key value) then
        (store, .error (.duplicateValue field.name))
      else (store.set type (table.append (table.schema.newValues values)),
        .ok ("Instance inserted into '" ++ table.name ++ "'.")) := by
  have hsound := hstore.sound _ table (hstore.table?_eq_some_iff.1 hfound)
  have hmissing : table.schema.firstUngiven? values = none := by
    refine List.find?_eq_none.2 fun other hother hcheck ↦ ?_
    rw [Bool.and_eq_true] at hcheck
    have hsome := h.required other hother hcheck.1
    rw [← Option.not_isNone, hcheck.2] at hsome
    cases hsome
  rw [step_eq_perform hread, perform_insert hstore hfound (h.accepts hsound.nodup hfield hvalue),
    hmissing, Table.firstHeld?_of_fresh hfield hunique h.fresh, h.newValue_eq hvalue]
  dsimp only
  by_cases hany : table.records.any (Record.holds field.key value) = true
  · rw [if_pos hany, if_pos hany]
  · rw [if_neg hany, if_neg hany]

theorem selects_literal (hstore : Sound store) (hfound : store.table? type = some table)
    (hfield : field ∈ table.schema.fields) (hkind : field.kind ≠ .texts)
    (hvalue : field.kind.ofLiteral literal.operand.literal = .ok value)
    (hvaluekind : value.kind = field.kind) :
    Selects store type (some (.comparison (.name field.name) .equal literal.operand)) table
      (Record.holds field.key value) := by
  have hsound := hstore.sound _ table (hstore.table?_eq_some_iff.1 hfound)
  refine ⟨hfound, ?_, fun record hrecord ↦
    Table.condition_literal hsound hfield hkind hvalue hvaluekind hrecord⟩
  exact admitFilter_comparison ((Schema.field?_eq_some_iff hsound.nodup).2 ⟨hfield, rfl⟩) _ _

/-- **Unique fields and filters agree on what is equal.** Inserting a literal into a unique field is
refused for that field if and only if the search for the literal returned a record just before. Else
it is not refused at all, and the same search returns just after it the new record and no other. -/
theorem duplicate_iff_found (calls : List Call) {type : String} {table : Table}
    (hfound : (after calls).table? type = some table) (hname : CanNameType type) {field : Field}
    (hfield : field ∈ table.schema.fields) (hunique : field.unique = true)
    (hkind : field.kind ≠ .texts) (hcan : CanName field.name) {literal : Literal}
    (hcoerces : (∃ value, field.kind.ofLiteral literal.operand.literal = .ok value) ∨
      ∃ value, field.kind.ofPayload literal.payload = .ok value)
    {values : List (String × Payload)} (hvalues : Gives table field literal values) {line : String}
    (hline : Statement.ofText line = .ok (.insert type values)) {search : String}
    (hsearch : Statement.Written
      (.search type (some (.comparison (.name field.name) .equal literal.operand))) search) :
    ∃ rows, query (after calls) search = .ok ⟨table.schema.fields.map (·.name), rows⟩ ∧
      ((step (after calls) line).2 = .error (.duplicateValue field.name) ↔ rows ≠ []) ∧
      (rows = [] → ∃ message, (step (after calls) line).2 = .ok message) ∧
      ∀ message, (step (after calls) line).2 = .ok message →
        query (step (after calls) line).1 search =
          .ok ⟨table.schema.fields.map (·.name),
            [table.schema.fields.map fun field ↦ field.newValue values]⟩ := by
  have hstore := sound_after calls
  have hsound := hstore.sound _ table (hstore.table?_eq_some_iff.1 hfound)
  obtain ⟨value, hliteral, hpayload⟩ := Literal.exists_value hkind hcoerces
  have hvaluekind := Kind.kind_of_ofPayload hpayload
  have hread : Statement.ofText search = _ :=
    Statement.ofText_of_written (.search hname fun f hf ↦ by
      cases hf
      exact Filter.legal_comparison hcan .equal literal) hsearch
  have hselects := selects_literal hstore hfound hfield hkind hliteral hvaluekind
  have hstep := step_of_gives hstore hfound hline hfield hunique hvalues hpayload
  refine ⟨_, query_of_selects hselects hread, ?_⟩
  by_cases hany : table.records.any (Record.holds field.key value) = true
  · have hrows : (table.records.filter (Record.holds field.key value)).map
        (rowOf table.schema) ≠ [] := by
      rw [Ne, List.map_eq_nil_iff, Table.filter_holds_eq_nil_iff]
      exact not_not_intro hany
    rw [hstep, if_pos hany]
    exact ⟨⟨fun _ ↦ hrows, fun _ ↦ rfl⟩, fun hnone ↦ absurd hnone hrows,
      fun message hmessage ↦ by cases hmessage⟩
  · have hleft := (atomic_execute line).perform hstore
    rw [show (execute line).perform (after calls) = step (after calls) line from rfl, hstep,
      if_neg hany] at hleft
    have hselectsAfter := selects_literal hleft (table?_set_self (after calls) rfl _) hfield hkind
      hliteral hvaluekind
    rw [hstep, if_neg hany, Table.filter_holds_eq_nil_iff.2 hany]
    refine ⟨⟨fun hrefused ↦ (by cases hrefused), fun hne ↦ absurd rfl hne⟩, fun _ ↦ ⟨_, rfl⟩,
      fun message _ ↦ ?_⟩
    have hfilter := Table.filter_append_newValues hsound.nodup hfield (hvalues.newValue_eq hpayload)
      hany
    rw [query_of_selects hselectsAfter hread, hfilter, List.map_singleton]
    show Except.ok (Rows.mk _ [rowOf table.schema _]) = _
    rw [rowOf_newValues hsound.nodup]
    rfl

/-- The field of a level. -/
def levelField : Field := ⟨"level", .double, true, true⟩

/-- Levels, of which the negative zero is taken. -/
def levels : List Call :=
  [.createType "Gauge" [levelField], .change "gauge" (.insert [("level", .double .negativeZero)])]

/-- The table of the levels. -/
def levelTable : Table where
  name := "Gauge"
  schema := ⟨[levelField]⟩
  records := [⟨0, [("level", .double .negativeZero)]⟩]
  indexes := [("level", [(.double .negativeZero, 0)])]
  nextId := 1

/-- Another zero. -/
def zeroLiteral : Literal := .number "00.0" (by decide +kernel)

theorem duplicate_zero :
    (step (after levels) "insert Gauge \x7b\"LEVEL\":00.0\x7d").2 =
        .error (.duplicateValue "level") ∧
      query (after levels) "search Gauge (level = 00.0)" =
        .ok ⟨["level"], [[.double .negativeZero]]⟩ := by
  have hfound : (after levels).table? "Gauge" = some levelTable := by decide +kernel
  have hfield : levelField ∈ levelTable.schema.fields := by decide
  have hgives : Gives levelTable levelField zeroLiteral [("LEVEL", zeroLiteral.payload)] :=
    ⟨⟨[], "LEVEL", [], rfl, by decide +kernel, nofun, nofun⟩, by decide +kernel, by decide +kernel⟩
  have hline : Statement.ofText "insert Gauge \x7b\"LEVEL\":00.0\x7d" =
      .ok (.insert "Gauge" [("LEVEL", zeroLiteral.payload)]) := by
    have hlegal : (Payload.object [("LEVEL", zeroLiteral.payload)]).Legal :=
      .object (by decide) fun e he ↦ by
        rw [List.mem_singleton.1 he]
        exact .number (legal_of_isNumeral (by decide +kernel))
    have hwritten := Statement.written_spaced (.insert "Gauge" [("LEVEL", zeroLiteral.payload)])
      .none (.some (.object (.one (padded_self _) (.number _) (padded_self _))))
    refine Statement.ofText_of_written (.insert (by decide) hlegal) ?_
    refine cast (congrArg (Statement.Written _) ?_) hwritten
    decide +kernel
  have hsearch : Statement.Written (.search "Gauge"
      (some (.comparison (.name levelField.name) .equal zeroLiteral.operand)))
      "search Gauge (level = 00.0)" := by
    have hwritten := Statement.written_spaced (.search "Gauge"
      (some (.comparison (.name levelField.name) .equal zeroLiteral.operand)))
      (.some (.cons blanks_nil (fun c hc ↦ by cases hc; decide)
        (.cons blanks_space (by show some ' ' ≠ some '='; decide)
          (.cons blanks_space (fun c hc ↦ by cases hc) (.nil blanks_nil))))) .none
    refine cast (congrArg (Statement.Written _) ?_) hwritten
    decide +kernel
  have hcan : CanName levelField.name := ⟨by decide +kernel, by decide +kernel⟩
  obtain ⟨rows, hquery, hiff, -⟩ := duplicate_iff_found levels hfound (by decide) hfield rfl
    (by decide) hcan (.inl ⟨.double .zero, by decide +kernel⟩) hgives hline hsearch
  have hrows : query (after levels) "search Gauge (level = 00.0)" =
      .ok ⟨["level"], [[.double .negativeZero]]⟩ := by decide +kernel
  refine ⟨hiff.2 ?_, hrows⟩
  rw [hrows, Except.ok.injEq, Rows.mk.injEq] at hquery
  rw [← hquery.2]
  exact List.cons_ne_nil _ _

end Store

end RecordStore
