import RecordStore.Proofs.Filter.Relation
import RecordStore.Proofs.Filter.Sides
import RecordStore.Proofs.Store.SameRecords
import RecordStore.Proofs.Store.Uniqueness

/-!
# Names of fields in filters

A type may have a field with any name that is not blank, and a filter finds fields by words that are
names to it. So there are fields that no filter can name. For most of them a search in which the name
stands in front of an operator and a literal is refused, and for fields that can be named it returns
the records whose value is related to the literal, and no others (`found_or_refused`).

The exceptions are names that mean something else to a filter. A field may be named `2024` or
`"title`, or even `a = 1 or a`, and the search succeeds then, but it is not about the field
(`query_misread`). `Filter.OnlyNames` leaves these out, and nothing more.
-/

namespace RecordStore

open RecordStore.Text
open RecordStore.Filter (OnlyNames sidesText)
open Statement (CanNameType selectionText readWhole)
open Token (CanName)

namespace Record

/-- What the record holds in the field is related to the literal as the operator says. -/
def Stands (field : Field) (op : Operator) (literal : Operand) (record : Record) : Prop :=
  ∃ held value, record.value? field.key = some held ∧
    field.kind.ofLiteral literal.literal = .ok value ∧ op.Relates held value

instance (field : Field) (op : Operator) (literal : Operand) :
    DecidablePred (Stands field op literal) := fun record ↦
  match hheld : record.value? field.key, hvalue : field.kind.ofLiteral literal.literal with
  | some held, .ok value => decidable_of_iff (op.Relates held value)
      ⟨fun h ↦ ⟨held, value, hheld, hvalue, h⟩, fun ⟨held', value', hheld', hvalue', h⟩ ↦ by
        cases hheld.symm.trans hheld'
        cases hvalue.symm.trans hvalue'
        exact h⟩
  | none, _ => isFalse fun ⟨_, _, hheld', _⟩ ↦ by cases hheld.symm.trans hheld'
  | some _, .error _ => isFalse fun ⟨_, _, _, hvalue', _⟩ ↦ by cases hvalue.symm.trans hvalue'

end Record

namespace Store

variable {store : Store} {table : Table} {field : Field} {op : Operator} {literal : Literal}
  {type name line : String} {rows : Rows}

/-- The comparison of the field with the literal has a meaning for all records, if there are any. -/
def Comparable (table : Table) (field : Field) (literal : Literal) : Prop :=
  table.records = [] ∨
    field.kind ≠ .texts ∧ ∃ value, field.kind.ofLiteral literal.operand.literal = .ok value

theorem selects_stands (hstore : Sound store) (hfound : store.table? type = some table)
    (hfield : field ∈ table.schema.fields) (hname : canonical name = field.key)
    (hop : op ≠ .includes) (hcomparable : Comparable table field literal) :
    Selects store type (some (.comparison (.name name) op literal.operand)) table
      fun record ↦ decide (record.Stands field op literal.operand) := by
  have hsound := hstore.sound _ table (hstore.table?_eq_some_iff.1 hfound)
  have hnamed := (Schema.field?_eq_some_iff hsound.nodup).2 ⟨hfield, hname.symm⟩
  refine ⟨hfound, admitFilter_comparison hnamed _ _, fun record hrecord ↦ ?_⟩
  obtain hnone | ⟨hkind, value, hliteral⟩ := hcomparable
  · rw [hnone] at hrecord
    cases hrecord
  obtain ⟨_, hsame, hpayload⟩ := Literal.exists_value hkind (.inl ⟨value, hliteral⟩)
  cases hliteral.symm.trans hsame
  obtain ⟨held, hheld, hheldkind⟩ := (hsound.fits record hrecord).exists_value hfield
  have hstands : record.Stands field op literal.operand ↔ op.Relates held value := by
    refine ⟨fun ⟨_, _, hheld', hliteral', h⟩ ↦ ?_, fun h ↦ ⟨held, value, hheld, hliteral, h⟩⟩
    cases hheld.symm.trans hheld'
    cases hliteral.symm.trans hliteral'
    exact h
  rw [Condition.ofFilter, Filter.evaluate_relates hnamed hop hkind hheld hheldkind hliteral
    (Kind.kind_of_ofPayload hpayload), decide_eq_decide.2 hstands]
  rfl

/-- **A search that compares a field with a literal** returns the records that stand to it as the
operator says, and it is refused where this has no meaning. -/
theorem query_comparison_iff (hstore : Sound store) (hfound : store.table? type = some table)
    (hfield : field ∈ table.schema.fields) (hname : canonical name = field.key)
    (hop : op ≠ .includes)
    (hread : Statement.ofText line =
      .ok (.search type (some (.comparison (.name name) op literal.operand)))) :
    query store line = .ok rows ↔ Comparable table field literal ∧
      rows = ⟨table.schema.fields.map (·.name),
        (table.records.filter (·.Stands field op literal.operand)).map (rowOf table.schema)⟩ := by
  have hcomparable (h : query store line = .ok rows) : Comparable table field literal := by
    obtain ⟨found, met, hselects⟩ := exists_selects_of_query hread h
    cases hfound.symm.trans hselects.found
    have hsound := hstore.sound _ table (hstore.table?_eq_some_iff.1 hfound)
    cases hrecords : table.records with
    | nil => exact .inl hrecords
    | cons record rest =>
      refine .inr ?_
      have hmet := hselects.meets record (hrecords ▸ List.mem_cons_self)
      rw [Condition.ofFilter] at hmet
      cases hevaluate : Filter.evaluate table.schema record
          (.comparison (.name name) op literal.operand) with
      | error cause =>
        rw [hevaluate] at hmet
        cases hmet
      | ok b =>
        have hnamed := (Schema.field?_eq_some_iff hsound.nodup).2 ⟨hfield, hname.symm⟩
        exact Filter.exists_value_of_evaluate hnamed hop hevaluate
  constructor
  · intro h
    have hquery := query_of_selects
      (selects_stands hstore hfound hfield hname hop (hcomparable h)) hread
    exact ⟨hcomparable h, Except.ok.inj (h.symm.trans hquery)⟩
  · rintro ⟨h, rfl⟩
    exact query_of_selects (selects_stands hstore hfound hfield hname hop h) hread

/-! ### Names in front of an operator -/

theorem not_blanks_sidesText (left : String) (op : Operator) (right : String) :
    ¬ Blanks (sidesText left op right).toList := by
  intro h
  have hany : op.symbol.toList.any (!isBlank ·) = true := by cases op <;> decide
  obtain ⟨c, hc, hblank⟩ := List.any_eq_true.1 hany
  have hmem : c ∈ (sidesText left op right).toList := by
    simp [sidesText, String.toList_append, hc]
  rw [h c hmem] at hblank
  cases hblank

/-- A search with such a name in front of an operator is read as a comparison of the name, or not
at all. -/
theorem ofText_sides_cases (hname : CanNameType type) (honly : OnlyNames name) (op : Operator)
    {text : String} (htext : Token.ofText text = .ok [literal.operand.token, .finish]) :
    (CanName (trim name) ∧ Statement.ofText (selectionText .search type (sidesText name op text)) =
      .ok (.search type (some (.comparison (.name (trim name)) op literal.operand)))) ∨
    ¬ CanName (trim name) ∧ ∃ fault,
      Statement.ofText (selectionText .search type (sidesText name op text)) = .error fault := by
  have hsearch : Statement.ofText (selectionText .search type (sidesText name op text)) = _ :=
    @Statement.ofText_searchLine type (some (sidesText name op text)) hname
  by_cases hcan : CanName (trim name)
  · have hfilter := (Filter.ofText_sides_iff honly op htext).2 ⟨hcan, rfl⟩
    have hwhole := Statement.readWhole_of_ofText .search hfilter fun w hw ↦ by
      simp only [Filter.operands, List.mem_cons, List.not_mem_nil, or_false, reduceCtorEq,
        false_or] at hw
      cases literal <;> cases hw
    rw [hwhole] at hsearch
    exact .inl ⟨hcan, hsearch⟩
  · refine .inr ⟨hcan, ?_⟩
    cases hwhole : readWhole .search (some (sidesText name op text)) with
    | error fault =>
      rw [hwhole] at hsearch
      exact ⟨fault, hsearch⟩
    | ok filter =>
      obtain ⟨f, -, hfilter⟩ :=
        Statement.exists_filter_of_readWhole hwhole (not_blanks_sidesText name op text)
      exact absurd ((Filter.ofText_sides_iff honly op htext).1 hfilter).1 hcan

/-- **No name of a field is taken for a literal**, unless it is one or begins with a filter of its
own. In any store that calls lead to, a search with the name of a field in front of an operator and a
literal returns the records whose value is related so to the literal's, if a filter can name the field
and the literal has a value there. Else it is refused. -/
theorem found_or_refused (calls : List Call) {type : String} {table : Table}
    (hfound : (after calls).table? type = some table) (hname : CanNameType type) {field : Field}
    (hfield : field ∈ table.schema.fields) (honly : OnlyNames field.name) {op : Operator}
    (hop : op ≠ .includes) {literal : Literal} {text : String}
    (htext : Token.ofText text = .ok [literal.operand.token, .finish]) :
    (CanName (trim field.name) ∧ Comparable table field literal →
      query (after calls) (selectionText .search type (sidesText field.name op text)) =
        .ok ⟨table.schema.fields.map (·.name),
          (table.records.filter (·.Stands field op literal.operand)).map (rowOf table.schema)⟩) ∧
    (¬ (CanName (trim field.name) ∧ Comparable table field literal) → ∃ fault,
      query (after calls) (selectionText .search type (sidesText field.name op text)) =
        .error fault) := by
  have hkey : canonical (trim field.name) = field.key := canonical_trim field.name
  obtain ⟨hcan, hread⟩ | ⟨hcannot, fault, hread⟩ := ofText_sides_cases hname honly op htext
  · have hiff := fun rows ↦
      @query_comparison_iff _ _ _ _ _ _ _ _ rows (sound_after calls) hfound hfield hkey hop hread
    refine ⟨fun h ↦ (hiff _).2 ⟨h.2, rfl⟩, fun h ↦ ?_⟩
    cases hquery : query (after calls) (selectionText .search type (sidesText field.name op text)) with
    | ok rows => exact absurd ⟨hcan, ((hiff rows).1 hquery).1⟩ h
    | error fault => exact ⟨fault, rfl⟩
  · exact ⟨fun h ↦ absurd h.1 hcannot, fun _ ↦ ⟨fault, query_of_unreadable hread⟩⟩

/-- A field that can be named, with blanks around its name. -/
def heightField : Field := ⟨" Height ", .int, false, false⟩

/-- A field that cannot be named. -/
def widthField : Field := ⟨"full width", .int, false, false⟩

/-- Two boards. -/
def boards : List Call :=
  [.createType "Board" [heightField, widthField],
   .change "board" (.insert [("height", .int 3), ("full width", .int 9)]),
   .change "board" (.insert [("height", .int 5), ("full width", .int 9)])]

/-- The table of the boards. -/
def boardTable : Table := ((after boards).table? "board").getD (.empty "Board")

/-- A three. -/
def threeLiteral : Literal := .number "03" (by decide +kernel)

/-- A nine. -/
def nineLiteral : Literal := .number "9" (by decide +kernel)

/-- One board is at most three high, and none can be found by its full width. -/
theorem found_boards :
    query (after boards) (selectionText .search "board" (sidesText " Height " .lessEqual "03")) =
        .ok ⟨[" Height ", "full width"], [[.int 3, .int 9]]⟩ ∧
      ∃ fault, query (after boards)
        (selectionText .search "board" (sidesText "full width" .equal "9")) = .error fault := by
  have hfound : (after boards).table? "board" = some boardTable := by decide +kernel
  have hname : CanNameType "board" := by decide +kernel
  have hheight : heightField ∈ boardTable.schema.fields := by decide +kernel
  have hwidth : widthField ∈ boardTable.schema.fields := by decide +kernel
  have hcan : CanName (trim " Height ") := ⟨by decide +kernel, by decide +kernel⟩
  have hcannot : ¬ CanName (trim "full width") := fun h ↦ absurd h.1 (by decide +kernel)
  have hwords : Token.ofText "full width" = .ok ([.name "full", .name "width"] ++ [.finish]) := by
    decide +kernel
  have honly : OnlyNames "full width" :=
    Filter.onlyNames_of_several hwords (by decide) (by decide) (by decide)
  obtain ⟨hrows, -⟩ := @found_or_refused boards "board" boardTable hfound hname heightField hheight
    (Filter.onlyNames_of_canName hcan) .lessEqual (by decide) threeLiteral "03"
    (by decide +kernel)
  obtain ⟨-, hrefused⟩ := @found_or_refused boards "board" boardTable hfound hname widthField hwidth
    honly .equal (by decide) nineLiteral "9" (by decide +kernel)
  have hvalue : heightField.kind.ofLiteral threeLiteral.operand.literal = .ok (.int 3) := by
    decide +kernel
  refine ⟨(hrows ⟨hcan, .inr ⟨by decide, .int 3, hvalue⟩⟩).trans ?_, hrefused fun h ↦ hcannot h.1⟩
  decide +kernel

/-! ### Names that mean something else -/

/-- A field whose name is a numeral. -/
def numeralField : Field := ⟨"2024", .int, false, false⟩

/-- A field whose name is a comparison of another field, and `or`, and that field. -/
def joinedField : Field := ⟨"n = 1 or n", .int, false, false⟩

/-- A field whose name begins a quoted text. -/
def openField : Field := ⟨"\"n", .text, false, false⟩

/-- A type with fields of such names, and a record. -/
def misnamed : List Call :=
  [.createType "Log" [⟨"n", .int, false, false⟩, numeralField, joinedField, openField],
   .change "log" (.insert
    [("n", .int 1), ("2024", .int 7), ("n = 1 or n", .int 5), ("\"n", .text "= \"")])]

/-- The table of the type. -/
def misnamedTable : Table := ((after misnamed).table? "log").getD (.empty "Log")

/-- The record in it. -/
def misnamedRecord : Record where
  id := 0
  values := [("n", .int 1), ("2024", .int 7), ("n = 1 or n", .int 5), ("\"n", .text "= \"")]

/-- Two searches return the record although it does not stand to the literal as they say, and one
does not although it does. -/
theorem query_misread :
    CanNameType "log" ∧ ∃ table record, (after misnamed).table? "log" = some table ∧
      table.records = [record] ∧
      (numeralField ∈ table.schema.fields ∧ ¬ record.Stands numeralField .equal (.number "2024") ∧
        query (after misnamed)
            (selectionText .search "log" (sidesText numeralField.name .equal "2024")) =
          .ok ⟨table.schema.fields.map (·.name), [rowOf table.schema record]⟩) ∧
      (joinedField ∈ table.schema.fields ∧ ¬ record.Stands joinedField .equal (.number "9") ∧
        query (after misnamed)
            (selectionText .search "log" (sidesText joinedField.name .equal "9")) =
          .ok ⟨table.schema.fields.map (·.name), [rowOf table.schema record]⟩) ∧
      (openField ∈ table.schema.fields ∧ record.Stands openField .equal (.quoted "= \"") ∧
        query (after misnamed)
            (selectionText .search "log" (sidesText openField.name .equal "\"= \\\"\"")) =
          .ok ⟨table.schema.fields.map (·.name), []⟩) := by
  refine ⟨by decide +kernel, misnamedTable, misnamedRecord, by decide +kernel, by decide +kernel,
    ⟨?_, ?_, ?_⟩, ⟨?_, ?_, ?_⟩, ?_, ?_, ?_⟩
  all_goals decide +kernel

end Store

end RecordStore
