import RecordStore.Proofs.Filter.Check
import RecordStore.Proofs.Store.Assignment
import RecordStore.Proofs.Store.SameRecords

/-!
# Commands with names that are no field's

A search, a deletion, and an update whose payload is accepted ask the same of a filter before they look
at any record: that no name in it is lost (`Filter.check`). They are refused for the first lost name, and
no record makes them blame a name once the check has passed. So whether they blame a name, and which, can
be told from the fields of the type and the filter alone (`lost_names_refused`). That holds for types
without records as well.
-/

namespace RecordStore

open RecordStore.Text

/-! ### Filters of statements -/

namespace Statement

variable {line type : String} {statement : Statement} {filter : Filter} {schema : Schema}

/-- A statement that asks for the records of a type that a filter selects. If it is an update, the
schema accepts its payload. -/
inductive Seeks (schema : Schema) (type : String) (filter : Filter) : Statement → Prop where
  /-- A search. -/
  | search : Seeks schema type filter (.search type (some filter))
  /-- A deletion. -/
  | delete : Seeks schema type filter (.delete type (some filter))
  /-- An update. -/
  | update {values : Entries String Payload} {assignments : List (String × Option Value)}
    (h : schema.coerce values = .ok assignments) :
    Seeks schema type filter (.update type (some filter) values)

theorem exists_ofText_of_readFilter {verb : Verb} {cs rest : List Char}
    (h : readFilter verb cs = .ok (some filter, rest)) : ∃ text, Filter.ofText text = .ok filter := by
  unfold readFilter at h
  split at h
  · split at h
    · cases h
    split at h
    · cases h
    split at h
    · next hfilter =>
      cases h
      exact ⟨_, hfilter⟩
    · cases h
  · cases h

theorem exists_ofText_of_readSelection {verb : Verb} {cs : List Char}
    (h : readSelection verb cs = .ok (type, some filter)) :
    ∃ text, Filter.ofText text = .ok filter := by
  obtain ⟨⟨name, rest⟩, -, h⟩ := bind_eq_ok.1 h
  obtain ⟨⟨read, behind⟩, hread, h⟩ := bind_eq_ok.1 h
  dsimp only at h
  split at h
  · cases h
  · cases h
    exact exists_ofText_of_readFilter hread

/-- The filter that a line gives has been read from a text. -/
theorem Seeks.exists_ofText (h : statement.Seeks schema type filter)
    (hread : ofText line = .ok statement) : ∃ text, Filter.ofText text = .ok filter := by
  unfold ofText at hread
  dsimp only at hread
  split at hread
  · cases hread
  split at hread
  · next verb _ =>
    cases verb with
    | create =>
      obtain ⟨_, -, hread⟩ := bind_eq_ok.1 hread
      obtain ⟨_, -, hread⟩ := bind_eq_ok.1 hread
      dsimp only at hread
      split at hread
      · cases hread
      obtain ⟨_, -, hread⟩ := bind_eq_ok.1 hread
      cases hread
      cases h
    | insert =>
      obtain ⟨_, -, hread⟩ := bind_eq_ok.1 hread
      obtain ⟨_, -, hread⟩ := bind_eq_ok.1 hread
      cases hread
      cases h
    | update =>
      obtain ⟨_, -, hread⟩ := bind_eq_ok.1 hread
      obtain ⟨⟨read, rest⟩, hfilter, hread⟩ := bind_eq_ok.1 hread
      obtain ⟨values, -, hread⟩ := bind_eq_ok.1 hread
      cases hread
      cases h
      exact exists_ofText_of_readFilter hfilter
    | delete | search =>
      obtain ⟨⟨name, read⟩, hselection, hread⟩ := bind_eq_ok.1 hread
      cases hread
      cases h
      exact exists_ofText_of_readSelection hselection
  · cases hread

end Statement

/-- A schema accepts what can be coerced. -/
theorem Schema.accepts_of_coerce {schema : Schema} {values : Entries String Payload}
    {assignments : List (String × Option Value)} (h : schema.coerce values = .ok assignments) :
    schema.Accepts values := by
  rw [accepts_iff]
  by_contra hrefused
  obtain ⟨fault, hfault⟩ := Option.ne_none_iff_exists'.1 hrefused
  cases (coerce_of_refusal hfault).symm.trans h

namespace Store

variable {α : Type} {store : Store} {table : Table} {line type name : String} {filter : Filter}
  {statement : Statement}

/-! ### Blame -/

/-- The result is a refusal that reads as if the name were lost. -/
def Blames (result : Except Fault α) (name : String) : Prop :=
  ∃ cause, result = .error (.filter cause) ∧ cause.Blames name

theorem not_blames_ok (a : α) : ¬ Blames (.ok a : Except Fault α) name := fun ⟨_, hok, _⟩ ↦ nomatch hok

/-- A refusal that has nothing to do with the filter blames no name. -/
theorem not_blames_of_category {fault : Fault} (h : fault.category ≠ .filter) :
    ¬ Blames (.error fault : Except Fault α) name := by
  rintro ⟨cause, hfault, -⟩
  cases hfault
  exact h rfl

/-- Who is blamed for a refusal does not depend on what the result would have been. -/
theorem blames_error_congr {β : Type} (fault : Fault) :
    Blames (.error fault : Except Fault α) name ↔ Blames (.error fault : Except Fault β) name := by
  constructor
  all_goals
    rintro ⟨cause, hfault, hblames⟩
    cases hfault
    exact ⟨cause, rfl, hblames⟩

theorem blames_map_iff {β : Type} {result : Except Fault α} (f : α → β) :
    Blames (result.map f) name ↔ Blames result name := by
  cases result with
  | ok a => exact iff_of_false (not_blames_ok _) (not_blames_ok _)
  | error fault => exact blames_error_congr fault

/-- A filter is blamed for the first name that is lost. -/
theorem blames_admitFilter_iff {schema : Schema} :
    Blames (schema.admitFilter (some filter)) name ↔ filter.FirstLost schema name := by
  rw [Schema.admitFilter]
  cases hcheck : filter.check schema with
  | ok =>
    refine iff_of_false (not_blames_ok _) fun h ↦ ?_
    have herror := Filter.check_eq_error_iff.2 ⟨name, h, rfl⟩
    cases hcheck.symm.trans herror
  | error cause =>
    obtain ⟨lost, hlost, rfl⟩ := Filter.check_eq_error_iff.1 hcheck
    constructor
    · rintro ⟨_, hcause, hblames⟩
      cases hcause
      rwa [← FilterError.blames_unknownField_iff.1 hblames]
    · intro h
      have herror := Filter.check_eq_error_iff.2 ⟨name, h, rfl⟩
      exact ⟨_, congrArg (Except.mapError Fault.filter) (hcheck.symm.trans herror), rfl⟩

/-- **Once a filter is admitted**, asking the records whether they meet it blames no name. -/
theorem not_blames_of_matching (hstore : Sound store) (hfound : store.table? type = some table)
    {text : String} (htext : Filter.ofText text = .ok filter)
    (hadmitted : table.schema.admitFilter (some filter) = .ok ()) {fault : Fault}
    (hmatching : table.matching (.ofFilter (some filter)) = .error fault) :
    ¬ Blames (.error fault : Except Fault α) name := by
  have hsound := hstore.sound _ table (hstore.table?_eq_some_iff.1 hfound)
  have hcheck : filter.check table.schema = .ok () := by
    rw [Schema.admitFilter] at hadmitted
    cases hcheck : filter.check table.schema with
    | ok => rfl
    | error cause =>
      rw [hcheck] at hadmitted
      cases hadmitted
  rintro ⟨cause, hfault, hblames⟩
  cases hfault
  obtain ⟨record, hrecord, hmet⟩ := Table.exists_record_of_matchRecords hmatching
  rw [Condition.ofFilter] at hmet
  cases hevaluate : filter.evaluate table.schema record with
  | ok met =>
    rw [hevaluate] at hmet
    cases hmet
  | error found =>
    rw [hevaluate] at hmet
    cases hmet
    refine Filter.not_blames_of_evaluate htext hcheck (fun field hfield ↦ ?_) hevaluate name hblames
    obtain ⟨value, hvalue, -⟩ := (hsound.fits record hrecord).exists_value hfield
    rw [hvalue]
    rfl

/-- **A search blames the first name that is lost**, or else none. -/
theorem blames_select_iff (hstore : Sound store) (hfound : store.table? type = some table)
    {text : String} (htext : Filter.ofText text = .ok filter) :
    Blames (store.select type (some filter)) name ↔ filter.FirstLost table.schema name := by
  have htable : store.table type = .ok table := by rw [Store.table, hfound]
  rw [← blames_admitFilter_iff, select, htable]
  show Blames (table.schema.admitFilter (some filter) >>= _) name ↔ _
  cases hadmitted : table.schema.admitFilter (some filter) with
  | error fault => exact blames_error_congr fault
  | ok =>
    refine iff_of_false ?_ (not_blames_ok _)
    show ¬ Blames (table.find (.ofFilter (some filter)) >>= _) name
    rw [Table.find]
    cases hmatching : table.matching (.ofFilter (some filter)) with
    | error fault => exact not_blames_of_matching hstore hfound htext hadmitted hmatching
    | ok mask => exact not_blames_ok _

/-- An update with an accepted payload blames the first name that is lost, or else none. -/
theorem blames_update_iff (hstore : Sound store) (hfound : store.table? type = some table)
    {text : String} (htext : Filter.ofText text = .ok filter) {values : Entries String Payload}
    (hvalues : table.schema.Accepts values) :
    Blames ((apply (.update type (some filter) values)).perform store).2 name ↔
      filter.FirstLost table.schema name := by
  rw [← blames_admitFilter_iff, perform_update hstore hfound hvalues]
  cases hadmitted : table.schema.admitFilter (some filter) with
  | error fault => exact blames_error_congr fault
  | ok =>
    refine iff_of_false ?_ (not_blames_ok _)
    dsimp only
    cases hmatching : table.matching (.ofFilter (some filter)) with
    | error fault => exact not_blames_of_matching hstore hfound htext hadmitted hmatching
    | ok mask =>
      dsimp only
      split
      · exact not_blames_ok _
      split
      · next fault hbroken =>
        obtain ⟨change, -, hfault⟩ := List.exists_of_findSome?_eq_some hbroken
        refine not_blames_of_category ?_
        rw [Table.category_of_broken? hfault]
        exact nofun
      · exact not_blames_ok _

/-- What a line blames that asks for the records of a type. -/
theorem blames_step_iff (hstore : Sound store) (hfound : store.table? type = some table)
    (hread : Statement.ofText line = .ok statement)
    (hseeks : statement.Seeks table.schema type filter) :
    Blames (step store line).2 name ↔ filter.FirstLost table.schema name := by
  obtain ⟨text, htext⟩ := hseeks.exists_ofText hread
  cases hseeks with
  | search =>
    rw [step_search hread, blames_map_iff]
    exact blames_select_iff hstore hfound htext
  | delete =>
    rw [result_delete hread, blames_map_iff]
    exact blames_select_iff hstore hfound htext
  | update hcoerce =>
    rw [step_eq_perform hread]
    exact blames_update_iff hstore hfound htext (Schema.accepts_of_coerce hcoerce)

/-- **Lost names are found by the check, and by nothing else.** A filter passes the check of a schema if
each of its comparisons that has a name in it has that of a field, and otherwise it is refused for the
leftmost name of the first comparison that has not. A filter from a text that has passed blames no name,
whatever values a record has in the fields. So it depends on the filter and on the fields of the type
alone, and on no record, whether a search, a query, a deletion, or an update with an accepted payload
blames a name, and which. -/
theorem lost_names_refused (schema : Schema) (filter : Filter) :
    (filter.check schema = .ok () ↔
      ∀ c ∈ filter.comparisons, c.names ≠ [] → ∃ name ∈ c.names, canonical name ∈ schema.keys) ∧
    (∀ cause, filter.check schema = .error cause ↔
      ∃ name, filter.FirstLost schema name ∧ cause = .unknownField name) ∧
    (∀ text, Filter.ofText text = .ok filter → filter.check schema = .ok () → ∀ record : Record,
      (∀ field ∈ schema.fields, (record.value? field.key).isSome = true) →
      ∀ cause, filter.evaluate schema record = .error cause → ∀ name, ¬ cause.Blames name) ∧
    ∀ calls type table line statement, (after calls).table? type = some table →
      table.schema = schema → Statement.ofText line = .ok statement →
      statement.Seeks schema type filter → ∀ name,
        (Blames (step (after calls) line).2 name ↔ filter.FirstLost schema name) ∧
        (statement = .search type (some filter) →
          (Blames (query (after calls) line) name ↔ filter.FirstLost schema name)) := by
  refine ⟨Filter.check_eq_ok_iff, fun cause ↦ Filter.check_eq_error_iff,
    fun text htext hcheck record hrecord cause ↦ Filter.not_blames_of_evaluate htext hcheck hrecord, ?_⟩
  rintro calls type table line statement hfound rfl hread hseeks name
  refine ⟨blames_step_iff (sound_after calls) hfound hread hseeks, ?_⟩
  rintro rfl
  obtain ⟨text, htext⟩ := hseeks.exists_ofText hread
  rw [query_eq hread, blames_map_iff]
  exact blames_select_iff (sound_after calls) hfound htext

/-- A filter in which `subject` is lost behind `or`, and `TITLE` and `plain` are not. -/
def addressed : Filter :=
  .or (.comparison (.name "TITLE") .equal (.name "plain"))
    (.comparison (.name "subject") .notEqual (.name "sender"))

/-- A deletion blames the lost name, although the first comparison holds of the first note. -/
theorem lost_names_refused_addressed :
    addressed.check noteTable.schema = .error (.unknownField "subject") ∧
      Blames (step (after notes) "delete NOTE (TITLE = plain or subject != sender)").2 "subject" := by
  have hcheck : addressed.check noteTable.schema = .error (.unknownField "subject") := by
    decide +kernel
  have hfound : (after notes).table? "NOTE" = some noteTable := by decide +kernel
  have hread : Statement.ofText "delete NOTE (TITLE = plain or subject != sender)" =
      .ok (.delete "NOTE" (some addressed)) := by
    have hname : Statement.CanNameType "NOTE" := by decide +kernel
    have hwhole : Statement.readWhole .delete (some "TITLE = plain or subject != sender") =
        .ok (some addressed) := by decide +kernel
    have hline := @Statement.ofText_deleteLine "NOTE" (some "TITLE = plain or subject != sender") hname
    rwa [hwhole] at hline
  obtain ⟨-, hrefused, -, hcommands⟩ := lost_names_refused noteTable.schema addressed
  obtain ⟨_, hlost, hsame⟩ := (hrefused _).1 hcheck
  cases hsame
  exact ⟨hcheck, (hcommands notes "NOTE" noteTable _ _ hfound rfl hread .delete "subject").1.2 hlost⟩

end Store

end RecordStore
