import Mathlib.Data.List.Sort
import RecordStore.Proofs.Command.Written
import RecordStore.Proofs.Store.SameRecords

/-!
# Commands for different types

A command reads and writes one table, that of the type that it names, and whether there is one. So two
commands for different types may change places: each gives the result that it would have given first,
and the store is the same in the end (`independent_after`).

What a command is confined to is said of actions, and by a set of names (`Confined`): its result and
what it makes of the named tables depend on these tables alone, and the other tables are left as they
are. A line that cannot be read is confined to no names at all, so it needs no treatment of its own.
That two confined actions commute is then a matter of looking up one type after another (`perform_comm`);
it takes the order in which a sound store lists its tables to make one store of two with the same
tables (`Sound.ext`).
-/

namespace RecordStore.Store

open RecordStore.Text
open RecordStore.Action (Atomic)

variable {store other : Store} {type : String} {α β : Type}

/-! ### Stores with the same tables -/

theorem Sound.subset_of_table?_eq (h : Sound store) (hother : Sound other)
    (hsame : ∀ type, store.table? type = other.table? type) : store.tables ⊆ other.tables := by
  rintro ⟨key, table⟩ hmem
  obtain rfl := h.named key table hmem
  rw [← hother.table?_eq_some_iff, ← hsame, h.table?_eq_some_iff]
  exact hmem

/-- **A sound store is what it has for each type.** -/
theorem Sound.ext (h : Sound store) (hother : Sound other)
    (hsame : ∀ type, store.table? type = other.table? type) : store = other := by
  let before (e f : String × Table) : Prop := e.1 < f.1
  have hirrefl : Std.Irrefl before := ⟨fun e ↦ String.lt_irrefl e.1⟩
  have hantisymm : Std.Antisymm before :=
    ⟨fun e f hef hfe ↦ absurd (String.lt_trans hef hfe) (String.lt_irrefl e.1)⟩
  have hrising : ∀ {s : Store}, Sound s → s.tables.Pairwise before :=
    fun hs ↦ List.pairwise_map.1 hs.rising
  have htables : store.tables = other.tables :=
    List.Subset.antisymm_of_pairwise (hrising h) (hrising hother)
      (h.subset_of_table?_eq hother hsame) (hother.subset_of_table?_eq h fun type ↦ (hsame type).symm)
  rw [← show (⟨store.tables⟩ : Store) = store from rfl, htables]

/-! ### Actions that concern some types only -/

/-- The action looks at the tables of the named types only, and leaves the other tables alone. -/
structure Confined (names : String → Prop) (action : Action Store α) : Prop where
  /-- Other types are left alone. -/
  others : ∀ store type, ¬ names type → (action.perform store).1.table? type = store.table? type
  /-- The result depends on the tables of the named types. -/
  result : ∀ {store other}, (∀ type, names type → store.table? type = other.table? type) →
    (action.perform store).2 = (action.perform other).2
  /-- What becomes of the named types depends on their tables. -/
  named : ∀ {store other}, (∀ type, names type → store.table? type = other.table? type) →
    ∀ type, names type →
      (action.perform store).1.table? type = (action.perform other).1.table? type

/-- Does the type go by this name? -/
def NameOf (type name : String) : Prop := canonical name = canonical type

variable {names names' : String → Prop}

theorem Confined.map {action : Action Store α} (h : Confined names action) (f : α → β) :
    Confined names (action >>= fun a ↦ pure (f a)) where
  others store type hother := by
    rw [Action.perform_map]
    exact h.others store type hother
  result hsame := by
    rw [Action.perform_map, Action.perform_map, h.result hsame]
  named hsame := by
    rw [Action.perform_map, Action.perform_map]
    exact h.named hsame

theorem Confined.check_bind (check : Except Fault α) {rest : α → Action Store β}
    (h : ∀ a, check = .ok a → Confined names (rest a)) :
    Confined names (liftExcept check >>= rest) := by
  cases hcheck : check with
  | error fault =>
    constructor
    case others => exact fun _ _ _ ↦ rfl
    case result => exact fun _ ↦ rfl
    case named => exact fun hsame type htype ↦ hsame type htype
  | ok a => exact h a hcheck

theorem confined_within (type : String) (action : Action Table α) :
    Confined (NameOf type) (within type action) where
  others store name hother := by
    rw [perform_within]
    cases store.table? type with
    | none => rfl
    | some table => exact table?_set_of_ne store hother _
  result {store other} hsame := by
    rw [perform_within, perform_within, hsame type rfl]
    cases other.table? type <;> rfl
  named {store other} hsame name hname := by
    have htype := hsame type rfl
    rw [perform_within, perform_within, htype]
    cases other.table? type with
    | none => exact hsame name hname
    | some table => exact (table?_set_self store hname _).trans (table?_set_self other hname _).symm

theorem confined_createType (name : String) (fields : List Field) :
    Confined (NameOf name) (createType name fields) where
  others store type hother := by
    rw [perform_createType]
    split
    · rfl
    split
    · rfl
    split
    · rfl
    · exact table?_set_of_ne store hother _
  result {store other} hsame := by
    rw [perform_createType, perform_createType, hsame name rfl]
    split
    · rfl
    split
    · rfl
    split <;> rfl
  named {store other} hsame type htype := by
    have hname := hsame name rfl
    rw [perform_createType, perform_createType, hname]
    split
    · exact hsame type htype
    split
    · exact hsame type htype
    split
    · exact hsame type htype
    · exact (table?_set_self store htype _).trans (table?_set_self other htype _).symm

theorem select_congr (h : store.table? type = other.table? type) (filter : Option Filter) :
    store.select type filter = other.select type filter := by
  rw [select, select, Store.table, Store.table, h]

theorem confined_search (type : String) (filter : Option Filter) :
    Confined (NameOf type) (apply (.search type filter)) where
  others store name _ := by rw [perform_search]
  result {store other} hsame := by
    rw [perform_search, perform_search, select_congr (hsame type rfl)]
  named {store other} hsame name hname := by
    rw [perform_search, perform_search]
    exact hsame name hname

/-- **A statement concerns the type that it names.** -/
theorem confined_apply (statement : Statement) :
    Confined (NameOf statement.type) (apply statement) := by
  cases statement with
  | create type fields => exact (confined_createType type fields).map _
  | insert type values => exact confined_within type _
  | update type filter values => exact confined_within type _
  | delete type filter => exact confined_within type _
  | search type filter => exact confined_search type filter

/-- The types that a line of text concerns: that of its statement, by any of its names, or none if
it has no statement. -/
def Concerns (line name : String) : Prop :=
  ∃ statement, Statement.ofText line = .ok statement ∧ NameOf statement.type name

theorem confined_execute (line : String) : Confined (Concerns line) (execute line) := by
  refine Confined.check_bind _ fun statement hread ↦ ?_
  have hconcerns : Concerns line = NameOf statement.type := by
    funext name
    simp [Concerns, hread]
  rw [hconcerns]
  exact confined_apply statement

/-! ### Changing places -/

/-- **Actions that concern different types commute.** -/
theorem perform_comm {first : Action Store α} {second : Action Store β}
    (hfirst : Confined names first) (hsecond : Confined names' second)
    (happly : Atomic Sound first) (happly' : Atomic Sound second)
    (hapart : ∀ type, names type → ¬ names' type) (hstore : Sound store) :
    (second.perform (first.perform store).1).1 = (first.perform (second.perform store).1).1 := by
  have hkept : ∀ type, names type → (second.perform store).1.table? type = store.table? type :=
    fun type htype ↦ hsecond.others store type (hapart type htype)
  have hkept' : ∀ type, names' type → (first.perform store).1.table? type = store.table? type :=
    fun type htype ↦ hfirst.others store type fun h ↦ hapart type h htype
  refine Sound.ext (happly'.perform (happly.perform hstore)) (happly.perform (happly'.perform hstore))
    fun type ↦ ?_
  by_cases htype : names type
  · calc (second.perform (first.perform store).1).1.table? type
        = (first.perform store).1.table? type := hsecond.others _ type (hapart type htype)
      _ = (first.perform (second.perform store).1).1.table? type :=
          (hfirst.named hkept type htype).symm
  by_cases htype' : names' type
  · calc (second.perform (first.perform store).1).1.table? type
        = (second.perform store).1.table? type := hsecond.named hkept' type htype'
      _ = (first.perform (second.perform store).1).1.table? type := (hfirst.others _ type htype).symm
  · rw [hsecond.others _ type htype', hfirst.others _ type htype, hfirst.others _ type htype,
      hsecond.others _ type htype']

/-- **Commands for different types do not interfere.** In any store that calls lead to, two lines that
do not name one type, by any of its names, give the same results in either order, and leave the same
store. A line changes nothing of a type that it does not name; if it cannot be read, it names none. -/
theorem independent_after (calls : List Call) :
    (∀ line line' : String,
      (∀ statement statement', Statement.ofText line = .ok statement →
        Statement.ofText line' = .ok statement' →
          canonical statement.type ≠ canonical statement'.type) →
      (step (step (after calls) line').1 line).2 = (step (after calls) line).2 ∧
      (step (step (after calls) line).1 line').2 = (step (after calls) line').2 ∧
      (step (step (after calls) line).1 line').1 = (step (step (after calls) line').1 line).1) ∧
    ∀ line type : String,
      (∀ statement, Statement.ofText line = .ok statement →
        canonical type ≠ canonical statement.type) →
      (step (after calls) line).1.table? type = (after calls).table? type := by
  refine ⟨fun line line' hapart ↦ ?_, fun line type hother ↦ ?_⟩
  · have hdisjoint : ∀ type, Concerns line type → ¬ Concerns line' type := by
      rintro type ⟨statement, hread, hname⟩ ⟨statement', hread', hname'⟩
      exact hapart statement statement' hread hread' (hname.symm.trans hname')
    have hconfined := confined_execute line
    have hconfined' := confined_execute line'
    refine ⟨hconfined.result fun type htype ↦ ?_, hconfined'.result fun type htype ↦ ?_,
      perform_comm hconfined hconfined' (atomic_execute line) (atomic_execute line') hdisjoint
        (sound_after calls)⟩
    · exact hconfined'.others _ type (hdisjoint type htype)
    · exact hconfined.others _ type fun h ↦ hdisjoint type h htype
  · refine (confined_execute line).others _ type ?_
    rintro ⟨statement, hread, hname⟩
    exact hother statement hread hname

/-- A type that is called `NOTE` in Greek letters, and so is another one than `Note`. -/
def createGreek : String := "create ΝΟΤΕ { title: {} }"

/-- Deletes one of the two notes. -/
def deletePlain : String := "delete note (title = \"plain\")"

/-- Neither line gets in the way of the other, though their types look alike. -/
theorem independent_greek :
    (step (step (after notes) createGreek).1 deletePlain).2 = .ok "1 instances deleted." ∧
      (step (step (after notes) deletePlain).1 createGreek).2 =
        .ok "Type 'ΝΟΤΕ' created (1 fields)." ∧
      (step (step (after notes) deletePlain).1 createGreek).1 =
        (step (step (after notes) createGreek).1 deletePlain).1 := by
  have hapart : ∀ statement statement', Statement.ofText deletePlain = .ok statement →
      Statement.ofText createGreek = .ok statement' →
        canonical statement.type ≠ canonical statement'.type := by
    intro statement statement' hread hread'
    have htypes : (Statement.ofText deletePlain).map (canonical ·.type) = .ok "note" ∧
        (Statement.ofText createGreek).map (canonical ·.type) = .ok "νοτε" := by
      decide +kernel
    rw [hread, hread'] at htypes
    have hnote : canonical statement.type = "note" := Except.ok.inj htypes.1
    have hgreek : canonical statement'.type = "νοτε" := Except.ok.inj htypes.2
    rw [hnote, hgreek]
    decide
  obtain ⟨hdelete, hcreate, hsame⟩ := (independent_after notes).1 deletePlain createGreek hapart
  refine ⟨?_, ?_, hsame⟩
  · rw [hdelete]
    decide +kernel
  · rw [hcreate]
    decide +kernel

end RecordStore.Store
