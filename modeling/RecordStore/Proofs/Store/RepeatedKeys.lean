import RecordStore.Proofs.Store.Assignment
import RecordStore.Proofs.Store.Insertion
import RecordStore.Proofs.Store.Respelling
import RecordStore.Proofs.Table.Order

/-!
# Keys that are given twice

A payload may name a field several times, in different spellings, and the last entry counts. So an
entry that a later one replaces could as well be left out (`same_of_replaced`), with three provisos.

* Every entry is looked at, also one that is replaced: if it names no field, or is of the wrong
  kind, and no entry before it is refused, then the statement is refused for it.
* To an insertion a null is no entry at all, and replaces none but other nulls (`supersedes`). To an
  update it is one that resets the field, and replaces any other.
* An update checks the fields in the order in which they are first mentioned. Leaving out the first
  mention of a field may therefore change which of several broken constraints is reported; it does
  not change whether one is.

For an insertion the proof is that each field is given the same value (`given?_kept`). For an update
the fields are assigned the same values in another order (`lookup_changesOf_kept`), which does not
matter to the table that they lead to, and of the fields that break a constraint each would do so
alone (`FirstBroken`).
-/

namespace RecordStore

open RecordStore.Text

/-! ### Entries that are replaced -/

namespace Payload

/-- Is the payload a null? -/
def isNull : Payload → Bool
  | null => true
  | _ => false

/-- Do two entries name one field, in any spelling? -/
def sameField (later entry : String × Payload) : Bool := canonical later.1 == canonical entry.1

/-- Does a later entry for a field stand in the place of another? A null does not stand in the place
of a value. -/
def supersedes (later entry : String × Payload) : Bool :=
  sameField later entry && (!later.2.isNull || entry.2.isNull)

/-- The entries of a payload that meet a condition on them and on those that follow. -/
def sift (met : String × Payload → List (String × Payload) → Bool) :
    List (String × Payload) → List (String × Payload)
  | [] => []
  | entry :: later => if met entry later then entry :: sift met later else sift met later

/-- The entries that no later one replaces. -/
def kept (replaces : String × Payload → String × Payload → Bool)
    (values : List (String × Payload)) : List (String × Payload) :=
  sift (fun entry later ↦ !later.any (replaces · entry)) values

/-- The entries that a later one replaces. -/
def replaced (replaces : String × Payload → String × Payload → Bool)
    (values : List (String × Payload)) : List (String × Payload) :=
  sift (fun entry later ↦ later.any (replaces · entry)) values

variable {α : Type} {replaces : String × Payload → String × Payload → Bool}
  {values : List (String × Payload)} {entry : String × Payload}

theorem isNull_iff {payload : Payload} : payload.isNull = true ↔ payload = .null := by
  cases payload <;> simp [isNull]

theorem sift_sublist (met : String × Payload → List (String × Payload) → Bool)
    (values : List (String × Payload)) : List.Sublist (sift met values) values := by
  induction values with
  | nil => exact List.Sublist.refl []
  | cons entry later ih =>
    rw [sift]
    split
    · exact ih.cons_cons entry
    · exact ih.cons entry

theorem kept_cons (entry : String × Payload) (later : List (String × Payload)) :
    kept replaces (entry :: later) =
      if later.any (replaces · entry) then kept replaces later
      else entry :: kept replaces later := by
  rw [kept, sift]
  cases later.any (replaces · entry) <;> rfl

/-- What comes of the first entry of which something comes, comes of one that is kept, or else of
one that is replaced. -/
theorem findSome?_kept (f : String × Payload → Option α) (values : List (String × Payload)) :
    (kept replaces values).findSome? f = values.findSome? f ∨
      ∃ entry ∈ replaced replaces values, ∃ a, f entry = some a ∧ values.findSome? f = some a := by
  induction values with
  | nil => exact .inl rfl
  | cons entry later ih =>
    rw [kept_cons, replaced, sift, List.findSome?_cons]
    cases hentry : f entry with
    | some a =>
      split
      · exact .inr ⟨entry, List.mem_cons_self, a, hentry, rfl⟩
      · exact .inl (by rw [List.findSome?_cons, hentry])
    | none =>
      split
      · exact ih.imp_right fun ⟨e, he, hfirst⟩ ↦ ⟨e, List.mem_cons_of_mem _ he, hfirst⟩
      · rw [List.findSome?_cons, hentry]
        exact ih

/-- What comes of the last entry of which something comes, comes of the entries that are kept, if
something comes of each that replaces one. -/
theorem findSome?_reverse_kept {f : String × Payload → Option α}
    (h : ∀ entry ∈ values, ∀ later ∈ values, replaces later entry = true →
      (f entry).isSome → (f later).isSome) :
    (kept replaces values).reverse.findSome? f = values.reverse.findSome? f := by
  induction values with
  | nil => rfl
  | cons entry later ih =>
    have hlater := ih fun e he l hl ↦ h e (List.mem_cons_of_mem _ he) l (List.mem_cons_of_mem _ hl)
    rw [kept_cons, List.reverse_cons, List.findSome?_append]
    split
    · next hany =>
      rw [hlater]
      cases hentry : f entry with
      | none => rw [List.findSome?_singleton, hentry, Option.or_none]
      | some a =>
        -- something comes of what stands in the place of the entry, so of one of the later ones
        obtain ⟨replacing, hmem, hreplaces⟩ := List.any_eq_true.1 hany
        have hsome : (later.reverse.findSome? f).isSome := by
          rw [List.findSome?_isSome_iff]
          refine ⟨replacing, List.mem_reverse.2 hmem, ?_⟩
          exact h entry List.mem_cons_self replacing (List.mem_cons_of_mem _ hmem) hreplaces
            (by rw [hentry]; rfl)
        rw [Option.or_of_isSome hsome]
    · rw [List.reverse_cons, List.findSome?_append, hlater]

/-- The last entry for a field is kept. -/
theorem last?_kept (h : ∀ later entry, replaces later entry = true → sameField later entry = true)
    (key : String) (values : List (String × Payload)) :
    last? key (kept replaces values) = last? key values := by
  rw [last?, last?, List.find?_eq_findSome?_guard, List.find?_eq_findSome?_guard]
  refine findSome?_reverse_kept fun entry _ later _ hreplaces hentry ↦ ?_
  have hsame : canonical later.1 = canonical entry.1 := beq_iff_eq.1 (h later entry hreplaces)
  simpa [hsame] using hentry

theorem sameField_of_supersedes {later entry : String × Payload}
    (h : supersedes later entry = true) : sameField later entry = true :=
  ((Bool.and_eq_true _ _).mp h).1

end Payload

open Payload (kept replaced supersedes sameField last? mentioned)

variable {schema : Schema} {field : Field} {values : List (String × Payload)}

/-! ### What is given and assigned -/

theorem Schema.Accepts.kept (h : schema.Accepts values)
    (replaces : String × Payload → String × Payload → Bool) :
    schema.Accepts (Payload.kept replaces values) :=
  fun e he ↦ h e ((Payload.sift_sublist _ values).subset he)

/-- **Each field is given the same**, whether entries that are replaced are left out or not. -/
theorem Field.given?_kept (hnodup : schema.keys.Nodup) (hfield : field ∈ schema.fields)
    (h : schema.Accepts values) :
    field.given? (kept supersedes values) = field.given? values := by
  refine Payload.findSome?_reverse_kept fun entry _ later hlater hsupersedes hentry ↦ ?_
  obtain ⟨value, hvalue⟩ := Option.isSome_iff_exists.1 hentry
  obtain ⟨hname, hvalue⟩ := taken?_eq_some_iff.1 hvalue
  obtain ⟨hsame, hnull⟩ := (Bool.and_eq_true _ _).mp hsupersedes
  have hkey : canonical later.1 = field.key := (beq_iff_eq.1 hsame).trans hname
  obtain ⟨other, hfound, haccepted⟩ := h later hlater
  obtain ⟨hother, hotherkey⟩ := Schema.field?_eq_some hfound
  obtain rfl := Schema.eq_of_key_eq hnodup hother hfield (hotherkey.trans hkey)
  rcases haccepted with hlaternull | ⟨w, hw⟩
  · -- a null replaces nothing but nulls, which give nothing
    rw [hlaternull, Payload.isNull, Bool.not_true, Bool.false_or, Payload.isNull_iff] at hnull
    rw [hnull, Kind.ofPayload_null] at hvalue
    cases hvalue
  · exact Option.isSome_iff_exists.2 ⟨w, taken?_eq_some_iff.2 ⟨hkey, hw⟩⟩

namespace Schema

/-- Leaving out what is replaced leaves each assignment as it was. -/
theorem lookup_changesOf_kept (h : schema.Accepts values) (key : String) :
    (schema.changesOf (kept sameField values)).lookup key =
      (schema.changesOf values).lookup key := by
  rw [lookup_changesOf h, lookup_changesOf (h.kept sameField),
    Payload.last?_kept fun _ _ hsame ↦ hsame]

end Schema

namespace Store

open Table (picked broken? toWrite)

variable {store : Store} {table : Table} {type : String} {filter : Option Filter}

/-! ### Entries that are refused -/

variable {replaces : String × Payload → String × Payload → Bool}

/-- If it makes a difference to the first refused entry that some are left out, then it is one of
those. -/
theorem exists_replaced_of_refusal?_ne
    (h : store.refusal? type values ≠ store.refusal? type (kept replaces values)) :
    ∃ entry ∈ replaced replaces values, ∃ fault,
      (store.schema type).refusal? entry = some fault ∧
      store.refusal? type values = some fault := by
  cases hfound : store.table? type with
  | none =>
    rw [refusal?, refusal?, hfound] at h
    exact absurd rfl h
  | some table =>
    rw [schema_eq hfound]
    rw [refusal?, refusal?, hfound, Option.bind_some, Option.bind_some] at h
    rw [refusal?, hfound, Option.bind_some]
    exact (Payload.findSome?_kept table.schema.refusal? values).resolve_left h.symm

/-- Where an entry names no field, the one that is kept for it names none either. -/
theorem exists_refusal_of_unknown {fault : Fault}
    (hfirst : store.refusal? type values = some fault)
    (hreplaces : ∀ later entry, replaces later entry = true → sameField later entry = true)
    {entry : String × Payload} (hmem : entry ∈ replaced replaces values)
    (hunknown : (store.schema type).field? entry.1 = none) :
    ∃ fault, store.refusal? type (kept replaces values) = some fault := by
  obtain ⟨table, hfound, -⟩ := Option.bind_eq_some_iff.1 hfirst
  have hlast : (last? (canonical entry.1) values).isSome := by
    rw [last?, List.find?_isSome]
    have hentry := (Payload.sift_sublist _ values).subset hmem
    exact ⟨entry, List.mem_reverse.2 hentry, beq_self_eq_true _⟩
  obtain ⟨last, hlast⟩ := Option.isSome_iff_exists.1 hlast
  rw [← Payload.last?_kept hreplaces] at hlast
  obtain ⟨hkept, hname⟩ := Payload.last?_eq_some hlast
  rw [schema_eq hfound, Schema.field?, ← hname, ← Schema.field?] at hunknown
  rw [← Option.ne_none_iff_exists', refusal?, hfound, Option.bind_some, Ne,
    List.findSome?_eq_none_iff]
  intro hall
  have hrefused := hall last hkept
  rw [Schema.refusal?_of_unknown hunknown] at hrefused
  cases hrefused

/-- A statement that is refused for the first refused entry, is refused for one that could be left
out, if that makes a difference; and without it still, if it names no field. -/
theorem exists_refused_of_refusal?_ne {statement : List (String × Payload) → Statement}
    (hstatement : ∀ values fault, store.refusal? type values = some fault →
      (apply (statement values)).perform store = (store, .error fault))
    (hreplaces : ∀ later entry, replaces later entry = true → sameField later entry = true)
    (h : store.refusal? type values ≠ store.refusal? type (kept replaces values)) :
    ∃ entry ∈ replaced replaces values, ∃ fault,
      (store.schema type).refusal? entry = some fault ∧
      (apply (statement values)).perform store = (store, .error fault) ∧
      ((store.schema type).field? entry.1 = none →
        ∃ fault, (apply (statement (kept replaces values))).perform store =
          (store, .error fault)) := by
  obtain ⟨entry, hentry, fault, hfault, hfirst⟩ := exists_replaced_of_refusal?_ne h
  refine ⟨entry, hentry, fault, hfault, hstatement values fault hfirst, fun hunknown ↦ ?_⟩
  obtain ⟨fault', hkept⟩ := exists_refusal_of_unknown hfirst hreplaces hentry hunknown
  exact ⟨fault', hstatement _ fault' hkept⟩

/-! ### Insertions -/

/-- An insertion whose payload is accepted comes to the same without the entries that are
replaced. -/
theorem perform_insert_kept (hstore : Sound store) (hfound : store.table? type = some table)
    (haccepts : table.schema.Accepts values) :
    (apply (.insert type values)).perform store =
      (apply (.insert type (kept supersedes values))).perform store := by
  have hsound := hstore.sound _ table (hstore.table?_eq_some_iff.1 hfound)
  have hgiven (field : Field) (hfield : field ∈ table.schema.fields) :
      field.given? (kept supersedes values) = field.given? values :=
    Field.given?_kept hsound.nodup hfield haccepts
  have hungiven : table.schema.firstUngiven? (kept supersedes values) =
      table.schema.firstUngiven? values :=
    List.find?_congr fun field hfield ↦ by rw [hgiven field hfield]
  have hheld : table.firstHeld? (kept supersedes values) = table.firstHeld? values :=
    List.find?_congr fun field hfield ↦ by rw [Field.newValue, hgiven field hfield, Field.newValue]
  have hvalues : table.schema.newValues (kept supersedes values) = table.schema.newValues values :=
    List.map_congr_left fun field hfield ↦ by
      rw [Field.newValue, hgiven field hfield, Field.newValue]
  rw [perform_insert hstore hfound haccepts,
    perform_insert hstore hfound (haccepts.kept supersedes), hungiven, hheld, hvalues]

/-- **Leaving out what is replaced** makes no difference to an insertion, unless it makes one to the
first entry that is refused. -/
theorem perform_insert_of_replaced (hstore : Sound store)
    (h : store.refusal? type values = store.refusal? type (kept supersedes values)) :
    (apply (.insert type values)).perform store =
      (apply (.insert type (kept supersedes values))).perform store := by
  cases hfirst : store.refusal? type values with
  | some fault =>
    rw [perform_insert_of_refusal? hstore hfirst,
      perform_insert_of_refusal? hstore (h.symm.trans hfirst)]
  | none =>
    cases hfound : store.table? type with
    | none => rw [apply, apply, perform_within, perform_within, hfound]
    | some table => exact perform_insert_kept hstore hfound (accepts_of_refusal? hfirst hfound)

/-! ### Updates -/

/-- The two updates do the same, and either return the same or report each the first of several
constraints that they break. -/
def SameUpdate (store : Store) (type : String) (filter : Option Filter)
    (values others : List (String × Payload)) : Prop :=
  ((apply (.update type filter values)).perform store).1 =
      ((apply (.update type filter others)).perform store).1 ∧
    (((apply (.update type filter values)).perform store).2 =
        ((apply (.update type filter others)).perform store).2 ∨
      FirstBroken store type filter values ∧ FirstBroken store type filter others)

/-- An update whose payload is accepted comes to the same without the entries that are replaced. -/
theorem sameUpdate_kept (hstore : Sound store) (hfound : store.table? type = some table)
    (haccepts : table.schema.Accepts values) :
    SameUpdate store type filter values (kept sameField values) := by
  have haccepts' := haccepts.kept sameField
  rw [SameUpdate, perform_update hstore hfound haccepts, perform_update hstore hfound haccepts']
  cases hadmitted : table.schema.admitFilter filter with
  | error fault => exact ⟨rfl, .inl rfl⟩
  | ok _ =>
  cases hmatching : table.matching (.ofFilter filter) with
  | error fault => exact ⟨rfl, .inl rfl⟩
  | ok mask =>
  dsimp only
  by_cases hsome : (picked table.records mask).isEmpty
  · rw [if_pos hsome, if_pos hsome]
    exact ⟨rfl, .inl rfl⟩
  rw [if_neg hsome, if_neg hsome]
  have hsound := hstore.sound _ table (hstore.table?_eq_some_iff.1 hfound)
  have hchanges := haccepts.assigns hsound.nodup
  have hchanges' := haccepts'.assigns hsound.nodup
  have hlookup (key : String) := (Schema.lookup_changesOf_kept haccepts key).symm
  have hmem := Table.mem_congr hchanges.nodup hchanges'.nodup hlookup
  cases hbroken : (table.schema.changesOf values).findSome?
      (broken? table.indexes ((picked table.records mask).map (·.id))) with
  | some fault =>
    cases hbroken' : (table.schema.changesOf (kept sameField values)).findSome?
        (broken? table.indexes ((picked table.records mask).map (·.id))) with
    | some fault' =>
      exact ⟨rfl, .inr
        ⟨firstBroken_of_findSome? hstore hfound haccepts hadmitted hmatching hsome hbroken,
        firstBroken_of_findSome? hstore hfound haccepts' hadmitted hmatching hsome hbroken'⟩⟩
    | none =>
      -- the change that breaks a constraint is among those of the shorter payload too
      obtain ⟨change, hchange, hfault⟩ := List.exists_of_findSome?_eq_some hbroken
      rw [List.findSome?_eq_none_iff.1 hbroken' change ((hmem change).1 hchange)] at hfault
      cases hfault
  | none =>
    have hbroken' : (table.schema.changesOf (kept sameField values)).findSome?
        (broken? table.indexes ((picked table.records mask).map (·.id))) = none := by
      rw [List.findSome?_eq_none_iff] at hbroken ⊢
      exact fun change hchange ↦ hbroken change ((hmem change).2 hchange)
    rw [hbroken']
    have hsame : table.rewrite ((table.schema.changesOf values).map toWrite) mask =
        table.rewrite ((table.schema.changesOf (kept sameField values)).map toWrite) mask :=
      Table.rewrite_congr hsound hchanges hchanges' hlookup
        (by rw [Table.writes_eq_findSome?, hbroken]) (by rw [Table.writes_eq_findSome?, hbroken'])
        (by simpa using hsome)
    exact ⟨congrArg (store.set type) hsame, .inl rfl⟩

/-- **Leaving out what is replaced** makes no difference to an update, or only to which of several
broken constraints is reported, unless it makes one to the first entry that is refused. -/
theorem sameUpdate_of_replaced (hstore : Sound store)
    (h : store.refusal? type values = store.refusal? type (kept sameField values)) :
    SameUpdate store type filter values (kept sameField values) := by
  cases hfirst : store.refusal? type values with
  | some fault =>
    rw [SameUpdate, perform_update_of_refusal? hstore hfirst,
      perform_update_of_refusal? hstore (h.symm.trans hfirst)]
    exact ⟨rfl, .inl rfl⟩
  | none =>
    cases hfound : store.table? type with
    | none =>
      rw [SameUpdate, apply, apply, perform_within, perform_within, hfound]
      exact ⟨rfl, .inl rfl⟩
    | some table => exact sameUpdate_kept hstore hfound (accepts_of_refusal? hfirst hfound)

/-! ### Both -/

/-- **An entry that a later one replaces could be left out**, unless it is the first of all entries
that are refused. An insertion comes to the same without such entries. So does an update, but where
several fields break a constraint, each of the two reports the first in its own order. If the first
entry that is refused is one of those, the statement is refused for it; and without it still, if it
names no field. -/
theorem same_of_replaced (calls : List Call) (type : String) (values : List (String × Payload)) :
    let store := after calls
    (store.refusal? type values = store.refusal? type (kept supersedes values) →
      (apply (.insert type values)).perform store =
        (apply (.insert type (kept supersedes values))).perform store) ∧
    (store.refusal? type values ≠ store.refusal? type (kept supersedes values) →
      ∃ entry ∈ replaced supersedes values, ∃ fault,
        (store.schema type).refusal? entry = some fault ∧
        (apply (.insert type values)).perform store = (store, .error fault) ∧
        ((store.schema type).field? entry.1 = none → ∃ fault,
          (apply (.insert type (kept supersedes values))).perform store =
            (store, .error fault))) ∧
    ∀ filter,
      (store.refusal? type values = store.refusal? type (kept sameField values) →
        SameUpdate store type filter values (kept sameField values)) ∧
      (store.refusal? type values ≠ store.refusal? type (kept sameField values) →
        ∃ entry ∈ replaced sameField values, ∃ fault,
          (store.schema type).refusal? entry = some fault ∧
          (apply (.update type filter values)).perform store = (store, .error fault) ∧
          ((store.schema type).field? entry.1 = none → ∃ fault,
            (apply (.update type filter (kept sameField values))).perform store =
              (store, .error fault))) := by
  have hstore := sound_after calls
  refine ⟨perform_insert_of_replaced hstore, fun hne ↦ ?_, fun filter ↦
    ⟨sameUpdate_of_replaced hstore, fun hne ↦ ?_⟩⟩
  · exact exists_refused_of_refusal?_ne (fun _ _ ↦ perform_insert_of_refusal? hstore)
      (fun _ _ ↦ Payload.sameField_of_supersedes) hne
  · exact exists_refused_of_refusal?_ne (fun _ _ ↦ perform_update_of_refusal? hstore)
      (fun _ _ hsame ↦ hsame) hne

/-- Two pairs of numbers. -/
def pairs : List Call :=
  [.createType "Pair" [⟨"a", .int, false, true⟩, ⟨"b", .int, false, true⟩],
   .change "pair" (.insert [("a", .int 1), ("b", .int 1)]),
   .change "pair" (.insert [("a", .int 2), ("b", .int 2)])]

/-- The filter for the second pair. -/
def second : Option Filter := some (.comparison (.name "a") .equal (.number "2"))

/-- A number that is replaced could be left out of an insertion; a text for it is refused; and an
update by which both fields break a constraint does nothing in either form. -/
theorem same_of_replaced_in_pairs :
    (apply (.insert "Pair" [("a", .number "7"), ("A", .number "3")])).perform (after pairs) =
        (apply (.insert "Pair" (kept supersedes [("a", .number "7"), ("A", .number "3")]))).perform
          (after pairs) ∧
      (∃ fault, (apply (.insert "Pair" [("a", .text "x"), ("A", .number "3")])).perform
        (after pairs) = (after pairs, .error fault)) ∧
      SameUpdate (after pairs) "Pair" second
        [("a", .number "1"), ("b", .number "1"), ("A", .number "1")]
        (kept sameField [("a", .number "1"), ("b", .number "1"), ("A", .number "1")]) := by
  have hseven : (after pairs).refusal? "Pair" [("a", .number "7"), ("A", .number "3")] =
      (after pairs).refusal? "Pair"
        (kept supersedes [("a", .number "7"), ("A", .number "3")]) := by decide +kernel
  have htext : (after pairs).refusal? "Pair" [("a", .text "x"), ("A", .number "3")] ≠
      (after pairs).refusal? "Pair"
        (kept supersedes [("a", .text "x"), ("A", .number "3")]) := by decide +kernel
  have hones : (after pairs).refusal? "Pair"
        [("a", .number "1"), ("b", .number "1"), ("A", .number "1")] =
      (after pairs).refusal? "Pair"
        (kept sameField [("a", .number "1"), ("b", .number "1"), ("A", .number "1")]) := by
    decide +kernel
  obtain ⟨-, -, fault, -, hrefused, -⟩ := (same_of_replaced pairs "Pair" _).2.1 htext
  exact ⟨(same_of_replaced pairs "Pair" _).1 hseven, ⟨fault, hrefused⟩,
    ((same_of_replaced pairs "Pair" _).2.2 second).1 hones⟩

/-- Without the provisos it is wrong. An entry that is replaced may be of the wrong kind, or be
replaced by no more than a null, or spell in another way what is no field, or mention a field before
another one. -/
theorem differs_without_replaced :
    -- a text that a number replaces
    ((apply (.insert "Pair" [("a", .text "x"), ("A", .number "3")])).perform (after pairs)).2 =
        .error (.badValue "a" (.coercion (.wrongForm .int "string"))) ∧
    ((apply (.insert "Pair" (kept sameField
        [("a", .text "x"), ("A", .number "3")]))).perform (after pairs)).2 =
      .ok "Instance inserted into 'Pair'." ∧
    -- a number that a null replaces
    ((apply (.insert "Pair" [("a", .number "3"), ("A", .null)])).perform (after pairs)).1 ≠
      ((apply (.insert "Pair" (kept sameField
        [("a", .number "3"), ("A", .null)]))).perform (after pairs)).1 ∧
    -- a name that no field has
    ((apply (.update "Pair" second
        [("c", .number "3"), ("C", .number "3")])).perform (after pairs)).2 =
      .error (.fieldNotFound "c") ∧
    ((apply (.update "Pair" second (kept sameField
        [("c", .number "3"), ("C", .number "3")]))).perform (after pairs)).2 =
      .error (.fieldNotFound "C") ∧
    -- two numbers that another pair holds
    ((apply (.update "Pair" second
        [("a", .number "1"), ("b", .number "1"), ("A", .number "1")])).perform (after pairs)).2 =
      .error (.duplicateValue "a") ∧
    ((apply (.update "Pair" second (kept sameField
        [("a", .number "1"), ("b", .number "1"), ("A", .number "1")]))).perform (after pairs)).2 =
      .error (.duplicateValue "b") := by
  decide +kernel

end Store

end RecordStore
