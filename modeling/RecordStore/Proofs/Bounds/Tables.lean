import RecordStore.Proofs.Bounds.Commands
import RecordStore.Proofs.Table.Mask
import RecordStore.Proofs.Table.Outcomes
import RecordStore.Table.Grid

/-!
# Tables within bounds

A cell is filled up with as many spaces as its width has over the characters that are shown, and these
are never more than the width. A deletion goes by numbers: it takes the records out of the indexes whose
numbers the mask gives, and then asks the mask about each record by its row. The mask has as many places
as there are records, whatever the condition is, so every number is that of a record and every row that
of a place (`deleteWhere_eq`).

With what was said of lines, tokens and filters, nothing in the way of a line to its statement, of a
text into a cell or of a deletion goes out of range (`within_bounds`).
-/

namespace RecordStore.Bounded

/-! ### Cells -/

/-- The text cut off at a width, or filled up to it with spaces, whose number must not be below zero. -/
def cell? (width : Nat) (s : String) : Option String := do
  let shown := s.toList.take width
  let spaces ← minus? width shown.length
  return String.ofList (shown ++ List.replicate spaces ' ')

theorem cell?_eq (width : Nat) (s : String) : cell? width s = some (Table.cell width s) := by
  have hle : (s.toList.take width).length ≤ width := List.length_take_le width s.toList
  rw [cell?, minus?_of_le hle]
  rfl

/-! ### Deletion -/

/-- The numbers of the places at which a mask picks, if its first place has the number `row`. -/
def rowsPicked (row : Nat) : List Bool → List Nat
  | [] => []
  | met :: mask => if met then row :: rowsPicked (row + 1) mask else rowsPicked (row + 1) mask

/-- Takes the records with the given numbers out of the indexes. -/
def unindex? (records : List Record) : List Nat → Indexes → Option Indexes
  | [], indexes => some indexes
  | row :: rows, indexes => do
    let record ← records[row]?
    unindex? records rows (indexes.remove record)

/-- The records that a mask does not pick, where the first record has the number `row`. -/
def retain? (mask : List Bool) : Nat → List Record → Option (List Record)
  | _, [] => some []
  | row, record :: records => do
    let met ← mask[row]?
    let kept ← retain? mask (row + 1) records
    return if met then kept else record :: kept

/-- Removes the records that meet a condition: how many they were, and the table without them. -/
def deleteWhere (condition : Condition) (table : Table) : Bounded Fault (Nat × Table) := do
  let mask ← given (table.matching condition)
  let indexes ← need (unindex? table.records (rowsPicked 0 mask) table.indexes)
  let records ← need (retain? mask 0 table.records)
  return (mask.count true, { table with indexes := indexes, records := records })

section

open Table
open Cursor (Cut)

variable {records : List Record} {mask : List Bool}

theorem length_mask {condition : Condition} {schema : Schema}
    (h : matchRecords condition schema records = .ok mask) : mask.length = records.length := by
  rw [mask_eq_map_meets h, List.length_map]

/-- The numbers that a mask gives are those of records. -/
theorem unindex?_rowsPicked {all : List Record} {row : Nat} (h : Cut all row records)
    (hlength : mask.length = records.length) (indexes : Indexes) :
    unindex? all (rowsPicked row mask) indexes =
      some ((picked records mask).foldl Indexes.remove indexes) := by
  induction records generalizing row mask indexes with
  | nil =>
    rw [List.length_eq_zero_iff.1 hlength]
    rfl
  | cons record records ih =>
    obtain _ | ⟨met, mask⟩ := mask
    · cases hlength
    have hrow : all[row]? = some record := h.getElem?
    have hbehind := ih h.next (Nat.succ.inj hlength)
    cases met with
    | false => exact hbehind indexes
    | true =>
      rw [rowsPicked, if_pos rfl, unindex?, hrow]
      exact hbehind (indexes.remove record)

/-- There is a place in the mask for every row. -/
theorem retain?_spared {all : List Bool} {row : Nat} (h : Cut all row mask)
    (hlength : mask.length = records.length) :
    retain? all row records = some (spared records mask) := by
  induction records generalizing row mask with
  | nil =>
    rw [List.length_eq_zero_iff.1 hlength]
    rfl
  | cons record records ih =>
    obtain _ | ⟨met, mask⟩ := mask
    · cases hlength
    have hrow : all[row]? = some met := h.getElem?
    rw [retain?, hrow, ih h.next (Nat.succ.inj hlength)]
    cases met <;> rfl

theorem length_picked (hlength : mask.length = records.length) :
    (picked records mask).length = mask.count true := by
  induction records generalizing mask with
  | nil =>
    rw [List.length_eq_zero_iff.1 hlength]
    rfl
  | cons record records ih =>
    obtain _ | ⟨met, mask⟩ := mask
    · cases hlength
    have hbehind := ih (Nat.succ.inj hlength)
    cases met with
    | false => rw [picked, hbehind, List.count_cons_of_ne (by decide)]
    | true => rw [picked, List.length_cons, hbehind, List.count_cons_self]

end

/-- **A deletion by numbers** stays within the records and the mask, whatever the condition is. -/
theorem deleteWhere_eq (condition : Condition) (table : Table) :
    deleteWhere condition table =
      given (match (Table.deleteWhere condition).run table with
        | .ok count after => .ok (count, after)
        | .error fault _ => .error fault) := by
  rw [deleteWhere, Table.run_deleteWhere]
  cases hmask : table.matching condition with
  | error fault => rfl
  | ok mask =>
    have hlength := length_mask hmask
    refine (need_bind (unindex?_rowsPicked (.front table.records) hlength table.indexes) _).trans ?_
    refine (need_bind (retain?_spared (.front mask) hlength) _).trans ?_
    rw [← length_picked hlength]
    rfl

/-! ### All together -/

/-- **Nothing goes out of range.** Every line comes to what reading it from the front makes of it, by
the way of positions, numbers of bytes and code points that are computed: each look at a character or a
token finds one, each part of a text is cut between two characters, the first not behind the second, no
number is brought below zero, that of the open parentheses as little as half a code point, and code
points fit into 32 bits. The tokens that a filter is read from end in their only mark of the end. A
cell is filled up with no less than nothing, and a deletion asks its mask about no more rows than it
has, whatever the condition and the table. -/
theorem within_bounds :
    (∀ line, command line = given (Statement.ofText line)) ∧
      (∀ cs tokens, Cursor.readTokens.onAll cs = given (.ok tokens) → Cursor.Ended tokens) ∧
      (∀ width s, cell? width s = some (Table.cell width s)) ∧
      ∀ condition table, deleteWhere condition table =
        given (match (Table.deleteWhere condition).run table with
          | .ok count after => .ok (count, after)
          | .error fault _ => .error fault) := by
  refine ⟨command_eq, fun cs tokens h ↦ ?_, cell?_eq, deleteWhere_eq⟩
  rw [Cursor.readTokens_onAll] at h
  obtain ⟨front, hfront, hreadable⟩ := Token.exists_readable_of_readAll (Option.some.inj h)
  exact ⟨front, hfront, Token.finish_not_mem_of_readable hreadable⟩

end RecordStore.Bounded
