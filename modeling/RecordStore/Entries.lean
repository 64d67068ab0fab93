/-!
# Entries

Pairs of a key and a value, in the order of first mention. Looking up takes the first pair with the
key, and `put` keeps a key where it was first mentioned, with the value given last, so entries that
were only ever written with `put` hold no key twice.
-/

namespace RecordStore

/-- Keys with their values, in the order of first mention. -/
abbrev Entries (κ ν : Type) := List (κ × ν)

namespace Entries

variable {κ ν : Type} [BEq κ]

/-- Gives a key its value: in its place if it is present, else at the end. -/
def put (key : κ) (value : ν) : Entries κ ν → Entries κ ν
  | [] => [(key, value)]
  | (k, v) :: rest => if key == k then (k, value) :: rest else (k, v) :: put key value rest

/-- The entries that a list of assignments leaves when they are made one after another. -/
def ofList (assignments : List (κ × ν)) : Entries κ ν :=
  assignments.foldl (fun entries (key, value) ↦ put key value entries) []

/-- The keys, in the order of first mention. -/
def keys (entries : Entries κ ν) : List κ := entries.map (·.1)

theorem lookup_put_self [LawfulBEq κ] (key : κ) (value : ν) (entries : Entries κ ν) :
    (put key value entries).lookup key = some value := by
  induction entries with
  | nil => simp [put]
  | cons e rest ih =>
    obtain ⟨k, v⟩ := e
    unfold put
    split
    · next h => simp [List.lookup_cons, h]
    · next h => simpa [List.lookup_cons, h] using ih

theorem lookup_put_of_ne [LawfulBEq κ] {key other : κ} (h : other ≠ key) (value : ν)
    (entries : Entries κ ν) : (put key value entries).lookup other = entries.lookup other := by
  induction entries with
  | nil => simp [put, List.lookup_cons, beq_false_of_ne h]
  | cons e rest ih =>
    obtain ⟨k, v⟩ := e
    unfold put
    split
    · next hk =>
      have : other ≠ k := fun ho ↦ h (ho.trans (eq_of_beq hk).symm)
      simp [List.lookup_cons, beq_false_of_ne this]
    · simp [List.lookup_cons, ih]

end Entries

end RecordStore
