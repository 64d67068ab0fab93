import Mathlib.Data.List.Induction
import Mathlib.Data.List.Nodup
import RecordStore.Entries

/-!
# Entries without repeated keys

Where no key is repeated, looking up a key and being among the entries are one thing
(`lookup_eq_some_iff_mem`), and `put` either replaces a value, which leaves the keys as they are, or
adds an entry at the end (`put_of_not_mem`). Either way no key is repeated afterwards
(`nodup_keys_put`). Of several values put under one key the last is found (`lookup_ofList`), where the
key was first mentioned (`keys_ofList`), and nothing else is to be said of what assignments come to
(`Settles.eq_ofList`).
-/

namespace RecordStore.Entries

variable {κ ν : Type} [BEq κ] [LawfulBEq κ]

omit [BEq κ] [LawfulBEq κ] in
theorem mem_keys {entries : Entries κ ν} {key : κ} :
    key ∈ entries.keys ↔ ∃ value, (key, value) ∈ entries := by
  simp [keys]

theorem mem_of_lookup {entries : Entries κ ν} {key : κ} {value : ν}
    (h : entries.lookup key = some value) : (key, value) ∈ entries := by
  obtain ⟨before, after, rfl, -⟩ := List.lookup_eq_some_iff.1 h
  simp

theorem lookup_of_mem {entries : Entries κ ν} (hnodup : entries.keys.Nodup) {key : κ} {value : ν}
    (h : (key, value) ∈ entries) : entries.lookup key = some value := by
  induction entries with
  | nil => simp at h
  | cons e rest ih =>
    obtain ⟨k, v⟩ := e
    rw [keys, List.map_cons, List.nodup_cons] at hnodup
    obtain heq | hrest := List.mem_cons.1 h
    · cases heq
      exact List.lookup_cons_self
    · have hne : key ≠ k := by
        rintro rfl
        exact hnodup.1 (mem_keys.2 ⟨value, hrest⟩)
      rw [List.lookup_cons, beq_false_of_ne hne]
      exact ih hnodup.2 hrest

/-- **Looking up is membership** where no key is repeated. -/
theorem lookup_eq_some_iff_mem {entries : Entries κ ν} (hnodup : entries.keys.Nodup) {key : κ}
    {value : ν} : entries.lookup key = some value ↔ (key, value) ∈ entries :=
  ⟨mem_of_lookup, lookup_of_mem hnodup⟩

/-- In what order the entries stand is no matter of what is found under a key. -/
theorem lookup_of_perm {entries others : Entries κ ν} (hnodup : entries.keys.Nodup)
    (h : others.Perm entries) (key : κ) : others.lookup key = entries.lookup key := by
  have hothers : others.keys.Nodup := (h.map Prod.fst).nodup_iff.2 hnodup
  refine Option.ext fun value ↦ ?_
  rw [lookup_eq_some_iff_mem hothers, lookup_eq_some_iff_mem hnodup, h.mem_iff]

theorem lookup_eq_none_iff_not_mem {entries : Entries κ ν} {key : κ} :
    entries.lookup key = none ↔ key ∉ entries.keys := by
  rw [List.lookup_eq_none_iff, mem_keys]
  constructor
  · rintro h ⟨value, hmem⟩
    simpa using h (key, value) hmem
  · rintro h ⟨k, value⟩ hmem
    rw [bne_iff_ne]
    rintro rfl
    exact h ⟨value, hmem⟩

/-- A value for each of a list of things, under keys that do not repeat. -/
theorem lookup_map_of_mem {α : Type} {as : List α} {key : α → κ} (value : α → ν)
    (hnodup : (as.map key).Nodup) {a : α} (h : a ∈ as) :
    (as.map fun a ↦ (key a, value a)).lookup (key a) = some (value a) := by
  refine lookup_of_mem ?_ (List.mem_map_of_mem h)
  simpa [keys, Function.comp_def] using hnodup

omit [BEq κ] [LawfulBEq κ] in
/-- Entries that are made of a list of things, each under the key of the thing. -/
theorem keys_filterMap {α : Type} {made? : α → Option (κ × ν)} {key : α → κ} {as : List α}
    (h : ∀ a ∈ as, ∃ e, made? a = some e ∧ e.1 = key a) :
    keys (as.filterMap made?) = as.map key := by
  rw [keys, List.map_filterMap, ← List.filterMap_eq_map]
  refine List.filterMap_congr fun a ha ↦ ?_
  obtain ⟨e, he, hkey⟩ := h a ha
  rw [he, Option.map_some, hkey, Function.comp_apply]

/-- What is found under a key is what the first thing of this key gave. -/
theorem lookup_filterMap {α : Type} {made? : α → Option (κ × ν)} {key : α → κ} {as : List α}
    (h : ∀ a ∈ as, ∃ e, made? a = some e ∧ e.1 = key a) (k : κ) :
    List.lookup k (as.filterMap made?) =
      ((as.find? (key · == k)).bind made?).map Prod.snd := by
  induction as with
  | nil => rfl
  | cons a rest ih =>
    obtain ⟨⟨k', value⟩, he, rfl⟩ := h a List.mem_cons_self
    rw [List.filterMap_cons_some he, List.find?_cons]
    by_cases heq : key a = k
    · rw [heq, List.lookup_cons_self, beq_self_eq_true, Option.bind_some, he, Option.map_some]
    · rw [List.lookup_cons, beq_false_of_ne (Ne.symm heq), beq_false_of_ne heq]
      exact ih fun b hb ↦ h b (List.mem_cons_of_mem a hb)

/-- Other values under the same keys. -/
theorem lookup_map_value {μ : Type} (value : κ → ν → μ) (entries : Entries κ ν) (key : κ) :
    List.lookup key (entries.map fun (k, v) ↦ (k, value k v)) =
      (entries.lookup key).map (value key) := by
  induction entries with
  | nil => rfl
  | cons e rest ih =>
    obtain ⟨k, v⟩ := e
    rw [List.map_cons, List.lookup_cons, List.lookup_cons, ih]
    by_cases heq : key = k
    · rw [heq, beq_self_eq_true]
      rfl
    · rw [beq_false_of_ne heq]

omit [BEq κ] [LawfulBEq κ] in
/-- A key is not among those before it. -/
theorem not_mem_of_nodup_append {before entries : Entries κ ν} {key : κ} {value : ν}
    (h : (before ++ (key, value) :: entries).keys.Nodup) : key ∉ before.keys := by
  rw [keys, List.map_append] at h
  intro hmem
  exact List.disjoint_of_nodup_append h hmem List.mem_cons_self

/-! ### Putting values -/

theorem mem_put {entries : Entries κ ν} {key : κ} {value : ν} {e : κ × ν}
    (h : e ∈ put key value entries) : e = (key, value) ∨ e ∈ entries := by
  induction entries with
  | nil => simpa [put] using h
  | cons f rest ih =>
    obtain ⟨k, v⟩ := f
    rw [put] at h
    split at h
    · next heq =>
      obtain rfl : key = k := eq_of_beq heq
      obtain h | h := List.mem_cons.1 h
      · exact .inl h
      · exact .inr (List.mem_cons_of_mem _ h)
    · obtain h | h := List.mem_cons.1 h
      · exact .inr (h ▸ List.mem_cons_self)
      · exact (ih h).imp_right (List.mem_cons_of_mem _)

/-- A new key is added at the end. -/
theorem put_of_not_mem {entries : Entries κ ν} {key : κ} (h : key ∉ entries.keys) (value : ν) :
    put key value entries = entries ++ [(key, value)] := by
  induction entries with
  | nil => rfl
  | cons e rest ih =>
    obtain ⟨k, v⟩ := e
    rw [keys, List.map_cons, List.mem_cons, not_or] at h
    rw [put, beq_false_of_ne h.1, if_neg (by simp), ih h.2, List.cons_append]

/-- A known key stays where it is. -/
theorem keys_put_of_mem {entries : Entries κ ν} {key : κ} (h : key ∈ entries.keys) (value : ν) :
    (put key value entries).keys = entries.keys := by
  induction entries with
  | nil => simp [keys] at h
  | cons e rest ih =>
    obtain ⟨k, v⟩ := e
    rw [put]
    split
    · rfl
    · next hne =>
      rw [keys, List.map_cons, List.mem_cons] at h
      obtain rfl | hrest := h
      · simp at hne
      · exact congrArg (k :: ·) (ih hrest)

omit [LawfulBEq κ] in
/-- Putting what is there already changes nothing. -/
theorem put_eq_self {entries : Entries κ ν} {key : κ} {value : ν}
    (h : entries.lookup key = some value) : put key value entries = entries := by
  induction entries with
  | nil => cases h
  | cons e rest ih =>
    obtain ⟨k, v⟩ := e
    rw [List.lookup_cons] at h
    rw [put]
    split at h
    · next heq =>
      cases h
      rw [if_pos heq]
    · next hne => rw [if_neg (by simp [hne]), ih h]

theorem nodup_keys_put {entries : Entries κ ν} (h : entries.keys.Nodup) (key : κ) (value : ν) :
    (put key value entries).keys.Nodup := by
  by_cases hmem : key ∈ entries.keys
  · rwa [keys_put_of_mem hmem]
  · rw [put_of_not_mem hmem, keys, List.map_append]
    exact List.Nodup.append h (List.nodup_singleton key) (by simpa [keys] using hmem)

/-! ### Putting values one after another -/

omit [LawfulBEq κ] in
theorem ofList_append_singleton (assignments : List (κ × ν)) (key : κ) (value : ν) :
    ofList (assignments ++ [(key, value)]) = put key value (ofList assignments) := by
  rw [ofList, List.foldl_append]
  rfl

/-- **Of the values put under a key the last is found.** -/
theorem lookup_ofList (assignments : List (κ × ν)) (key : κ) :
    (ofList assignments).lookup key = assignments.reverse.lookup key := by
  induction assignments using List.reverseRecOn with
  | nil => rfl
  | append_singleton before last ih =>
    obtain ⟨k, value⟩ := last
    rw [ofList_append_singleton, List.reverse_concat, List.lookup_cons]
    by_cases h : key = k
    · rw [h, lookup_put_self, beq_self_eq_true]
    · rw [lookup_put_of_ne h, beq_false_of_ne h]
      exact ih

theorem mem_of_mem_ofList {assignments : List (κ × ν)} {e : κ × ν} (h : e ∈ ofList assignments) :
    e ∈ assignments := by
  induction assignments using List.reverseRecOn with
  | nil => cases h
  | append_singleton before last ih =>
    rw [ofList_append_singleton] at h
    rcases mem_put h with rfl | h
    · exact List.mem_append_right _ List.mem_cons_self
    · exact List.mem_append_left _ (ih h)

/-! ### What assignments come to -/

theorem nodup_keys_ofList (assignments : List (κ × ν)) : (ofList assignments).keys.Nodup := by
  induction assignments using List.reverseRecOn with
  | nil => exact List.nodup_nil
  | append_singleton before last ih =>
    rw [ofList_append_singleton]
    exact nodup_keys_put ih _ _

/-- **The keys of assignments** stand where they were first mentioned. -/
theorem keys_ofList (assignments : List (κ × ν)) :
    (ofList assignments).keys = (assignments.map Prod.fst).eraseDups := by
  induction assignments using List.reverseRecOn with
  | nil => rfl
  | append_singleton before last ih =>
    obtain ⟨key, value⟩ := last
    rw [ofList_append_singleton, List.map_append, List.map_singleton, List.eraseDups_append, ← ih]
    have hmem : key ∈ (ofList before).keys ↔ key ∈ before.map Prod.fst := by
      rw [ih, List.mem_eraseDups]
    by_cases hkey : key ∈ (ofList before).keys
    · rw [keys_put_of_mem hkey]
      simp [List.removeAll, hmem.1 hkey]
    · rw [put_of_not_mem hkey]
      have hnew : [key].removeAll (before.map Prod.fst) = [key] := by
        simp [List.removeAll, mt hmem.2 hkey]
      rw [hnew]
      simp [keys, List.eraseDups_cons]

/-- Entries without repeated keys are settled by their keys and what is found under them. -/
theorem eq_of_keys_of_lookup {entries others : Entries κ ν} (hkeys : entries.keys = others.keys)
    (hnodup : entries.keys.Nodup)
    (h : ∀ key ∈ entries.keys, entries.lookup key = others.lookup key) : entries = others := by
  induction entries generalizing others with
  | nil => exact (List.map_eq_nil_iff.1 hkeys.symm).symm
  | cons e entries ih =>
    cases others with
    | nil => cases hkeys
    | cons f others =>
      obtain ⟨key, value⟩ := e
      obtain ⟨other, value'⟩ := f
      obtain ⟨rfl, hrest⟩ := List.cons.inj hkeys
      obtain ⟨hfresh, hnodup⟩ := List.nodup_cons.1 hnodup
      have hvalue : value = value' := by simpa using h key List.mem_cons_self
      have hlookup : ∀ k ∈ keys entries, entries.lookup k = others.lookup k := by
        intro k hk
        -- the first key is not repeated, so this is another one
        have hne : k ≠ key := fun heq ↦ hfresh (heq ▸ hk)
        simpa [List.lookup_cons, beq_false_of_ne hne] using h k (List.mem_cons_of_mem key hk)
      rw [hvalue, ih hrest hnodup hlookup]

/-- What assignments come to: each key where it was first mentioned, with the value given last. -/
structure Settles (assignments : List (κ × ν)) (entries : Entries κ ν) : Prop where
  /-- The keys in the order of first mention. -/
  keys : entries.keys = (assignments.map Prod.fst).eraseDups
  /-- The value given last. -/
  value : ∀ key, entries.lookup key = assignments.reverse.lookup key

theorem settles_ofList (assignments : List (κ × ν)) : Settles assignments (ofList assignments) :=
  ⟨keys_ofList assignments, lookup_ofList assignments⟩

/-- Assignments come to one thing, which is what putting them one after another gives. -/
theorem Settles.eq_ofList {assignments : List (κ × ν)} {entries : Entries κ ν}
    (h : Settles assignments entries) : entries = ofList assignments := by
  have hkeys : entries.keys = (ofList assignments).keys := h.keys.trans (keys_ofList assignments).symm
  refine eq_of_keys_of_lookup hkeys ?_ fun key _ ↦ ?_
  · rw [hkeys]
    exact nodup_keys_ofList assignments
  · rw [h.value, lookup_ofList]

/-- Where no key is repeated, assignments are entries already. -/
theorem ofList_of_nodup {entries : Entries κ ν} (h : entries.keys.Nodup) :
    ofList entries = entries := by
  induction entries using List.reverseRecOn with
  | nil => rfl
  | append_singleton before last ih =>
    obtain ⟨key, value⟩ := last
    have hbefore : (keys before).Nodup := by
      rw [keys, List.map_append] at h
      exact h.of_append_left
    rw [ofList_append_singleton, ih hbefore, put_of_not_mem (not_mem_of_nodup_append h)]

end RecordStore.Entries
