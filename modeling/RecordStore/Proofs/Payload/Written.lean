import RecordStore.Proofs.Payload.Reading
import RecordStore.Proofs.Text.InQuotes

/-!
# Writing payloads

A payload may be written in many ways: `Written` allows any blanks around every part of it, and
nothing else, quoted texts having a backslash where they need one. What is written of a payload that
is `Legal` derives it (`Written.derives`), so it is read as itself (`ofChars?_of_written`).
-/

namespace RecordStore.Payload

open RecordStore.Text RecordStore.Number

mutual

/-- The characters are a payload, with any blanks around its parts. -/
inductive Written : Payload → List Char → Prop where
  /-- The absence of a value. -/
  | null : Written .null ['n', 'u', 'l', 'l']
  /-- A truth value. -/
  | bool (b : Bool) : Written (.bool b) (if b then "true" else "false").toList
  /-- A number, by its numeral. -/
  | number (numeral : String) : Written (.number numeral) numeral.toList
  /-- A text, between quotes. -/
  | text (s : String) : Written (.text s) (inQuotes s).toList
  /-- An array without items. -/
  | arrayNil {blanks : List Char} (h : Blanks blanks) : Written (.array []) ('[' :: (blanks ++ [']']))
  /-- An array. -/
  | array {items : List Payload} {cs : List Char} (h : WrittenItems items cs) :
    Written (.array items) ('[' :: (cs ++ [']']))
  /-- An object without entries. -/
  | objectNil {blanks : List Char} (h : Blanks blanks) :
    Written (.object []) ('{' :: (blanks ++ ['}']))
  /-- An object. -/
  | object {entries : List (String × Payload)} {cs : List Char} (h : WrittenEntries entries cs) :
    Written (.object entries) ('{' :: (cs ++ ['}']))

/-- The characters are payloads, with commas between them. -/
inductive WrittenItems : List Payload → List Char → Prop where
  /-- A single payload. -/
  | one {p : Payload} {core cs : List Char} (h : Written p core) (hcs : Padded core cs) :
    WrittenItems [p] cs
  /-- A payload, and those behind it. -/
  | cons {p : Payload} {items : List Payload} {core cs rest : List Char} (h : Written p core)
      (hcs : Padded core cs) (hrest : WrittenItems items rest) :
    WrittenItems (p :: items) (cs ++ ',' :: rest)

/-- The characters are payloads under quoted keys, with commas between them. -/
inductive WrittenEntries : List (String × Payload) → List Char → Prop where
  /-- A single entry. -/
  | one {key : String} {p : Payload} {ks core cs : List Char}
      (hkey : Padded (inQuotes key).toList ks) (h : Written p core) (hcs : Padded core cs) :
    WrittenEntries [(key, p)] (ks ++ ':' :: cs)
  /-- An entry, and those behind it. -/
  | cons {key : String} {p : Payload} {entries : List (String × Payload)}
      {ks core cs rest : List Char} (hkey : Padded (inQuotes key).toList ks) (h : Written p core)
      (hcs : Padded core cs) (hrest : WrittenEntries entries rest) :
    WrittenEntries ((key, p) :: entries) (ks ++ ':' :: (cs ++ ',' :: rest))

end

/-! ### What is written is read -/

theorem decodes_inQuotes (s : String) :
    ∃ body, Decodes body s.toList ∧ (inQuotes s).toList = '"' :: (body ++ ['"']) :=
  ⟨escape s.toList, decodes_escape s.toList, String.toList_ofList⟩

theorem derivesKey_inQuotes (key : String) : DerivesKey (inQuotes key).toList key := by
  obtain ⟨body, hbody, hkey⟩ := decodes_inQuotes key
  rw [hkey]
  exact .quoted hbody

/-- Where no key is repeated, the entries that are written are those that are meant. -/
theorem settles_of_nodup {entries : Entries String Payload} (h : entries.keys.Nodup) :
    Entries.Settles entries entries := by
  have hsettles := Entries.settles_ofList entries
  rwa [Entries.ofList_of_nodup h] at hsettles

mutual

/-- **What is written of a payload** derives it. -/
theorem Written.derives {p : Payload} {cs : List Char} : Written p cs → p.Legal → Derives cs p
  | .null, _ => .null
  | .bool true, _ => .yes
  | .bool false, _ => .no
  | .number _, .number h => .number h
  | .text s, _ => by
    obtain ⟨body, hbody, hs⟩ := decodes_inQuotes s
    rw [hs]
    exact .text hbody
  | .arrayNil h, _ => .arrayNil h
  | .array h, .array hlegal => .array (h.derives hlegal)
  | .objectNil h, _ => .objectNil h
  | .object h, .object hkeys hlegal => .object (h.derives hlegal) (settles_of_nodup hkeys)

theorem WrittenItems.derives {items : List Payload} {cs : List Char} :
    WrittenItems items cs → (∀ p ∈ items, p.Legal) → DerivesItems cs items
  | .one h hcs, hlegal => .one (h.derives (hlegal _ List.mem_cons_self)) hcs
  | .cons h hcs hrest, hlegal =>
    .cons (h.derives (hlegal _ List.mem_cons_self)) hcs
      (hrest.derives fun p hp ↦ hlegal p (List.mem_cons_of_mem _ hp))

theorem WrittenEntries.derives {entries : List (String × Payload)} {cs : List Char} :
    WrittenEntries entries cs → (∀ e ∈ entries, e.2.Legal) → DerivesEntries cs entries
  | .one hkey h hcs, hlegal =>
    .one (derivesKey_inQuotes _) hkey (h.derives (hlegal _ List.mem_cons_self)) hcs
  | .cons hkey h hcs hrest, hlegal =>
    .cons (derivesKey_inQuotes _) hkey (h.derives (hlegal _ List.mem_cons_self)) hcs
      (hrest.derives fun e he ↦ hlegal e (List.mem_cons_of_mem _ he))

end

/-- **A payload is read back**, however it is written. -/
theorem ofChars?_of_written {p : Payload} {cs : List Char} (h : Written p cs) (hp : p.Legal) :
    ofChars? cs = some p :=
  ofChars?_eq_some_iff.2 ⟨cs, h.derives hp, padded_self cs⟩

/-! ### Any payload can be written -/

mutual

theorem exists_written : (p : Payload) → ∃ cs, Written p cs
  | .null => ⟨_, .null⟩
  | .bool b => ⟨_, .bool b⟩
  | .number numeral => ⟨_, .number numeral⟩
  | .text s => ⟨_, .text s⟩
  | .array items => by
    obtain rfl | ⟨cs, h⟩ := exists_writtenItems items
    · exact ⟨_, .arrayNil blanks_nil⟩
    · exact ⟨_, .array h⟩
  | .object entries => by
    obtain rfl | ⟨cs, h⟩ := exists_writtenEntries entries
    · exact ⟨_, .objectNil blanks_nil⟩
    · exact ⟨_, .object h⟩

theorem exists_writtenItems : (items : List Payload) → items = [] ∨ ∃ cs, WrittenItems items cs
  | [] => .inl rfl
  | p :: items => by
    obtain ⟨core, h⟩ := exists_written p
    obtain rfl | ⟨cs, hrest⟩ := exists_writtenItems items
    · exact .inr ⟨_, .one h (padded_self core)⟩
    · exact .inr ⟨_, .cons h (padded_self core) hrest⟩

theorem exists_writtenEntries : (entries : List (String × Payload)) →
    entries = [] ∨ ∃ cs, WrittenEntries entries cs
  | [] => .inl rfl
  | (key, p) :: entries => by
    obtain ⟨core, h⟩ := exists_written p
    obtain rfl | ⟨cs, hrest⟩ := exists_writtenEntries entries
    · exact .inr ⟨_, .one (padded_self _) h (padded_self core)⟩
    · exact .inr ⟨_, .cons (padded_self _) h (padded_self core) hrest⟩

end

end RecordStore.Payload
