import RecordStore.Payload.Reader
import RecordStore.Proofs.Entries
import RecordStore.Proofs.Number.Numeral
import RecordStore.Proofs.Text.Escapes

/-!
# The grammar of payloads

Which characters are a payload (`Derives`): words, numerals and quoted texts, and brackets with commas
between what is in them, blanks being allowed around every part. A key may do without quotes
(`DerivesKey`), and what is said twice of a key in an object counts as `Entries.Settles` has it. What
the grammar gives is `Legal`: no object of it has a key twice (`Derives.legal`).

The parts without brackets are read as the grammar has them. A mark, a key or a scalar that stands at
the front of a text is taken off it, unless it would go on with what follows, and nothing else is
taken (`derives_of_readKey`, `derives_of_readScalar`).
-/

namespace RecordStore

open RecordStore.Text RecordStore.Number

theorem eq_ok_of_toOption {ε α : Type} {result : Except ε α} {a : α}
    (h : result.toOption = some a) : result = .ok a := by
  cases result with
  | error cause => cases h
  | ok b => exact congrArg Except.ok (Option.some.inj h)

namespace Payload

/-! ### The grammar -/

/-- The characters are a key. -/
inductive DerivesKey : List Char → String → Prop where
  /-- A quoted text. -/
  | quoted {body : List Char} {key : String} (h : Decodes body key.toList) :
    DerivesKey ('"' :: (body ++ ['"'])) key
  /-- Letters, digits and underscores. -/
  | bare {cs : List Char} (hne : cs ≠ []) (h : ∀ c ∈ cs, isAlphanumeric c = true ∨ c = '_') :
    DerivesKey cs (String.ofList cs)

mutual

/-- The characters are a payload, without blanks at its ends. -/
inductive Derives : List Char → Payload → Prop where
  /-- The absence of a value. -/
  | null : Derives ['n', 'u', 'l', 'l'] .null
  /-- Truth. -/
  | yes : Derives ['t', 'r', 'u', 'e'] (.bool true)
  /-- Falsehood. -/
  | no : Derives ['f', 'a', 'l', 's', 'e'] (.bool false)
  /-- A number, which is kept as its numeral. -/
  | number {numeral : String} (h : Number.Legal numeral.toList) :
    Derives numeral.toList (.number numeral)
  /-- A text, between quotes. -/
  | text {body : List Char} {s : String} (h : Decodes body s.toList) :
    Derives ('"' :: (body ++ ['"'])) (.text s)
  /-- An array without items. -/
  | arrayNil {blanks : List Char} (h : Blanks blanks) : Derives ('[' :: (blanks ++ [']'])) (.array [])
  /-- An array. -/
  | array {cs : List Char} {items : List Payload} (h : DerivesItems cs items) :
    Derives ('[' :: (cs ++ [']'])) (.array items)
  /-- An object without entries. -/
  | objectNil {blanks : List Char} (h : Blanks blanks) :
    Derives ('{' :: (blanks ++ ['}'])) (.object [])
  /-- An object, whose keys stand at their first places with the values given last. -/
  | object {cs : List Char} {written : List (String × Payload)} {entries : Entries String Payload}
      (h : DerivesEntries cs written) (hentries : Entries.Settles written entries) :
    Derives ('{' :: (cs ++ ['}'])) (.object entries)

/-- The characters are payloads, with commas between them. -/
inductive DerivesItems : List Char → List Payload → Prop where
  /-- A single payload. -/
  | one {core cs : List Char} {p : Payload} (h : Derives core p) (hcs : Padded core cs) :
    DerivesItems cs [p]
  /-- A payload, and those behind it. -/
  | cons {core cs rest : List Char} {p : Payload} {items : List Payload} (h : Derives core p)
      (hcs : Padded core cs) (hrest : DerivesItems rest items) :
    DerivesItems (cs ++ ',' :: rest) (p :: items)

/-- The characters are payloads under keys, with commas between them. -/
inductive DerivesEntries : List Char → List (String × Payload) → Prop where
  /-- A single entry. -/
  | one {name ks core cs : List Char} {key : String} {p : Payload} (hkey : DerivesKey name key)
      (hks : Padded name ks) (h : Derives core p) (hcs : Padded core cs) :
    DerivesEntries (ks ++ ':' :: cs) [(key, p)]
  /-- An entry, and those behind it. -/
  | cons {name ks core cs rest : List Char} {key : String} {p : Payload}
      {written : List (String × Payload)} (hkey : DerivesKey name key) (hks : Padded name ks)
      (h : Derives core p) (hcs : Padded core cs) (hrest : DerivesEntries rest written) :
    DerivesEntries (ks ++ ':' :: (cs ++ ',' :: rest)) ((key, p) :: written)

end

/-- A payload whose numerals are legal and whose objects have no key twice, at any depth. -/
inductive Legal : Payload → Prop where
  /-- The absence of a value. -/
  | null : Legal .null
  /-- A truth value. -/
  | bool (b : Bool) : Legal (.bool b)
  /-- A number. -/
  | number {numeral : String} (h : Number.Legal numeral.toList) : Legal (.number numeral)
  /-- A text. -/
  | text (s : String) : Legal (.text s)
  /-- An array. -/
  | array {items : List Payload} (h : ∀ p ∈ items, Legal p) : Legal (.array items)
  /-- An object. -/
  | object {entries : List (String × Payload)} (hkeys : (entries.map Prod.fst).Nodup)
    (h : ∀ e ∈ entries, Legal e.2) : Legal (.object entries)

variable {c d : Char} {cs rest after blanks lead core name : List Char} {key : String} {p q : Payload}
  {frames : List Frame} {items : List Payload} {written : List (String × Payload)}
  {before : Entries String Payload}

mutual

/-- **What the grammar gives is legal.** -/
theorem Derives.legal {cs : List Char} {p : Payload} : Derives cs p → p.Legal
  | .null => .null
  | .yes => .bool true
  | .no => .bool false
  | .number h => .number h
  | .text _ => .text _
  | .arrayNil _ => .array (List.forall_mem_nil _)
  | .array h => .array h.legal
  | .objectNil _ => .object List.nodup_nil (List.forall_mem_nil _)
  | .object h hentries => by
    rw [hentries.eq_ofList]
    exact .object (Entries.nodup_keys_ofList _) fun e he ↦ h.legal e (Entries.mem_of_mem_ofList he)

theorem DerivesItems.legal {cs : List Char} {items : List Payload} :
    DerivesItems cs items → ∀ p ∈ items, p.Legal
  | .one h _ => List.forall_mem_singleton.2 h.legal
  | .cons h _ hrest => List.forall_mem_cons.2 ⟨h.legal, hrest.legal⟩

theorem DerivesEntries.legal {cs : List Char} {written : List (String × Payload)} :
    DerivesEntries cs written → ∀ e ∈ written, e.2.Legal
  | .one _ _ h _ => List.forall_mem_singleton.2 h.legal
  | .cons _ _ h _ hrest => List.forall_mem_cons.2 ⟨h.legal, hrest.legal⟩

end

/-! ### Marks -/

theorem readMark_self (h : Blanks blanks) (hblank : isBlank c = false) :
    readMark c (blanks ++ c :: rest) = some rest := by
  rw [readMark, skipBlanks_append h, skipBlanks_of_not_isBlank hblank]
  exact if_pos rfl

theorem readMark_of_ne (h : Blanks blanks) (hblank : isBlank d = false) (hne : d ≠ c) :
    readMark c (blanks ++ d :: rest) = none := by
  rw [readMark, skipBlanks_append h, skipBlanks_of_not_isBlank hblank]
  exact if_neg hne

/-- A mark that is taken stands behind blanks. -/
theorem exists_blanks_of_readMark (h : readMark c cs = some rest) :
    ∃ blanks, Blanks blanks ∧ cs = blanks ++ c :: rest := by
  obtain ⟨blanks, hblanks, hcs⟩ := exists_blanks_append cs
  unfold readMark at h
  split at h
  · cases h
  · next hskip =>
    split at h
    · next heq =>
      cases h
      exact ⟨blanks, hblanks, by rw [← hcs, hskip, heq]⟩
    · cases h

/-! ### Keys -/

/-- What does not go on with a blank goes on behind blanks as little as without them. -/
theorem head_append_of_blanks {continues : Char → Bool}
    (hblank : ∀ c, isBlank c = true → continues c = false) (h : Blanks blanks) (rest : List Char)
    (hrest : ∀ c ∈ rest.head?, continues c = false) :
    ∀ c ∈ (blanks ++ rest).head?, continues c = false := by
  cases blanks with
  | nil => exact hrest
  | cons b blanks =>
    intro c hc
    cases hc
    exact hblank b (h b List.mem_cons_self)

theorem isBareKeyChar_iff : isBareKeyChar c = true ↔ isAlphanumeric c = true ∨ c = '_' := by
  simp [isBareKeyChar]

/-- No blank stands in a key without quotes. -/
theorem isBareKeyChar_of_isBlank (h : isBlank c = true) : isBareKeyChar c = false := by
  have hall : ∀ r ∈ Text.blanks.ranges, ∀ k < r.2 + 1 - r.1,
      CharSet.covers alphanumerics.ranges (r.1 + k) = false ∧ r.1 + k ≠ '_'.toNat := by
    decide +kernel
  obtain ⟨r, hr, hfirst, hlast⟩ := CharSet.exists_range_of_covers h
  obtain ⟨hcovers, hne⟩ := hall r hr (c.toNat - r.1) (by omega)
  rw [Nat.add_sub_cancel' hfirst] at hcovers hne
  have hunderscore : c ≠ '_' := fun heq ↦ hne (congrArg Char.toNat heq)
  rw [isBareKeyChar, isAlphanumeric, CharSet.contains, hcovers, beq_false_of_ne hunderscore,
    Bool.or_false]

theorem isBlank_of_isBareKeyChar (h : isBareKeyChar c = true) : isBlank c = false := by
  rw [Bool.eq_false_iff]
  intro hblank
  rw [isBareKeyChar_of_isBlank hblank] at h
  cases h

/-- A key begins with a character that closes no object. -/
theorem exists_head_of_derivesKey (h : DerivesKey name key) :
    ∃ c rest, name = c :: rest ∧ isBlank c = false ∧ c ≠ '}' := by
  cases h with
  | quoted => exact ⟨_, _, rfl, by decide, by decide⟩
  | bare hne h =>
    obtain ⟨c, rest, rfl⟩ := List.exists_cons_of_ne_nil hne
    have hc : isBareKeyChar c = true := isBareKeyChar_iff.2 (h c List.mem_cons_self)
    refine ⟨c, rest, rfl, isBlank_of_isBareKeyChar hc, ?_⟩
    rintro rfl
    exact absurd hc (by decide)

/-- **A key is taken**, if what follows it could not belong to it. -/
theorem readKey_of_derives (h : DerivesKey name key) (hlead : Blanks lead)
    (hrest : ∀ c ∈ rest.head?, isBareKeyChar c = false) :
    readKey (lead ++ (name ++ rest)) = some (key, rest) := by
  obtain ⟨c, more, hname, hblank, -⟩ := exists_head_of_derivesKey h
  have hskip : skipBlanks (lead ++ (name ++ rest)) = name ++ rest := by
    rw [skipBlanks_append hlead, hname, List.cons_append, skipBlanks_of_not_isBlank hblank]
  rw [readKey, hskip]
  cases h with
  | @quoted body _ hbody =>
    have hread : readQuoted (body ++ ['"'] ++ rest) = .ok (key, rest) :=
      readQuoted_eq_ok_iff.2 ⟨body, hbody, by rw [List.append_assoc, List.singleton_append]⟩
    show (readQuoted (body ++ ['"'] ++ rest)).toOption = _
    rw [hread]
    rfl
  | bare hne hchars =>
    have hbare : ∀ d ∈ name, isBareKeyChar d = true := fun d hd ↦ isBareKeyChar_iff.2 (hchars d hd)
    have hspan := @takeWhile_dropWhile_of_head rest (fun d ↦ !isBareKeyChar d) name
      (fun d hd ↦ by rw [hbare d hd, Bool.not_true]) fun d hd ↦ by rw [hrest d hd, Bool.not_false]
    simp only [Bool.not_not] at hspan
    split
    · next heq =>
      rw [hname, List.cons_append] at heq
      have hquote := hbare c (hname ▸ List.mem_cons_self)
      rw [(List.cons.inj heq).1] at hquote
      exact absurd hquote (by decide)
    · rw [hspan.1, hspan.2]
      split
      · exact absurd rfl hne
      · rfl

/-- A key in an object is taken up to the colon. -/
theorem readKey_before_colon (h : DerivesKey name key) (hlead : Blanks lead) (hblanks : Blanks blanks)
    (rest : List Char) :
    readKey (lead ++ (name ++ (blanks ++ ':' :: rest))) = some (key, blanks ++ ':' :: rest) := by
  refine readKey_of_derives h hlead (head_append_of_blanks (fun _ ↦ isBareKeyChar_of_isBlank) hblanks _ ?_)
  intro c hc
  cases hc
  decide

/-- **Only keys are taken.** -/
theorem derives_of_readKey (h : readKey cs = some (key, rest)) :
    ∃ lead name, Blanks lead ∧ DerivesKey name key ∧ cs = lead ++ (name ++ rest) := by
  obtain ⟨lead, hlead, hcs⟩ := exists_blanks_append cs
  rw [← hcs]
  unfold readKey at h
  split at h
  · next after hskip =>
    obtain ⟨body, hbody, rfl⟩ := readQuoted_eq_ok_iff.1 (eq_ok_of_toOption h)
    refine ⟨lead, _, hlead, .quoted hbody, ?_⟩
    rw [hskip, List.cons_append, List.append_assoc, List.singleton_append]
  · split at h
    · cases h
    · next hne =>
      cases h
      refine ⟨lead, _, hlead, .bare hne fun c hc ↦ isBareKeyChar_iff.1 (List.mem_takeWhile_imp hc), ?_⟩
      rw [List.takeWhile_append_dropWhile]

/-! ### Scalars -/

/-- The first character of a numeral is that of no other payload. -/
theorem exists_cons_of_legal {numeral : List Char} (h : Number.Legal numeral) :
    ∃ c cs, numeral = c :: cs ∧ (c = '-' ∨ c.isDigit = true) := by
  obtain @⟨minus, whole, fraction, exponent, hminus, hwhole, -, -⟩ := h
  rcases hminus with rfl | rfl
  · obtain ⟨d, ds, rfl, hd, -⟩ := exists_cons_of_isDigits hwhole
    exact ⟨d, _, rfl, .inr hd⟩
  · exact ⟨'-', _, rfl, .inl rfl⟩

theorem readScalar_numeral {numeral : String} (h : Number.Legal numeral.toList)
    (hrest : ∀ c ∈ rest.head?, continuesNumeral c = false) :
    readScalar (numeral.toList ++ rest) = some (.number numeral, rest) := by
  have hread := readNumeral_of_legal h hrest
  obtain ⟨c, cs, hcons, hc⟩ := exists_cons_of_legal h
  have hne {d : Char} (hd : ¬(d = '-' ∨ d.isDigit = true)) : c ≠ d := fun heq ↦ hd (heq ▸ hc)
  rw [String.ofList_toList, hcons, List.cons_append] at hread
  rw [hcons, List.cons_append, readScalar, if_neg (hne (by decide)), if_neg (hne (by decide)),
    if_neg (hne (by decide)), if_neg (hne (by decide)), hread]
  rfl

theorem readScalar_text {body : List Char} {s : String} (h : Decodes body s.toList)
    (rest : List Char) : readScalar ('"' :: (body ++ ['"']) ++ rest) = some (.text s, rest) := by
  have hread : readQuoted (body ++ ['"'] ++ rest) = .ok (s, rest) :=
    readQuoted_eq_ok_iff.2 ⟨body, h, by rw [List.append_assoc, List.singleton_append]⟩
  rw [List.cons_append, readScalar, if_pos rfl, hread]
  rfl

theorem append_of_readWord {word : List Char} (h : readWord word cs = some rest) :
    cs = word ++ rest := by
  fun_induction readWord word cs with
  | case1 => rw [Option.some.inj h, List.nil_append]
  | case2 => cases h
  | case3 w word cs ih => rw [ih h, List.cons_append]
  | case4 => cases h

/-- **Only payloads are taken.** -/
theorem derives_of_readScalar (h : readScalar cs = some (p, rest)) :
    ∃ core, Derives core p ∧ cs = core ++ rest := by
  have hword {c : Char} {word cs : List Char} {p' : Payload} (hderives : Derives (c :: word) p')
      (h : (readWord word cs).map (fun rest ↦ (p', rest)) = some (p, rest)) :
      ∃ core, Derives core p ∧ c :: cs = core ++ rest := by
    obtain ⟨after, hread, heq⟩ := Option.map_eq_some_iff.1 h
    obtain ⟨rfl, rfl⟩ := Prod.mk.inj heq
    exact ⟨c :: word, hderives, by rw [append_of_readWord hread, List.cons_append]⟩
  unfold readScalar at h
  split at h
  · cases h
  next c cs =>
  split at h
  · next hquote =>
    obtain ⟨⟨s, after⟩, hread, heq⟩ := Option.map_eq_some_iff.1 h
    obtain ⟨rfl, rfl⟩ := Prod.mk.inj heq
    obtain ⟨body, hbody, rfl⟩ := readQuoted_eq_ok_iff.1 (eq_ok_of_toOption hread)
    refine ⟨_, .text hbody, ?_⟩
    rw [hquote, List.cons_append, List.append_assoc, List.singleton_append]
  split at h
  · next htrue => exact htrue ▸ hword .yes h
  split at h
  · next hfalse => exact hfalse ▸ hword .no h
  split at h
  · next hnull => exact hnull ▸ hword .null h
  · obtain ⟨⟨numeral, after⟩, hread, heq⟩ := Option.map_eq_some_iff.1 h
    obtain ⟨rfl, rfl⟩ := Prod.mk.inj heq
    obtain ⟨hlegal, hcs⟩ := legal_of_readNumeral hread
    exact ⟨_, .number hlegal, hcs⟩

end Payload

end RecordStore
