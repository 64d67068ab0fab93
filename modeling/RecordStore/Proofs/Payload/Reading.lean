import RecordStore.Proofs.Payload.Grammar

/-!
# Reading payloads by their grammar

The reader takes exactly the texts of the grammar for payloads. That it takes every one of them
(`readFrom_of_derives`) goes by recursion on how the text is derived. It is said for any frames around
the text, and it needs a look at the next character, since a numeral would go on with some. That it
takes nothing else (`derives_of_readFrom`) goes by the turns of the reader, which keep one invariant:
what has been read is the beginning of a payload, whose open brackets are those of the frames
(`Opened`, `ReadUpTo`).

Both together say what a text is read as, and when it is refused (`ofText?_iff_derives`).
-/

namespace RecordStore.Payload

open RecordStore.Text RecordStore.Number

variable {c : Char} {cs rest after blanks lead core name : List Char} {key : String} {p q : Payload}
  {frames : List Frame} {items : List Payload} {written : List (String × Payload)}
  {before : Entries String Payload}

/-! ### One turn of the reader -/

theorem readFrom_scalar (hskip : skipBlanks cs = c :: rest) (hbrace : c ≠ '{') (hbracket : c ≠ '[')
    (h : readScalar (c :: rest) = some (p, after)) :
    readFrom frames .due cs = readFrom frames (.after p) after := by
  rw [readFrom.eq_def]
  dsimp only
  split
  · next heq => exact absurd (List.cons.inj (hskip.symm.trans heq)).1 hbrace
  · next heq => exact absurd (List.cons.inj (hskip.symm.trans heq)).1 hbracket
  · split
    · next heq => cases (hskip ▸ heq).symm.trans h
    · next heq =>
      cases (hskip ▸ heq).symm.trans h
      rfl

theorem readFrom_arrayNil (hskip : skipBlanks cs = '[' :: rest) (hclose : readMark ']' rest = some after) :
    readFrom frames .due cs = readFrom frames (.after (.array [])) after := by
  rw [readFrom.eq_def]
  dsimp only
  split
  · next heq => exact absurd (List.cons.inj (hskip.symm.trans heq)).1 (by decide)
  · next heq =>
    cases hskip.symm.trans heq
    split
    · next heq =>
      cases hclose.symm.trans heq
      rfl
    · next heq => cases hclose.symm.trans heq
  · next heq => exact absurd hskip (heq rest)

theorem readFrom_array (hskip : skipBlanks cs = '[' :: rest) (hopen : readMark ']' rest = none) :
    readFrom frames .due cs = readFrom (.array [] :: frames) .due rest := by
  rw [readFrom.eq_def]
  dsimp only
  split
  · next heq => exact absurd (List.cons.inj (hskip.symm.trans heq)).1 (by decide)
  · next heq =>
    cases hskip.symm.trans heq
    split
    · next heq => cases hopen.symm.trans heq
    · rfl
  · next heq => exact absurd hskip (heq rest)

theorem readFrom_objectNil (hskip : skipBlanks cs = '{' :: rest)
    (hclose : readMark '}' rest = some after) :
    readFrom frames .due cs = readFrom frames (.after (.object [])) after := by
  rw [readFrom.eq_def]
  dsimp only
  split
  · next heq =>
    cases hskip.symm.trans heq
    split
    · next heq =>
      cases hclose.symm.trans heq
      rfl
    · next heq => cases hclose.symm.trans heq
  · next heq => exact absurd (List.cons.inj (hskip.symm.trans heq)).1 (by decide)
  · next heq _ => exact absurd hskip (heq rest)

theorem readFrom_object {behind : List Char} (hskip : skipBlanks cs = '{' :: rest)
    (hopen : readMark '}' rest = none) (hkey : readKey rest = some (key, behind))
    (hcolon : readMark ':' behind = some after) :
    readFrom frames .due cs = readFrom (.object [] key :: frames) .due after := by
  rw [readFrom.eq_def]
  dsimp only
  split
  · next heq =>
    cases hskip.symm.trans heq
    split
    · next heq => cases hopen.symm.trans heq
    · split
      · next heq => cases hkey.symm.trans heq
      · next heq =>
        cases hkey.symm.trans heq
        split
        · next heq => cases hcolon.symm.trans heq
        · next heq =>
          cases hcolon.symm.trans heq
          rfl
  · next heq => exact absurd (List.cons.inj (hskip.symm.trans heq)).1 (by decide)
  · next heq _ => exact absurd hskip (heq rest)

theorem readFrom_nil : readFrom [] (.after p) cs = some (p, cs) := by
  rw [readFrom.eq_def]

theorem readFrom_array_close (hclose : readMark ']' cs = some after) :
    readFrom (.array items :: frames) (.after p) cs =
      readFrom frames (.after (.array (p :: items).reverse)) after := by
  rw [readFrom.eq_def]
  dsimp only
  split
  · next heq =>
    cases hclose.symm.trans heq
    rfl
  · next heq => cases hclose.symm.trans heq

theorem readFrom_array_comma (hopen : readMark ']' cs = none) (hcomma : readMark ',' cs = some after) :
    readFrom (.array items :: frames) (.after p) cs =
      readFrom (.array (p :: items) :: frames) .due after := by
  rw [readFrom.eq_def]
  dsimp only
  split
  · next heq => cases hopen.symm.trans heq
  · split
    · next heq => cases hcomma.symm.trans heq
    · next heq =>
      cases hcomma.symm.trans heq
      rfl

theorem readFrom_object_close (hclose : readMark '}' cs = some after) :
    readFrom (.object before key :: frames) (.after p) cs =
      readFrom frames (.after (.object (Entries.put key p before))) after := by
  rw [readFrom.eq_def]
  dsimp only
  split
  · next heq =>
    cases hclose.symm.trans heq
    rfl
  · next heq => cases hclose.symm.trans heq

theorem readFrom_object_comma {next : String} {mid behind : List Char} (hopen : readMark '}' cs = none)
    (hcomma : readMark ',' cs = some mid) (hkey : readKey mid = some (next, behind))
    (hcolon : readMark ':' behind = some after) :
    readFrom (.object before key :: frames) (.after p) cs =
      readFrom (.object (Entries.put key p before) next :: frames) .due after := by
  rw [readFrom.eq_def]
  dsimp only
  split
  · next heq => cases hopen.symm.trans heq
  · split
    · next heq => cases hcomma.symm.trans heq
    · next heq =>
      cases hcomma.symm.trans heq
      split
      · next heq => cases hkey.symm.trans heq
      · next heq =>
        cases hkey.symm.trans heq
        split
        · next heq => cases hcolon.symm.trans heq
        · next heq =>
          cases hcolon.symm.trans heq
          rfl

/-! ### Every text of the grammar is read -/

theorem isBlank_of_numeral_head (h : c = '-' ∨ c.isDigit = true) : isBlank c = false := by
  rcases h with rfl | hdigit
  · decide
  · exact isBlank_of_isDigit hdigit

/-- A payload without brackets is read. -/
theorem readFrom_of_readScalar {lead : List Char} (hlead : Blanks lead) (frames : List Frame)
    (hcs : cs = c :: after) (hblank : isBlank c = false) (hbrace : c ≠ '{') (hbracket : c ≠ '[')
    (h : readScalar (cs ++ rest) = some (p, rest)) :
    readFrom frames .due (lead ++ (cs ++ rest)) = readFrom frames (.after p) rest := by
  rw [hcs, List.cons_append] at h ⊢
  refine readFrom_scalar ?_ hbrace hbracket h
  rw [skipBlanks_append hlead, skipBlanks_of_not_isBlank hblank]

/-- A payload begins with a character that closes no array. -/
theorem exists_head_of_derives (h : Derives core p) :
    ∃ c rest, core = c :: rest ∧ isBlank c = false ∧ c ≠ ']' := by
  cases h with
  | number hlegal =>
    obtain ⟨c, rest, hcons, hc⟩ := exists_cons_of_legal hlegal
    refine ⟨c, rest, hcons, isBlank_of_numeral_head hc, ?_⟩
    rintro rfl
    exact absurd hc (by decide)
  | null | yes | no | text | arrayNil | array | objectNil | object =>
    exact ⟨_, _, rfl, by decide, by decide⟩

/-- The items of an array do not begin with its end. -/
theorem readMark_of_derivesItems (h : DerivesItems cs items) (rest : List Char) :
    readMark ']' (cs ++ rest) = none := by
  have hpadded {core cs : List Char} {p : Payload} (h : Derives core p) (hcs : Padded core cs)
      (rest : List Char) : readMark ']' (cs ++ rest) = none := by
    obtain ⟨lead, trail, hlead, -, rfl⟩ := hcs
    obtain ⟨c, core, rfl, hblank, hne⟩ := exists_head_of_derives h
    have hnone : readMark ']' (lead ++ c :: (core ++ (trail ++ rest))) = none :=
      readMark_of_ne hlead hblank hne
    simpa using hnone
  cases h with
  | one h hcs => exact hpadded h hcs rest
  | cons h hcs =>
    rw [List.append_assoc]
    exact hpadded h hcs _

/-- The entries of an object do not begin with its end. -/
theorem readMark_of_derivesEntries (h : DerivesEntries cs written) (rest : List Char) :
    readMark '}' (cs ++ rest) = none := by
  have hpadded {name ks : List Char} {key : String} (hkey : DerivesKey name key)
      (hks : Padded name ks) (rest : List Char) : readMark '}' (ks ++ rest) = none := by
    obtain ⟨lead, trail, hlead, -, rfl⟩ := hks
    obtain ⟨c, name, rfl, hblank, hne⟩ := exists_head_of_derivesKey hkey
    have hnone : readMark '}' (lead ++ c :: (name ++ (trail ++ rest))) = none :=
      readMark_of_ne hlead hblank hne
    simpa using hnone
  cases h with
  | one hkey hks | cons hkey hks =>
    rw [List.append_assoc]
    exact hpadded hkey hks _

mutual

/-- **A payload is read**, inside any brackets. -/
theorem readFrom_of_derives {core : List Char} {p : Payload} (h : Derives core p)
    {lead : List Char} (hlead : Blanks lead) (frames : List Frame) (rest : List Char)
    (hrest : ∀ c ∈ rest.head?, continuesNumeral c = false) :
    readFrom frames .due (lead ++ (core ++ rest)) = readFrom frames (.after p) rest := by
  have hskip {c : Char} {cs : List Char} (hc : isBlank c = false) :
      skipBlanks (lead ++ (c :: cs)) = c :: cs := by
    rw [skipBlanks_append hlead, skipBlanks_of_not_isBlank hc]
  match h with
  | .null | .yes | .no =>
    exact readFrom_of_readScalar hlead frames rfl (by decide) (by decide) (by decide) rfl
  | .number hlegal =>
    obtain ⟨c, after, hcons, hc⟩ := exists_cons_of_legal hlegal
    have hne {d : Char} (hd : ¬(d = '-' ∨ d.isDigit = true)) : c ≠ d := fun heq ↦ hd (heq ▸ hc)
    exact readFrom_of_readScalar hlead frames hcons (isBlank_of_numeral_head hc)
      (hne (by decide)) (hne (by decide)) (readScalar_numeral hlegal hrest)
  | .text hbody =>
    exact readFrom_of_readScalar hlead frames rfl (by decide) (by decide) (by decide)
      (readScalar_text hbody rest)
  | @Derives.arrayNil blanks hblanks =>
    have hclose : readMark ']' (blanks ++ [']'] ++ rest) = some rest := by
      rw [List.append_assoc]
      exact readMark_self hblanks (by decide)
    exact readFrom_arrayNil (hskip (by decide)) hclose
  | .array hitems =>
    have hread := readFrom_of_derivesItems hitems [] frames rest
    rw [List.cons_append, List.append_assoc, List.singleton_append,
      readFrom_array (hskip (by decide)) (readMark_of_derivesItems hitems _), hread]
    rfl
  | @Derives.objectNil blanks hblanks =>
    have hclose : readMark '}' (blanks ++ ['}'] ++ rest) = some rest := by
      rw [List.append_assoc]
      exact readMark_self hblanks (by decide)
    exact readFrom_objectNil (hskip (by decide)) hclose
  | .object hwritten hentries =>
    obtain ⟨key, behind, after, hkey, hcolon, hread⟩ :=
      readFrom_of_derivesEntries hwritten [] frames rest
    rw [List.cons_append, List.append_assoc, List.singleton_append,
      readFrom_object (hskip (by decide)) (readMark_of_derivesEntries hwritten _) hkey hcolon,
      hentries.eq_ofList]
    exact hread

/-- The items of an array are read behind those before them. -/
theorem readFrom_of_derivesItems {cs : List Char} {items : List Payload} (h : DerivesItems cs items)
    (before : List Payload) (frames : List Frame) (rest : List Char) :
    readFrom (.array before :: frames) .due (cs ++ ']' :: rest) =
      readFrom frames (.after (.array (before.reverse ++ items))) rest := by
  match h with
  | .one h hcs =>
    obtain ⟨lead, trail, hlead, htrail, rfl⟩ := hcs
    have hnext := head_append_of_blanks (fun _ ↦ continuesNumeral_of_isBlank) htrail (']' :: rest)
      fun c hc ↦ by cases hc; decide
    have hread := readFrom_of_derives h hlead (.array before :: frames) _ hnext
    rw [List.append_assoc, List.append_assoc, hread,
      readFrom_array_close (readMark_self htrail (by decide)), List.reverse_cons]
  | @DerivesItems.cons core cs more p items h hcs hmore =>
    obtain ⟨lead, trail, hlead, htrail, rfl⟩ := hcs
    have hnext := head_append_of_blanks (fun _ ↦ continuesNumeral_of_isBlank) htrail (',' :: (more ++ ']' :: rest))
      fun c hc ↦ by cases hc; decide
    have hread := readFrom_of_derives h hlead (.array before :: frames) _ hnext
    have hmore := readFrom_of_derivesItems hmore (p :: before) frames rest
    simp only [List.append_assoc, List.cons_append] at hread ⊢
    rw [hread, readFrom_array_comma (readMark_of_ne htrail (by decide) (by decide))
        (readMark_self htrail (by decide)), hmore, List.reverse_cons, List.append_assoc,
      List.singleton_append]

/-- The entries of an object are read behind those before them. -/
theorem readFrom_of_derivesEntries {cs : List Char} {written : List (String × Payload)}
    (h : DerivesEntries cs written) (done : List (String × Payload)) (frames : List Frame)
    (rest : List Char) :
    ∃ key behind after, readKey (cs ++ '}' :: rest) = some (key, behind) ∧
      readMark ':' behind = some after ∧
      readFrom (.object (Entries.ofList done) key :: frames) .due after =
        readFrom frames (.after (.object (Entries.ofList (done ++ written)))) rest := by
  match h with
  | @DerivesEntries.one name ks core cs key p hkey hks h hcs =>
    obtain ⟨first, second, hfirst, hsecond, rfl⟩ := hks
    obtain ⟨lead, trail, hlead, htrail, rfl⟩ := hcs
    have hnext := head_append_of_blanks (fun _ ↦ continuesNumeral_of_isBlank) htrail ('}' :: rest)
      fun c hc ↦ by cases hc; decide
    have hread := readFrom_of_derives h hlead (.object (Entries.ofList done) key :: frames) _ hnext
    refine ⟨key, second ++ ':' :: (lead ++ (core ++ (trail ++ '}' :: rest))),
      lead ++ (core ++ (trail ++ '}' :: rest)), ?_, readMark_self hsecond (by decide), ?_⟩
    · have hname := readKey_before_colon hkey hfirst hsecond
        (lead ++ (core ++ (trail ++ '}' :: rest)))
      simpa only [List.append_assoc, List.cons_append] using hname
    · rw [hread, readFrom_object_close (readMark_self htrail (by decide)),
        Entries.ofList_append_singleton]
  | @DerivesEntries.cons name ks core cs more key p written hkey hks h hcs hmore =>
    obtain ⟨first, second, hfirst, hsecond, rfl⟩ := hks
    obtain ⟨lead, trail, hlead, htrail, rfl⟩ := hcs
    have hnext := head_append_of_blanks (fun _ ↦ continuesNumeral_of_isBlank) htrail (',' :: (more ++ '}' :: rest))
      fun c hc ↦ by cases hc; decide
    have hread := readFrom_of_derives h hlead (.object (Entries.ofList done) key :: frames) _ hnext
    obtain ⟨next, behind, after, hnextKey, hcolon, hmore⟩ :=
      readFrom_of_derivesEntries hmore (done ++ [(key, p)]) frames rest
    refine ⟨key, second ++ ':' :: (lead ++ (core ++ (trail ++ ',' :: (more ++ '}' :: rest)))),
      lead ++ (core ++ (trail ++ ',' :: (more ++ '}' :: rest))), ?_,
      readMark_self hsecond (by decide), ?_⟩
    · have hname := readKey_before_colon hkey hfirst hsecond
        (lead ++ (core ++ (trail ++ ',' :: (more ++ '}' :: rest))))
      simpa only [List.append_assoc, List.cons_append] using hname
    · rw [hread, readFrom_object_comma (readMark_of_ne htrail (by decide) (by decide))
        (readMark_self htrail (by decide)) hnextKey hcolon, ← Entries.ofList_append_singleton, hmore,
        List.append_assoc, List.singleton_append]

end

/-! ### Nothing else is read -/

theorem DerivesItems.concat {cs more core : List Char} {items : List Payload} {p : Payload}
    (hcore : Derives core p) (hmore : Padded core more) :
    DerivesItems cs items → DerivesItems (cs ++ ',' :: more) (items ++ [p])
  | .one h hcs => .cons h hcs (.one hcore hmore)
  | .cons h hcs hrest => by
    rw [List.append_assoc, List.cons_append]
    exact .cons h hcs (DerivesItems.concat hcore hmore hrest)

theorem DerivesEntries.concat {cs name ks more core : List Char}
    {written : List (String × Payload)} {key : String} {p : Payload} (hkey : DerivesKey name key)
    (hks : Padded name ks) (hcore : Derives core p) (hmore : Padded core more) :
    DerivesEntries cs written →
      DerivesEntries (cs ++ ',' :: (ks ++ ':' :: more)) (written ++ [(key, p)])
  | .one hkey' hks' h hcs => by
    rw [List.append_assoc, List.cons_append]
    exact .cons hkey' hks' h hcs (.one hkey hks hcore hmore)
  | .cons hkey' hks' h hcs hrest => by
    rw [List.append_assoc, List.cons_append, List.append_assoc, List.cons_append]
    exact .cons hkey' hks' h hcs (DerivesEntries.concat hkey hks hcore hmore hrest)

/-- The characters are what stands before the next item of an array: nothing, or items and a comma. -/
inductive ItemsBefore : List Char → List Payload → Prop where
  /-- Nothing. -/
  | nil : ItemsBefore [] []
  /-- Items and a comma. -/
  | comma {cs : List Char} {items : List Payload} (h : DerivesItems cs items) :
    ItemsBefore (cs ++ [',']) items

/-- The characters are what stands before the next entry of an object: nothing, or entries and a
comma. -/
inductive EntriesBefore : List Char → List (String × Payload) → Prop where
  /-- Nothing. -/
  | nil : EntriesBefore [] []
  /-- Entries and a comma. -/
  | comma {cs : List Char} {written : List (String × Payload)} (h : DerivesEntries cs written) :
    EntriesBefore (cs ++ [',']) written

theorem ItemsBefore.derivesItems (h : ItemsBefore cs items) {more : List Char}
    (hcore : Derives core p) (hmore : Padded core more) :
    DerivesItems (cs ++ more) (items ++ [p]) := by
  cases h with
  | nil => exact .one hcore hmore
  | comma h =>
    rw [List.append_assoc, List.singleton_append]
    exact DerivesItems.concat hcore hmore h

theorem EntriesBefore.derivesEntries (h : EntriesBefore cs written) {ks more : List Char}
    (hkey : DerivesKey name key) (hks : Padded name ks) (hcore : Derives core p)
    (hmore : Padded core more) :
    DerivesEntries (cs ++ (ks ++ ':' :: more)) (written ++ [(key, p)]) := by
  cases h with
  | nil => exact .one hkey hks hcore hmore
  | comma h =>
    rw [List.append_assoc, List.singleton_append]
    exact DerivesEntries.concat hkey hks hcore hmore h

/-- The characters are the beginning of a payload, whose open brackets the frames are, and a payload
is due. -/
inductive Opened : List Char → List Frame → Prop where
  /-- No bracket is open. -/
  | nil {blanks : List Char} (h : Blanks blanks) : Opened blanks []
  /-- The innermost bracket is that of an array. -/
  | array {front cs blanks : List Char} {before : List Payload} {frames : List Frame}
      (h : Opened front frames) (hbefore : ItemsBefore cs before.reverse) (hblanks : Blanks blanks) :
    Opened (front ++ '[' :: (cs ++ blanks)) (.array before :: frames)
  /-- The innermost bracket is that of an object. -/
  | object {front cs name ks blanks : List Char} {key : String} {written : List (String × Payload)}
      {frames : List Frame} (h : Opened front frames) (hbefore : EntriesBefore cs written)
      (hkey : DerivesKey name key) (hks : Padded name ks) (hblanks : Blanks blanks) :
    Opened (front ++ '{' :: (cs ++ (ks ++ ':' :: blanks)))
      (.object (Entries.ofList written) key :: frames)

/-- The characters are what has been read since a payload was due. -/
inductive Reached : Place → List Char → Prop where
  /-- It is due still. -/
  | due : Reached .due []
  /-- It has been read. -/
  | after {core : List Char} {p : Payload} (h : Derives core p) : Reached (.after p) core

theorem Opened.append_blanks {front : List Char} (h : Opened front frames) (hblanks : Blanks blanks) :
    Opened (front ++ blanks) frames := by
  cases h with
  | nil h => exact .nil (h.append hblanks)
  | array h hbefore hmore =>
    rw [List.append_assoc, List.cons_append, List.append_assoc]
    exact .array h hbefore (hmore.append hblanks)
  | object h hbefore hkey hks hmore =>
    rw [List.append_assoc, List.cons_append, List.append_assoc, List.append_assoc, List.cons_append]
    exact .object h hbefore hkey hks (hmore.append hblanks)

/-- The text has been read up to `cs`, and the frames and the place tell what has been read. -/
def ReadUpTo (text : List Char) (frames : List Frame) (place : Place) (cs : List Char) : Prop :=
  ∃ front inner, Opened front frames ∧ Reached place inner ∧ text = front ++ (inner ++ cs)

section

variable {text : List Char}

/-- Blanks before a payload may be passed over. -/
theorem ReadUpTo.skip (h : ReadUpTo text frames .due cs) :
    ∃ front, Opened front frames ∧ text = front ++ skipBlanks cs := by
  obtain ⟨front, inner, hfront, hinner, rfl⟩ := h
  cases hinner
  obtain ⟨lead, hlead, hcs⟩ := exists_blanks_append cs
  refine ⟨front ++ lead, hfront.append_blanks hlead, ?_⟩
  rw [List.nil_append, List.append_assoc, hcs]

/-- What has been passed over is a payload. -/
theorem ReadUpTo.passed {front : List Char} (hfront : Opened front frames) (h : Derives core p)
    (htext : text = front ++ (core ++ rest)) : ReadUpTo text frames (.after p) rest :=
  ⟨front, core, hfront, .after h, htext⟩

/-- A bracket has been opened, or a comma follows in it, and the next item is due. -/
theorem ReadUpTo.item {front inner : List Char} {before : List Payload} (hfront : Opened front frames)
    (hbefore : ItemsBefore inner before.reverse) (htext : text = front ++ '[' :: (inner ++ rest)) :
    ReadUpTo text (.array before :: frames) .due rest :=
  ⟨_, [], .array hfront hbefore blanks_nil, .due, by simpa using htext⟩

/-- A key has been read, and its value is due. -/
theorem ReadUpTo.entry {front inner mid behind : List Char} (hfront : Opened front frames)
    (hbefore : EntriesBefore inner written) (hkey : readKey mid = some (key, behind))
    (hcolon : readMark ':' behind = some rest) (htext : text = front ++ '{' :: (inner ++ mid)) :
    ReadUpTo text (.object (Entries.ofList written) key :: frames) .due rest := by
  obtain ⟨first, name, hfirst, hname, rfl⟩ := derives_of_readKey hkey
  obtain ⟨second, hsecond, rfl⟩ := exists_blanks_of_readMark hcolon
  have hks : Padded name (first ++ (name ++ second)) := ⟨first, second, hfirst, hsecond, rfl⟩
  exact ⟨_, [], .object hfront hbefore hname hks blanks_nil, .due, by simpa using htext⟩

/-- **The items of an array so far**, up to the one that has been read. -/
theorem ReadUpTo.itemsSoFar {before : List Payload}
    (h : ReadUpTo text (.array before :: frames) (.after p) cs) (hcs : readMark c cs = some rest) :
    ∃ front inner, Opened front frames ∧ DerivesItems inner (p :: before).reverse ∧
      text = front ++ '[' :: (inner ++ c :: rest) := by
  obtain ⟨front, core, hfront, hinner, rfl⟩ := h
  obtain ⟨trail, htrail, rfl⟩ := exists_blanks_of_readMark hcs
  cases hfront with
  | @array front inner lead _ _ hfront hbefore hlead =>
    cases hinner with
    | after hcore =>
      have hpadded : Padded core (lead ++ (core ++ trail)) := ⟨lead, trail, hlead, htrail, rfl⟩
      refine ⟨front, inner ++ (lead ++ (core ++ trail)), hfront, ?_, by simp⟩
      rw [List.reverse_cons]
      exact hbefore.derivesItems hcore hpadded

/-- **The entries of an object so far**, up to the value that has been read. -/
theorem ReadUpTo.entriesSoFar (h : ReadUpTo text (.object before key :: frames) (.after p) cs)
    (hcs : readMark c cs = some rest) :
    ∃ front inner written, Opened front frames ∧ DerivesEntries inner written ∧
      Entries.put key p before = Entries.ofList written ∧
      text = front ++ '{' :: (inner ++ c :: rest) := by
  obtain ⟨front, core, hfront, hinner, rfl⟩ := h
  obtain ⟨trail, htrail, rfl⟩ := exists_blanks_of_readMark hcs
  cases hfront with
  | @object front inner name ks lead _ written _ hfront hbefore hkey hks hlead =>
    cases hinner with
    | after hcore =>
      have hpadded : Padded core (lead ++ (core ++ trail)) := ⟨lead, trail, hlead, htrail, rfl⟩
      exact ⟨front, inner ++ (ks ++ ':' :: (lead ++ (core ++ trail))), written ++ [(key, p)], hfront,
        hbefore.derivesEntries hkey hks hcore hpadded, (Entries.ofList_append_singleton _ _ _).symm,
        by simp⟩

/-- **Only payloads are read**, whatever brackets were open before. -/
theorem derives_of_readFrom {place : Place} (hread : ReadUpTo text frames place cs)
    (h : readFrom frames place cs = some (q, rest)) :
    ∃ lead core, Blanks lead ∧ Derives core q ∧ text = lead ++ (core ++ rest) := by
  fun_induction readFrom frames place cs with
  | case1 frames cs after hskip last hclose ih =>
    obtain ⟨front, hfront, htext⟩ := hread.skip
    obtain ⟨blanks, hblanks, rfl⟩ := exists_blanks_of_readMark hclose
    exact ih (.passed hfront (.objectNil hblanks) (by simp [htext, hskip])) h
  | case4 frames cs after hskip hopen key behind hkey last hcolon ih =>
    obtain ⟨front, hfront, htext⟩ := hread.skip
    exact ih (.entry hfront .nil hkey hcolon (by simp [htext, hskip])) h
  | case5 frames cs after hskip last hclose ih =>
    obtain ⟨front, hfront, htext⟩ := hread.skip
    obtain ⟨blanks, hblanks, rfl⟩ := exists_blanks_of_readMark hclose
    exact ih (.passed hfront (.arrayNil hblanks) (by simp [htext, hskip])) h
  | case6 frames cs after hskip hopen ih =>
    obtain ⟨front, hfront, htext⟩ := hread.skip
    exact ih (.item hfront .nil (by simp [htext, hskip])) h
  | case8 frames cs p after hbrace hbracket hscalar ih =>
    obtain ⟨front, hfront, htext⟩ := hread.skip
    obtain ⟨core, hcore, hcs⟩ := derives_of_readScalar hscalar
    exact ih (.passed hfront hcore (by rw [htext, hcs])) h
  | case9 cs p =>
    cases h
    obtain ⟨front, core, hfront, hinner, rfl⟩ := hread
    cases hfront with
    | nil hblanks =>
      cases hinner with
      | after hcore => exact ⟨front, core, hblanks, hcore, rfl⟩
  | case10 cs p before frames after hclose ih =>
    obtain ⟨front, inner, hfront, hitems, htext⟩ := hread.itemsSoFar hclose
    exact ih (.passed hfront (.array hitems) (by simp [htext])) h
  | case12 cs p before frames hopen after hcomma ih =>
    obtain ⟨front, inner, hfront, hitems, htext⟩ := hread.itemsSoFar hcomma
    exact ih (.item hfront (.comma hitems) (by simp [htext])) h
  | case13 cs p before key frames after hclose ih =>
    obtain ⟨front, inner, written, hfront, hentries, hput, htext⟩ := hread.entriesSoFar hclose
    rw [hput] at ih h
    exact ih (.passed hfront (.object hentries (Entries.settles_ofList _)) (by simp [htext])) h
  | case17 cs p before key frames hopen mid hcomma next behind hkey after hcolon ih =>
    obtain ⟨front, inner, written, hfront, hentries, hput, htext⟩ := hread.entriesSoFar hcomma
    rw [hput] at ih h
    exact ih (.entry hfront (.comma hentries) hkey hcolon (by simp [htext])) h
  | case2 | case3 | case7 | case11 | case14 | case15 | case16 => cases h

end

/-! ### The whole text -/

/-- The text is a payload, with blanks around it. -/
def Stands (cs : List Char) (p : Payload) : Prop := ∃ core, Derives core p ∧ Padded core cs

/-- **A text is read as what it derives.** -/
theorem ofChars?_eq_some_iff : ofChars? cs = some p ↔ Stands cs p := by
  constructor
  · intro h
    unfold ofChars? at h
    split at h
    · next q rest hread =>
      split at h
      · next hblank =>
        cases h
        obtain ⟨lead, core, hlead, hcore, rfl⟩ :=
          derives_of_readFrom ⟨[], [], .nil blanks_nil, .due, rfl⟩ hread
        have hrest : Blanks rest := skipBlanks_eq_nil_iff.1 (List.isEmpty_iff.1 hblank)
        exact ⟨core, hcore, lead, rest, hlead, hrest, rfl⟩
      · cases h
    · cases h
  · rintro ⟨core, hcore, lead, trail, hlead, htrail, rfl⟩
    have hnext := head_append_of_blanks (fun _ ↦ continuesNumeral_of_isBlank) htrail [] nofun
    rw [List.append_nil] at hnext
    rw [ofChars?, readFrom_of_derives hcore hlead [] trail hnext, readFrom_nil]
    dsimp only
    rw [skipBlanks_eq_nil_iff.2 htrail]
    rfl

/-- **The grammar of payloads**: a text is read as the payload that it derives, it is refused if it
derives none, and no object of what is read has a key twice, at any depth. -/
theorem ofText?_iff_derives (t : String) :
    (∀ p, ofText? t = some p ↔ Stands t.toList p) ∧
      (ofText? t = none ↔ ∀ p, ¬Stands t.toList p) ∧
      ∀ p, ofText? t = some p → p.Legal := by
  have hsome : ∀ p, ofText? t = some p ↔ Stands t.toList p := fun p ↦ ofChars?_eq_some_iff
  refine ⟨hsome, ?_, fun p h ↦ ?_⟩
  · simp only [← hsome, Option.eq_none_iff_forall_ne_some]
  · obtain ⟨core, hcore, -⟩ := (hsome p).1 h
    exact hcore.legal

end RecordStore.Payload
