import RecordStore.Proofs.Payload.Reading

/-!
# Reading inside brackets

The reader keeps the brackets that are open in a list of frames and never returns to where one of them
was opened. It might have: what it does inside any frames is to read a payload as if there were none,
and then to go on in the frames (`readFrom_due`). This is how a reader of payloads that calls itself for
what stands in a bracket goes about it.

The equations here say what one turn of the reader does where it goes on and where it stops, so that
whoever needs a turn need not open it.
-/

namespace RecordStore.Payload

open RecordStore.Text RecordStore.Number

variable {c : Char} {cs rest after : List Char} {key : String} {p : Payload}
  {frames : List Frame} {items : List Payload} {before : Entries String Payload}

/-! ### One turn of the reader, also where it stops -/

/-- Reads on where a key is due, inside an object whose entries so far are `before`. -/
def readEntriesFrom (frames : List Frame) (before : Entries String Payload) (cs : List Char) :
    Option (Payload × List Char) :=
  (readKey cs).bind fun named ↦
    (readMark ':' named.2).bind fun rest ↦ readFrom (.object before named.1 :: frames) .due rest

theorem readFrom_due_scalar (hbrace : ∀ rest, skipBlanks cs ≠ '{' :: rest)
    (hbracket : ∀ rest, skipBlanks cs ≠ '[' :: rest) :
    readFrom frames .due cs =
      (readScalar (skipBlanks cs)).bind fun found ↦ readFrom frames (.after found.1) found.2 := by
  rw [readFrom.eq_def]
  dsimp only
  split
  · next heq => exact absurd heq (hbrace _)
  · next heq => exact absurd heq (hbracket _)
  · split
    · next heq => rw [heq]; rfl
    · next heq => rw [heq]; rfl

theorem readFrom_due_object (hskip : skipBlanks cs = '{' :: rest) (hopen : readMark '}' rest = none) :
    readFrom frames .due cs = readEntriesFrom frames [] rest := by
  rw [readFrom.eq_def, readEntriesFrom]
  dsimp only
  split
  · next heq =>
    cases hskip.symm.trans heq
    split
    · next heq => cases hopen.symm.trans heq
    · split
      · next heq => rw [heq]; rfl
      · next heq =>
        rw [heq, Option.bind_some]
        split
        · next heq => rw [heq]; rfl
        · next heq => rw [heq]; rfl
  · next heq => exact absurd (List.cons.inj (hskip.symm.trans heq)).1 (by decide)
  · next heq _ => exact absurd hskip (heq rest)

theorem readFrom_after_array (hopen : readMark ']' cs = none) :
    readFrom (.array items :: frames) (.after p) cs =
      (readMark ',' cs).bind fun rest ↦ readFrom (.array (p :: items) :: frames) .due rest := by
  rw [readFrom.eq_def]
  dsimp only
  split
  · next heq => cases hopen.symm.trans heq
  · split
    · next heq => rw [heq]; rfl
    · next heq => rw [heq]; rfl

theorem readFrom_after_object (hopen : readMark '}' cs = none) :
    readFrom (.object before key :: frames) (.after p) cs =
      (readMark ',' cs).bind fun rest ↦ readEntriesFrom frames (Entries.put key p before) rest := by
  rw [readFrom.eq_def]
  dsimp only
  split
  · next heq => cases hopen.symm.trans heq
  · split
    · next heq => rw [heq]; rfl
    · next heq =>
      rw [heq, Option.bind_some, readEntriesFrom]
      split
      · next heq => rw [heq]; rfl
      · next heq =>
        rw [heq, Option.bind_some]
        split
        · next heq => rw [heq]; rfl
        · next heq => rw [heq]; rfl

/-! ### Blanks before what is due -/

theorem skipBlanks_skipBlanks (cs : List Char) : skipBlanks (skipBlanks cs) = skipBlanks cs :=
  skipBlanks_eq_self fun c hc ↦ by
    obtain ⟨rest, hrest⟩ := List.head?_eq_some_iff.1 hc
    exact isBlank_head_skipBlanks hrest

theorem readMark_skipBlanks (c : Char) (cs : List Char) :
    readMark c (skipBlanks cs) = readMark c cs := by
  rw [readMark, readMark, skipBlanks_skipBlanks]

theorem readMark_self_cons (hblank : isBlank c = false) : readMark c (c :: rest) = some rest := by
  rw [readMark, skipBlanks_of_not_isBlank hblank]
  exact if_pos rfl

theorem readKey_skipBlanks (cs : List Char) : readKey (skipBlanks cs) = readKey cs := by
  rw [readKey, readKey, skipBlanks_skipBlanks]

theorem readEntriesFrom_skipBlanks (frames : List Frame) (before : Entries String Payload)
    (cs : List Char) :
    readEntriesFrom frames before (skipBlanks cs) = readEntriesFrom frames before cs := by
  rw [readEntriesFrom, readEntriesFrom, readKey_skipBlanks]

theorem readFrom_skipBlanks (frames : List Frame) (cs : List Char) :
    readFrom frames .due (skipBlanks cs) = readFrom frames .due cs := by
  have hskip := skipBlanks_skipBlanks cs
  by_cases hbrace : ∃ rest, skipBlanks cs = '{' :: rest
  · obtain ⟨rest, hcs⟩ := hbrace
    cases hclose : readMark '}' rest with
    | some after => rw [readFrom_objectNil hcs hclose, readFrom_objectNil (hskip.trans hcs) hclose]
    | none => rw [readFrom_due_object hcs hclose, readFrom_due_object (hskip.trans hcs) hclose]
  by_cases hbracket : ∃ rest, skipBlanks cs = '[' :: rest
  · obtain ⟨rest, hcs⟩ := hbracket
    cases hclose : readMark ']' rest with
    | some after => rw [readFrom_arrayNil hcs hclose, readFrom_arrayNil (hskip.trans hcs) hclose]
    | none => rw [readFrom_array hcs hclose, readFrom_array (hskip.trans hcs) hclose]
  rw [not_exists] at hbrace hbracket
  rw [readFrom_due_scalar hbrace hbracket,
    readFrom_due_scalar (hskip.symm ▸ hbrace) (hskip.symm ▸ hbracket), hskip]

/-! ### Frames around a payload -/

/-- **Frames may be put off**: first what stands in the inner ones, then what stands in the outer. -/
theorem readFrom_append (inner frames : List Frame) (place : Place) (cs : List Char) :
    readFrom (inner ++ frames) place cs =
      (readFrom inner place cs).bind fun found ↦ readFrom frames (.after found.1) found.2 := by
  fun_induction readFrom inner place cs with
  | case1 frames' cs rest hskip after hclose ih => rw [readFrom_objectNil hskip hclose, ih]
  | case2 frames' cs rest hskip hopen hkey =>
    rw [readFrom_due_object hskip hopen, readEntriesFrom, hkey]
    rfl
  | case3 frames' cs rest hskip hopen key behind hkey hcolon =>
    rw [readFrom_due_object hskip hopen, readEntriesFrom, hkey, Option.bind_some, hcolon]
    rfl
  | case4 frames' cs rest hskip hopen key behind hkey after hcolon ih =>
    rw [readFrom_object hskip hopen hkey hcolon]
    exact ih
  | case5 frames' cs rest hskip after hclose ih => rw [readFrom_arrayNil hskip hclose, ih]
  | case6 frames' cs rest hskip hopen ih =>
    rw [readFrom_array hskip hopen]
    exact ih
  | case7 frames' cs hbrace hbracket hscalar =>
    rw [readFrom_due_scalar hbrace hbracket, hscalar]
    rfl
  | case8 frames' cs p after hbrace hbracket hscalar ih =>
    rw [readFrom_due_scalar hbrace hbracket, hscalar, Option.bind_some, ih]
  | case9 p cs => rfl
  | case10 cs p items frames' after hclose ih =>
    rw [List.cons_append, readFrom_array_close hclose, ih]
  | case11 cs p items frames' hopen hcomma =>
    rw [List.cons_append, readFrom_after_array hopen, hcomma]
    rfl
  | case12 cs p items frames' hopen after hcomma ih =>
    rw [List.cons_append, readFrom_array_comma hopen hcomma]
    exact ih
  | case13 cs p before key frames' after hclose ih =>
    rw [List.cons_append, readFrom_object_close hclose, ih]
  | case14 cs p before key frames' hopen hcomma =>
    rw [List.cons_append, readFrom_after_object hopen, hcomma]
    rfl
  | case15 cs p before key frames' hopen behind hcomma hkey =>
    rw [List.cons_append, readFrom_after_object hopen, hcomma, Option.bind_some, readEntriesFrom, hkey]
    rfl
  | case16 cs p before key frames' hopen behind hcomma next after hkey hcolon =>
    rw [List.cons_append, readFrom_after_object hopen, hcomma, Option.bind_some, readEntriesFrom, hkey,
      Option.bind_some, hcolon]
    rfl
  | case17 cs p before key frames' hopen behind hcomma next after hkey rest hcolon ih =>
    rw [List.cons_append, readFrom_object_comma hopen hcomma hkey hcolon]
    exact ih

/-- A payload is read to its end, and then what is around it. -/
theorem readFrom_due (frames : List Frame) (cs : List Char) :
    readFrom frames .due cs =
      (readFrom [] .due cs).bind fun found ↦ readFrom frames (.after found.1) found.2 :=
  readFrom_append [] frames .due cs

/-- A payload takes at least one character. -/
theorem length_readFrom_lt (h : readFrom [] .due cs = some (p, rest)) : rest.length < cs.length := by
  obtain ⟨lead, core, -, hcore, hcs⟩ :=
    derives_of_readFrom ⟨[], [], .nil blanks_nil, .due, rfl⟩ h
  obtain ⟨c, core, rfl, -, -⟩ := exists_head_of_derives hcore
  rw [List.nil_append, List.nil_append] at hcs
  rw [hcs, List.length_append, List.length_append, List.length_cons]
  omega

end RecordStore.Payload
