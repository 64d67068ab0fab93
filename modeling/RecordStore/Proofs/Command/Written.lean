import RecordStore.Proofs.Command.Parts
import RecordStore.Proofs.Payload.Written

/-!
# Writing commands

A statement is written as a line of text: the verb in any case of its letters, the name of the type,
the filter in parentheses, the payload, and any blanks between them (`Written`). The filter has no
more parentheses than it needs, and the payload is an object with quoted keys. What is written is
read back as the statement (`roundtrip`), if it is one that a line can have: the name of the type is
one word, the filter is that of some text, without a quote in a bare word, and the payload is legal
(`Legal`).

Nothing is asked of the texts in the filter and in the payload. They may hold any quotes, brackets
and words, and still no reader takes a part of them for the end of something else.
-/

namespace RecordStore

open RecordStore.Text

/-- A filter that some text stands for, and that has no quote in a bare word. -/
def Filter.Legal (filter : Filter) : Prop :=
  (∃ text, ofText text = .ok filter) ∧ ∀ w, .bare w ∈ filter.operands → '"' ∉ w.toList

theorem Filter.Legal.ofText_of_spells {filter : Filter} (h : filter.Legal) {cs : List Char}
    (hcs : Token.Spells filter.tokens cs) : ofText (String.ofList cs) = .ok filter := by
  obtain ⟨⟨text, htext⟩, -⟩ := h
  exact Filter.ofText_of_spells (fun _ hx ↦ readable_of_ofText htext hx) hcs

/-! ### Declarations of fields -/

/-- The payload that declares a field. -/
def Field.declaration (field : Field) : Payload :=
  .object [("type", .text field.kind.name), ("required", .bool field.required),
    ("unique", .bool field.unique)]

/-- The payloads that declare fields, under their names. -/
def Field.declarations (fields : List Field) : Entries String Payload :=
  fields.map fun field ↦ (field.name, field.declaration)

theorem Field.declared_declaration (field : Field) :
    declared field.name field.declaration = .ok field := by
  have hkind : Kind.named field.kind.name = .ok field.kind := by
    rw [Kind.named, Kind.ofName?_name]
  rw [declaration, declared]
  show (Kind.named field.kind.name >>= _) = _
  rw [hkind]
  rfl

theorem Field.declaredAll_declarations (fields : List Field) :
    declaredAll (declarations fields) = .ok fields := by
  induction fields with
  | nil => rfl
  | cons field fields ih =>
    rw [declarations, List.map_cons, declaredAll, declared_declaration]
    show (declaredAll (declarations fields) >>= _) = _
    rw [ih]
    rfl

theorem Field.legal_declarations {fields : List Field} (h : (fields.map Field.name).Nodup) :
    (Payload.object (declarations fields)).Legal := by
  refine .object ?_ fun e he ↦ ?_
  · rwa [declarations, List.map_map]
  · obtain ⟨field, -, rfl⟩ := List.mem_map.1 he
    have hkeys : ["type", "required", "unique"].Nodup := by decide
    refine .object hkeys fun f hf ↦ ?_
    simp only [List.mem_cons, List.not_mem_nil, or_false] at hf
    rcases hf with rfl | rfl | rfl
    · exact .text _
    · exact .bool _
    · exact .bool _

namespace Statement

/-! ### The parts of a statement -/

/-- The verb of a statement. -/
def verb : Statement → Verb
  | create .. => .create
  | insert .. => .insert
  | update .. => .update
  | delete .. => .delete
  | search .. => .search

/-- The name of the type that a statement is about. -/
def type : Statement → String
  | create type _ | insert type _ | update type .. | delete type _ | search type _ => type

/-- The filter of a statement. -/
def filter : Statement → Option Filter
  | create .. | insert .. => none
  | update _ filter _ | delete _ filter | search _ filter => filter

/-- The payload of a statement. -/
def payload : Statement → Option (Entries String Payload)
  | create _ fields => some (Field.declarations fields)
  | insert _ values | update _ _ values => some values
  | delete .. | search .. => none

/-- A statement that a line of text can have. -/
inductive Legal : Statement → Prop where
  /-- A new type has fields, each with a name of its own. -/
  | create {type : String} {fields : List Field} (hname : CanNameType type) (hne : fields ≠ [])
      (hnames : (fields.map Field.name).Nodup) : Legal (.create type fields)
  /-- A new record has a legal payload. -/
  | insert {type : String} {values : Entries String Payload} (hname : CanNameType type)
      (hvalues : (Payload.object values).Legal) : Legal (.insert type values)
  /-- New values come in a legal payload, for a legal filter. -/
  | update {type : String} {filter : Option Filter} {values : Entries String Payload}
      (hname : CanNameType type) (hfilter : ∀ f ∈ filter, f.Legal)
      (hvalues : (Payload.object values).Legal) : Legal (.update type filter values)
  /-- What is removed is selected by a legal filter. -/
  | delete {type : String} {filter : Option Filter} (hname : CanNameType type)
      (hfilter : ∀ f ∈ filter, f.Legal) : Legal (.delete type filter)
  /-- What is shown is selected by a legal filter. -/
  | search {type : String} {filter : Option Filter} (hname : CanNameType type)
      (hfilter : ∀ f ∈ filter, f.Legal) : Legal (.search type filter)

/-- The characters are a filter in parentheses, or none. -/
inductive WrittenFilter : Option Filter → List Char → Prop where
  /-- No filter. -/
  | none : WrittenFilter none []
  /-- A filter, by its tokens. -/
  | some {filter : Filter} {cs : List Char} (h : Token.Spells filter.tokens cs) :
    WrittenFilter (some filter) ('(' :: (cs ++ [')']))

/-- The characters are an object in braces, or none. -/
inductive WrittenPayload : Option (Entries String Payload) → List Char → Prop where
  /-- No payload. -/
  | none : WrittenPayload none []
  /-- An object. -/
  | some {entries : Entries String Payload} {cs : List Char}
      (h : Payload.Written (.object entries) cs) : WrittenPayload (some entries) cs

/-- The line of text is the statement: its verb in any case, its type, its filter and its payload,
with blanks between them and around them. -/
inductive Written (s : Statement) : String → Prop where
  /-- Behind the verb, the blanks are needed. -/
  | intro {word : String} {before gap behind between after filter payload : List Char}
      (hword : equalsIgnoringAsciiCase word s.verb.word = true) (hne : gap ≠ [])
      (hbefore : Blanks before) (hgap : Blanks gap) (hbehind : Blanks behind)
      (hbetween : Blanks between) (hafter : Blanks after) (hfilter : WrittenFilter s.filter filter)
      (hpayload : WrittenPayload s.payload payload) :
    Written s (String.ofList (before ++ (word.toList ++ (gap ++ (s.type.toList ++
      (behind ++ (filter ++ (between ++ (payload ++ after)))))))))

theorem Legal.canNameType {s : Statement} (h : s.Legal) : CanNameType s.type := by
  cases h <;> assumption

/-! ### Reading the parts -/

variable {name line : String} {gap behind between after filterText payloadText : List Char}
  {filter : Option Filter} {values : Entries String Payload}

/-- An object is written in braces. -/
theorem exists_inner_of_written {cs : List Char} (h : Payload.Written (.object values) cs) :
    ∃ inner, cs = '{' :: (inner ++ ['}']) := by
  cases h with
  | objectNil | object => exact ⟨_, rfl⟩

section

variable (hname : CanNameType name) (hgap : Blanks gap) (hbehind : Blanks behind)
  (hbetween : Blanks between) (hafter : Blanks after)

include hname hgap hbehind hbetween hafter

/-- The name of a type and a payload are read. -/
theorem splitName_of_written (verb : Verb) (hpayload : Payload.Written (.object values) payloadText) :
    splitName verb (gap ++ (name.toList ++ dropTrailingBlanks
      (behind ++ ([] ++ (between ++ (payloadText ++ after)))))) = .ok (name, payloadText) := by
  obtain ⟨inner, rfl⟩ := exists_inner_of_written hpayload
  have htrimmed := trimmed_of_ends (show isBlank '{' = false by decide)
    (show isBlank '}' = false by decide) inner
  have hhead := head_blanks_append (hbehind.append hbetween) ('{' :: (inner ++ ['}']) ++ after)
    fun c hc ↦ by cases hc; decide
  have hsplit := splitName_laidOut verb hgap hname hhead
  rw [trimChars_append_left (hbehind.append hbetween), trimChars_append_right hafter,
    htrimmed.trimChars_eq] at hsplit
  rwa [List.append_assoc] at hsplit

/-- The name of a type and an optional filter are read. -/
theorem readSelection_of_written (verb : Verb) (hlegal : ∀ f ∈ filter, f.Legal)
    (hfilter : WrittenFilter filter filterText) :
    readSelection verb (gap ++ (name.toList ++ dropTrailingBlanks
      (behind ++ (filterText ++ (between ++ ([] ++ after)))))) = .ok (name, filter) := by
  cases hfilter with
  | none =>
    have hblanks : Blanks (behind ++ ([] ++ (between ++ ([] ++ after)))) :=
      hbehind.append (hbetween.append hafter)
    have hhead : ∀ c ∈ (behind ++ ([] ++ (between ++ ([] ++ after)))).head?, endsName c = true := by
      intro c hc
      rw [endsName, hblanks c (List.mem_of_head? hc)]
      rfl
    have htrim : trimChars (behind ++ ([] ++ (between ++ ([] ++ after)))) = [] := by
      rw [trimChars, skipBlanks_eq_nil_iff.2 hblanks]
      rfl
    rw [readSelection, splitName_laidOut verb hgap hname hhead, htrim]
    rfl
  | @some f cs h =>
    have hf := hlegal f rfl
    have hread := readSelection_of_filterText hname hgap hbehind (hbetween.append hafter)
      (hf.ofText_of_spells h) hf.2 verb
    rwa [String.toList_ofList] at hread

/-- An update is read. -/
theorem ofVerb_update_of_written (hlegal : ∀ f ∈ filter, f.Legal)
    (hvalues : (Payload.object values).Legal) (hfilter : WrittenFilter filter filterText)
    (hpayload : Payload.Written (.object values) payloadText) :
    ofVerb .update (gap ++ (name.toList ++ dropTrailingBlanks
      (behind ++ (filterText ++ (between ++ (payloadText ++ after)))))) =
        .ok (.update name filter values) := by
  have hread := Payload.ofChars?_of_written hpayload hvalues
  cases hfilter with
  | none =>
    have hsplit := splitName_of_written hname hgap hbehind hbetween hafter .update hpayload
    obtain ⟨inner, rfl⟩ := exists_inner_of_written hpayload
    rw [ofVerb]
    show (splitName .update _ >>= _) = _
    rw [hsplit]
    show (readPayload .update _ >>= _) = _
    rw [readPayload_of_object .update hread]
    rfl
  | @some f cs h =>
    have hf := hlegal f rfl
    obtain ⟨inner, rfl⟩ := exists_inner_of_written hpayload
    have hupdate := ofVerb_update_of_filterText hname hgap hbehind hafter (hf.ofText_of_spells h) hf.2
      hbetween hread
    rw [String.toList_ofList] at hupdate
    simpa only [List.append_assoc, List.cons_append, List.nil_append, List.singleton_append] using
      hupdate

end

/-! ### The round trip -/

/-- **What is written is read.** -/
theorem ofText_of_written {s : Statement} (hs : s.Legal) (h : Written s line) : ofText line = .ok s := by
  obtain ⟨hword, hne, hbefore, hgap, hbehind, hbetween, hafter, hfilter, hpayload⟩ := h
  have hname := hs.canNameType
  rw [ofText_laidOut hword hbefore hgap hne hname String.toList_ofList]
  cases hs with
  | @create type fields _ hfields hnames =>
    cases hfilter with
    | none =>
    cases hpayload with
    | some hpayload =>
    have hsplit := splitName_of_written hname hgap hbehind hbetween hafter .create hpayload
    have hread := Payload.ofChars?_of_written hpayload (Field.legal_declarations hnames)
    obtain ⟨inner, rfl⟩ := exists_inner_of_written hpayload
    have hsome : (Field.declarations fields).isEmpty = false := by
      simpa [Field.declarations, List.isEmpty_eq_false_iff] using hfields
    show (splitName .create _ >>= _) = _
    rw [hsplit]
    show (readPayload .create _ >>= _) = _
    rw [readPayload_of_object .create hread]
    show (if (Field.declarations fields).isEmpty = true then _ else
      Field.declaredAll (Field.declarations fields) >>= _) = _
    rw [if_neg (by simp [hsome]), Field.declaredAll_declarations]
    rfl
  | insert _ hvalues =>
    cases hfilter with
    | none =>
    cases hpayload with
    | some hpayload =>
    have hsplit := splitName_of_written hname hgap hbehind hbetween hafter .insert hpayload
    have hread := Payload.ofChars?_of_written hpayload hvalues
    obtain ⟨inner, rfl⟩ := exists_inner_of_written hpayload
    show (splitName .insert _ >>= _) = _
    rw [hsplit]
    show (readPayload .insert _ >>= _) = _
    rw [readPayload_of_object .insert hread]
    rfl
  | update _ hlegal hvalues =>
    cases hpayload with
    | some hpayload =>
    exact ofVerb_update_of_written hname hgap hbehind hbetween hafter hlegal hvalues hfilter hpayload
  | delete _ hlegal =>
    cases hpayload with
    | none =>
    show (readSelection .delete _ >>= _) = _
    rw [readSelection_of_written hname hgap hbehind hbetween hafter .delete hlegal hfilter]
    rfl
  | search _ hlegal =>
    cases hpayload with
    | none =>
    show (readSelection .search _ >>= _) = _
    rw [readSelection_of_written hname hgap hbehind hbetween hafter .search hlegal hfilter]
    rfl

/-- A statement as one would write it, with a space behind the verb and one behind the type. -/
theorem written_spaced (s : Statement) {filter payload : List Char}
    (hfilter : WrittenFilter s.filter filter) (hpayload : WrittenPayload s.payload payload) :
    Written s (String.ofList (s.verb.word.toList ++ ' ' :: (s.type.toList ++ ' ' ::
      (filter ++ payload)))) := by
  have h := Written.intro (beq_self_eq_true _) (List.cons_ne_nil ' ' []) blanks_nil blanks_space
    blanks_space blanks_nil blanks_nil hfilter hpayload
  rwa [List.append_nil] at h

/-- Every statement can be written. -/
theorem exists_written (s : Statement) : ∃ line, Written s line := by
  obtain ⟨filter, hfilter⟩ : ∃ cs, WrittenFilter s.filter cs := by
    cases s.filter with
    | none => exact ⟨[], .none⟩
    | some filter => exact ⟨_, .some (Token.spells_spaced filter.tokens)⟩
  obtain ⟨payload, hpayload⟩ : ∃ cs, WrittenPayload s.payload cs := by
    cases s.payload with
    | none => exact ⟨[], .none⟩
    | some entries =>
      obtain ⟨cs, h⟩ := Payload.exists_written (.object entries)
      exact ⟨cs, .some h⟩
  exact ⟨_, written_spaced s hfilter hpayload⟩

/-- **The round trip of commands.** A legal statement can be written, and however it is written, the
line is read as that statement. -/
theorem roundtrip {s : Statement} (hs : s.Legal) :
    (∃ line, Written s line) ∧ ∀ line, Written s line → ofText line = .ok s :=
  ⟨s.exists_written, fun _ ↦ ofText_of_written hs⟩

/-- A statement with brackets and quotes in all its texts. -/
def tangled : Statement :=
  .update "N" (some bracketed) [("a\"\x7d", .text ")\x7b"), ("(", .array [.number "-1.5e3", .object []])]

theorem roundtrip_tangled :
    tangled.Legal ∧ ∀ line, Written tangled line → ofText line = .ok tangled := by
  have hread : Filter.ofText bracketedText = .ok bracketed := by decide +kernel
  have hbracketed : bracketed.Legal := by
    refine ⟨⟨bracketedText, hread⟩, fun w hw ↦ ?_⟩
    have hword : w = "x-y" := by simpa [bracketed, Filter.operands] using hw
    subst hword
    decide
  have hnumeral : Number.Legal (['-'] ++ (['1'] ++ (['.', '5'] ++ 'e' :: ([] ++ ['3'])))) :=
    .mk (.inr rfl) (by decide) (.some (by decide)) (.some (.inl rfl) (.inl rfl) (by decide))
  have hlegal : tangled.Legal := by
    refine .update (by decide) (fun f hf ↦ ?_) (.object (by decide) fun e he ↦ ?_)
    · cases hf
      exact hbracketed
    · simp only [List.mem_cons, List.not_mem_nil, or_false] at he
      rcases he with rfl | rfl
      · exact .text _
      · refine .array fun p hp ↦ ?_
        simp only [List.mem_cons, List.not_mem_nil, or_false] at hp
        rcases hp with rfl | rfl
        · exact .number hnumeral
        · exact .object List.nodup_nil fun _ h ↦ absurd h List.not_mem_nil
  exact ⟨hlegal, (roundtrip hlegal).2⟩

end Statement

end RecordStore
