import RecordStore.Proofs.Filter.Sides
import RecordStore.Proofs.Text.Ascii

/-!
# Names that are no field's

A comparison needs a field as soon as there is a name in it. Where none of its names is a field's, the
first of them is lost (`Comparison.Lost`). `Filter.check` goes through all comparisons of a filter and
stops at the first that has lost a name (`check_eq_findSome?`); a name that it lets pass is either that
of a field, or a literal of the field on the other side.

Evaluation may leave comparisons out, but it comes upon no others. So once the check has passed, no
record with a value for each field makes a filter that was read from a text blame a name
(`not_blames_of_evaluate`). This is meant of the wording, which is all that is told of a cause. A cause
that begins with the name of a field would be taken for another if a field were named like the
beginning of that, but such a name has blanks in it, and a filter cannot name the field.
-/

namespace RecordStore

open RecordStore.Text

/-! ### The comparisons of a filter -/

/-- A comparison in a filter. -/
structure Comparison where
  /-- The left side. -/
  left : Operand
  /-- How the sides are to stand to each other. -/
  op : Operator
  /-- The right side. -/
  right : Operand
  deriving DecidableEq, Repr

namespace Comparison

/-- The names in a comparison, the left one first. -/
def names (c : Comparison) : List String := [c.left, c.right].filterMap Operand.name?

/-- No name in the comparison is that of a field, and this one is the first. -/
structure Lost (schema : Schema) (c : Comparison) (name : String) : Prop where
  /-- None of the names is a field's. -/
  unknown : ∀ s ∈ c.names, canonical s ∉ schema.keys
  /-- There are no names before it. -/
  first : c.names.head? = some name

end Comparison

namespace Filter

/-- The comparisons of a filter, from left to right. -/
def comparisons : Filter → List Comparison
  | comparison left op right => [⟨left, op, right⟩]
  | and left right | or left right => left.comparisons ++ right.comparisons

/-- The first comparison that has lost a name has lost this one. -/
def FirstLost (schema : Schema) (filter : Filter) (name : String) : Prop :=
  ∃ before c after, filter.comparisons = before ++ c :: after ∧
    (∀ b ∈ before, ∀ other, ¬ b.Lost schema other) ∧ c.Lost schema name

end Filter

variable {schema : Schema} {record : Record} {filter : Filter} {cause : FilterError} {c : Comparison}
  {name : String}

/-! ### The check -/

theorem Operand.isSome_field?_iff {x : Operand} :
    (x.field? schema).isSome = true ↔ ∃ s, x.name? = some s ∧ canonical s ∈ schema.keys := by
  cases x with
  | name s =>
    have hfound : (schema.field? s).isSome = true ↔ canonical s ∈ schema.keys := by
      rw [← not_iff_not, Bool.not_eq_true, Option.isSome_eq_false_iff, Option.isNone_iff_eq_none,
        Schema.field?_eq_none_iff]
    exact hfound.trans ⟨fun h ↦ ⟨s, rfl, h⟩, fun ⟨_, hs, h⟩ ↦ by cases hs; exact h⟩
  | quoted | number | bool | bare => exact ⟨nofun, nofun⟩

namespace Filter

/-- The name that a comparison has to do without is the one that it has lost. -/
theorem unknownName?_eq_some_iff : unknownName? schema c.left c.right = some name ↔
    c.Lost schema name := by
  have hhead : c.names.head? = c.left.name?.or c.right.name? := by
    rw [Comparison.names, List.head?_filterMap]
    cases hleft : c.left.name? <;> cases hright : c.right.name? <;> simp [hleft, hright]
  have hknown : (∃ s ∈ c.names, canonical s ∈ schema.keys) ↔
      ((c.left.field? schema).isSome || (c.right.field? schema).isSome) = true := by
    rw [Bool.or_eq_true, Operand.isSome_field?_iff, Operand.isSome_field?_iff]
    simp [Comparison.names, or_and_right, exists_or]
  rw [unknownName?]
  split
  · next hfield =>
    obtain ⟨s, hs, hmem⟩ := hknown.2 hfield
    constructor
    · intro h
      cases h
    · exact fun h ↦ absurd hmem (h.unknown s hs)
  · next hfield =>
    rw [← hknown] at hfield
    rw [← hhead]
    exact ⟨fun h ↦ ⟨fun s hs hmem ↦ hfield ⟨s, hs, hmem⟩, h⟩, fun h ↦ h.first⟩

/-- **The check** goes through the comparisons up to the first that has lost a name. -/
theorem check_eq_findSome? (schema : Schema) (filter : Filter) :
    check schema filter =
      match filter.comparisons.findSome? fun c ↦ unknownName? schema c.left c.right with
      | some name => .error (.unknownField name)
      | none => .ok () := by
  induction filter with
  | comparison left op right =>
    rw [comparisons, List.findSome?_singleton]
    rfl
  | and left right ihleft ihright | or left right ihleft ihright =>
    rw [check, ihleft, ihright, comparisons, List.findSome?_append]
    cases left.comparisons.findSome? fun c ↦ unknownName? schema c.left c.right <;> rfl

theorem findSome?_comparisons_eq_some_iff :
    (filter.comparisons.findSome? fun c ↦ unknownName? schema c.left c.right) = some name ↔
      FirstLost schema filter name := by
  simp only [List.findSome?_eq_some_iff, unknownName?_eq_some_iff, FirstLost,
    Option.eq_none_iff_forall_not_mem, Option.mem_def]
  constructor
  · rintro ⟨before, c, after, hcomparisons, hlost, hbefore⟩
    exact ⟨before, c, after, hcomparisons, hbefore, hlost⟩
  · rintro ⟨before, c, after, hcomparisons, hbefore, hlost⟩
    exact ⟨before, c, after, hcomparisons, hlost, hbefore⟩

/-- **A filter that is refused** is refused for the first name that is lost. -/
theorem check_eq_error_iff : check schema filter = .error cause ↔
    ∃ name, FirstLost schema filter name ∧ cause = .unknownField name := by
  rw [check_eq_findSome?]
  constructor
  · intro h
    split at h
    · next name hname =>
      cases h
      exact ⟨name, findSome?_comparisons_eq_some_iff.1 hname, rfl⟩
    · cases h
  · rintro ⟨name, hlost, rfl⟩
    rw [findSome?_comparisons_eq_some_iff.2 hlost]

/-- A filter passes if no comparison has lost a name. -/
theorem check_eq_ok_iff_forall : check schema filter = .ok () ↔
    ∀ c ∈ filter.comparisons, unknownName? schema c.left c.right = none := by
  rw [check_eq_findSome?, ← List.findSome?_eq_none_iff]
  split
  · next hname => rw [hname]; exact ⟨nofun, nofun⟩
  · next hname => exact ⟨fun _ ↦ hname, fun _ ↦ rfl⟩

/-- **A filter passes** if each comparison with a name in it has that of a field. -/
theorem check_eq_ok_iff : check schema filter = .ok () ↔
    ∀ c ∈ filter.comparisons, c.names ≠ [] → ∃ name ∈ c.names, canonical name ∈ schema.keys := by
  rw [check_eq_ok_iff_forall]
  refine forall₂_congr fun c _ ↦ ?_
  rw [Option.eq_none_iff_forall_not_mem]
  constructor
  · intro h hnames
    obtain ⟨name, hfirst⟩ := Option.ne_none_iff_exists'.1 (mt List.head?_eq_none_iff.1 hnames)
    by_contra hunknown
    push Not at hunknown
    exact h name (unknownName?_eq_some_iff.2 ⟨hunknown, hfirst⟩)
  · intro h name hname
    have hlost := unknownName?_eq_some_iff.1 hname
    have hnames : c.names ≠ [] := by
      intro hnil
      have hfirst := hlost.first
      rw [hnil] at hfirst
      cases hfirst
    obtain ⟨s, hs, hmem⟩ := h hnames
    exact hlost.unknown s hs hmem

end Filter

/-! ### Wordings -/

/-- The canonical form of a name has no characters but those of names. -/
theorem Token.isNameChar_of_mem_canonical {s : String} {d : Char} (h : Token.CanName s)
    (hd : d ∈ (canonical s).toList) : Token.isNameChar d = true := by
  obtain ⟨c, cs, hcons, -, hchars⟩ := Token.exists_cons_of_isName h.1
  rw [← hcons] at hchars
  have hascii : ∀ c ∈ s.toList, c.toNat < 128 := by
    intro c hc
    have hcode := Token.toNat_of_isNameChar (hchars c hc)
    omega
  rw [canonical, trim_eq_self (Token.trimmed_of_canName h), lowercase_of_ascii hascii,
    String.toList_ofList] at hd
  obtain ⟨c, hc, rfl⟩ := List.mem_map.1 hd
  have hlower : ∀ n < 128, Token.isNameChar (Char.ofNat n) = true →
      Token.isNameChar (Char.ofNat n).toLower = true := by decide +kernel
  exact of_code_lt (P := fun c ↦ Token.isNameChar c = true → Token.isNameChar c.toLower = true)
    hlower (hascii c hc) (hchars c hc)

/-- A character that is not blank, and its own lower case, is kept in canonical names. -/
theorem Text.mem_canonical {s : String} {d : Char} (hd : d ∈ s.toList) (hblank : isBlank d = false)
    (hsame : IsLowercase d) : d ∈ (canonical s).toList := by
  obtain ⟨lead, trail, hlead, htrail, hs⟩ := padded_trimChars s.toList
  have hnot {blanks : List Char} (h : Blanks blanks) : d ∉ blanks := fun hmem ↦
    absurd (h d hmem) (by rw [hblank]; exact Bool.false_ne_true)
  refine mem_lowercase ?_ hsame
  rw [hs, List.mem_append, List.mem_append] at hd
  rw [trim, String.toList_ofList]
  exact (hd.resolve_left (hnot hlead)).resolve_right (hnot htrail)

theorem Text.head?_append {s t : String} {d : Char} (h : s.toList.head? = some d) :
    (s ++ t).toList.head? = some d := by
  rw [String.toList_append, List.head?_append, h, Option.some_or]

/-- What is in front of the first colon. -/
theorem Text.eq_of_append_colon {s t more after : String} (hs : ':' ∉ s.toList) (ht : ':' ∉ t.toList)
    (h : s ++ ": " ++ more = t ++ ": " ++ after) : s = t := by
  have hfront {s : String} (more : String) (hs : ':' ∉ s.toList) :
      ((s ++ ": " ++ more).toList.takeWhile fun d ↦ !(d == ':')) = s.toList := by
    have hword : ∀ d ∈ s.toList, (d == ':') = false := fun d hd ↦
      beq_eq_false_iff_ne.2 fun heq ↦ hs (heq ▸ hd)
    rw [String.toList_append, String.toList_append, List.append_assoc]
    exact (takeWhile_dropWhile_word hword (beq_self_eq_true ':')).1
  rw [← String.toList_inj, ← hfront more hs, h, hfront after ht]

namespace FilterError

/-- The cause reads as if the name were lost. -/
def Blames (cause : FilterError) (name : String) : Prop :=
  cause.message = (unknownField name).message

theorem blames_unknownField_iff {s : String} : (unknownField s).Blames name ↔ s = name := by
  show "unknown field in filter: " ++ s = "unknown field in filter: " ++ name ↔ _
  exact String.append_right_inj _

/-- A wording that begins with another letter blames no name. -/
theorem not_blames_of_head {c : Char} (h : cause.message.toList.head? = some c) (hc : c ≠ 'u') :
    ¬ cause.Blames name := by
  intro hblames
  have hhead : "unknown field in filter: ".toList.head? = some 'u' := by decide +kernel
  have hunknown : cause.message.toList.head? = some 'u' := by
    rw [hblames]
    exact head?_append hhead
  exact hc (Option.some.inj (h.symm.trans hunknown))

/-- No field that a filter can name is named like the beginning of that wording. -/
theorem not_blames_badLiteral {field s : String} (hcan : Token.CanName s)
    (hfield : canonical field = canonical s) (cause : CoercionError) :
    ¬ (badLiteral field cause).Blames name := by
  intro hblames
  have hplain {d : Char} (hd : d ∈ (canonical field).toList) : Token.isNameChar d = true := by
    rw [hfield] at hd
    exact Token.isNameChar_of_mem_canonical hcan hd
  have hcolon : ':' ∉ field.toList := fun hmem ↦
    absurd (hplain (mem_canonical hmem (by decide +kernel) (by decide +kernel))) (by decide)
  have hwords : (unknownField name).message = "unknown field in filter" ++ ": " ++ name := rfl
  obtain rfl : field = "unknown field in filter" :=
    eq_of_append_colon hcolon (by decide +kernel) (hblames.trans hwords)
  have hspace : ' ' ∈ (canonical "unknown field in filter").toList := by decide +kernel
  exact absurd (hplain hspace) (by decide)

end FilterError

/-! ### Evaluation -/

/-- No operator blames a name for what it cannot compare. -/
theorem Operator.not_blames_of_holds {op : Operator} {a b : Value} (h : op.holds a b = .error cause) :
    ¬ cause.Blames name := by
  have hcause : cause = .includesWithoutField ∨ cause = .unordered a b op := by
    cases op with
    | equal | notEqual => cases h
    | includes => exact .inl (Except.error.inj h).symm
    | less | lessEqual | greater | greaterEqual =>
      rw [holds] at h
      cases horder : a.compare b with
      | none =>
        rw [horder] at h
        exact .inr (Except.error.inj h).symm
      | some order =>
        rw [horder] at h
        cases h
  rcases hcause with rfl | rfl
  · exact FilterError.not_blames_of_head (c := 'i') (by decide +kernel) (by decide)
  · refine FilterError.not_blames_of_head (c := 'c') ?_ (by decide)
    exact head?_append (head?_append (head?_append (head?_append (head?_append (by decide +kernel)))))

namespace Filter

variable {left right literal : Operand} {op : Operator} {field : Field}

/-- Comparing a field that a filter can name blames no name, if the record has a value there. -/
theorem not_blames_of_compareField {s : String} (hcan : Token.CanName s)
    (hfield : schema.field? s = some field) (hvalue : (record.value? field.key).isSome = true)
    (h : compareField record field op literal = .error cause) : ¬ cause.Blames name := by
  obtain ⟨value, hvalue⟩ := Option.isSome_iff_exists.1 hvalue
  rw [compareField, hvalue] at h
  dsimp only at h
  split at h
  · split at h
    · cases h
    · cases h
      refine FilterError.not_blames_of_head (c := 'i') ?_ (by decide)
      exact head?_append (head?_append (head?_append (by decide +kernel)))
  split at h
  · cases h
    refine FilterError.not_blames_of_head (c := 'c') ?_ (by decide)
    exact head?_append (head?_append (by decide +kernel))
  split at h
  · exact Operator.not_blames_of_holds h
  · cases h
    exact FilterError.not_blames_badLiteral hcan (Schema.field?_eq_some hfield).2 _

/-- A comparison that has lost no name blames none. -/
theorem not_blames_of_compare (hnames : ∀ s ∈ (Comparison.mk left op right).names, Token.CanName s)
    (hrecord : ∀ field ∈ schema.fields, (record.value? field.key).isSome = true)
    (hlost : unknownName? schema left right = none)
    (h : compare schema record left op right = .error cause) : ¬ cause.Blames name := by
  have hfound {x literal : Operand} {op : Operator} {field : Field} (hx : x ∈ [left, right])
      (hfield : x.field? schema = some field)
      (h : compareField record field op literal = .error cause) : ¬ cause.Blames name := by
    cases x with
    | name s =>
      have hcan := hnames s (List.mem_filterMap.2 ⟨_, hx, rfl⟩)
      exact not_blames_of_compareField hcan hfield (hrecord field (Schema.field?_eq_some hfield).1) h
    | quoted | number | bool | bare => cases hfield
  rw [compare] at h
  split at h
  · next field _ hfield => exact hfound List.mem_cons_self hfield h
  · next field _ hfield => exact hfound (List.mem_cons_of_mem _ List.mem_cons_self) hfield h
  · rw [hlost] at h
    exact Operator.not_blames_of_holds h

/-- An error of a filter comes from one of its comparisons. -/
theorem exists_comparison_of_evaluate (h : evaluate schema record filter = .error cause) :
    ∃ c ∈ filter.comparisons, compare schema record c.left c.op c.right = .error cause := by
  induction filter with
  | comparison left op right => exact ⟨_, List.mem_singleton_self _, h⟩
  | and left right ihleft ihright | or left right ihleft ihright =>
    rw [evaluate] at h
    split at h
    · obtain ⟨c, hc, hcause⟩ := ihright h
      exact ⟨c, List.mem_append_right _ hc, hcause⟩
    · obtain ⟨c, hc, hcause⟩ := ihleft h
      exact ⟨c, List.mem_append_left _ hc, hcause⟩

theorem operands_eq_flatMap (filter : Filter) :
    filter.operands = filter.comparisons.flatMap fun c ↦ [c.left, c.right] := by
  induction filter with
  | comparison => rfl
  | and left right ihleft ihright | or left right ihleft ihright =>
    rw [operands, comparisons, List.flatMap_append, ihleft, ihright]

/-- The names in a filter that comes from a text are words that can name fields. -/
theorem canName_of_ofText {text : String} (h : ofText text = .ok filter) (hc : c ∈ filter.comparisons)
    {s : String} (hs : s ∈ c.names) : Token.CanName s := by
  obtain ⟨x, hx, hname⟩ := List.mem_filterMap.1 hs
  have hmem : x ∈ filter.operands := by
    rw [operands_eq_flatMap]
    exact List.mem_flatMap.2 ⟨c, hc, hx⟩
  have hreadable := readable_of_ofText h hmem
  cases x with
  | name s =>
    cases hname
    exact (Token.canName_of_ofWord hreadable.2).1
  | quoted | number | bool | bare => cases hname

/-- **A filter that has passed the check** blames no name, for any record with a value in each field. -/
theorem not_blames_of_evaluate {text : String} (htext : ofText text = .ok filter)
    (hcheck : check schema filter = .ok ())
    (hrecord : ∀ field ∈ schema.fields, (record.value? field.key).isSome = true)
    (h : evaluate schema record filter = .error cause) (name : String) : ¬ cause.Blames name := by
  obtain ⟨c, hc, hcause⟩ := exists_comparison_of_evaluate h
  exact not_blames_of_compare (fun s hs ↦ canName_of_ofText htext hc hs) hrecord
    (check_eq_ok_iff_forall.1 hcheck c hc) hcause

end Filter

end RecordStore
