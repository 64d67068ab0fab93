import RecordStore.Proofs.Command.Written

/-!
# Literals and payloads

A text, a plain numeral or a truth value can stand in a filter as well as in a payload
(`Literal`). The two are coerced apart from each other, the one from a text that has to be trimmed,
unquoted and told apart from others, the other from a payload that knows its form. They come to the
same: for every kind but lists, a literal gives a value in a filter if and only if it does in a
payload, and it is the same value (`Literal.toOption_ofLiteral`).

A literal of the kind stands for one value there (`Literal.StandsFor`), and all others are refused
in both places (`Literal.coerced_alike`).

What has to be shown for that is that a literal of one form is never taken for one of another. A
numeral consists of digits, a point and a minus sign, so it is no moment, which has a `T` in it
(`mem_of_ofText?`), and a quoted text begins with a quote, which nothing else does.
-/

namespace RecordStore

open RecordStore.Text RecordStore.Number RecordStore.Time
open RecordStore.Filter (betweenQuotes?_literal_quoted toList_literal_quoted trimmed_literal_quoted)

/-! ### Moments -/

namespace Time

variable {cs rest : List Char}

theorem readMark_eq_some {c : Char} (h : readMark c cs = some rest) : cs = c :: rest := by
  cases cs with
  | nil => cases h
  | cons d ds =>
    rw [readMark] at h
    split at h
    · next heq =>
      cases h
      rw [heq]
    · cases h

theorem suffix_of_readDigits {digits : List Char} (h : readDigits cs = some (digits, rest)) :
    rest <:+ cs :=
  ⟨digits, append_of_readDigits h⟩

theorem suffix_of_readNumber {width n : Nat} (h : readNumber width cs = some (n, rest)) :
    rest <:+ cs := by
  rw [readNumber] at h
  split at h
  · cases h
  · cases h
    exact (List.drop_suffix _ _).trans (List.dropWhile_suffix isBlank)

theorem suffix_of_readYear {year : Int} (h : readYear cs = some (year, rest)) : rest <:+ cs := by
  have hskip : skipBlanks cs <:+ cs := List.dropWhile_suffix isBlank
  rw [readYear] at h
  split at h
  · next ds heq =>
    obtain ⟨⟨digits, after⟩, hdigits, hafter⟩ := Option.map_eq_some_iff.1 h
    cases hafter
    rw [heq] at hskip
    exact (suffix_of_readDigits hdigits).trans ((List.suffix_cons _ _).trans hskip)
  · next ds heq =>
    obtain ⟨⟨digits, after⟩, hdigits, hafter⟩ := Option.map_eq_some_iff.1 h
    cases hafter
    rw [heq] at hskip
    exact (suffix_of_readDigits hdigits).trans ((List.suffix_cons _ _).trans hskip)
  · obtain ⟨⟨n, after⟩, hnumber, hafter⟩ := Option.map_eq_some_iff.1 h
    cases hafter
    exact (suffix_of_readNumber hnumber).trans hskip

/-- The text of a moment has a `T` between the day and the hour. -/
theorem mem_of_ofText? {s : String} {m : Moment} (h : Moment.ofText? s = some m) :
    'T' ∈ s.toList := by
  rw [Moment.ofText?] at h
  simp only [Option.bind_eq_bind, Option.bind_eq_some_iff, Prod.exists] at h
  obtain ⟨year, afterYear, hyear, afterFirst, hfirst, month, afterMonth, hmonth, afterSecond,
    hsecond, day, afterDay, hday, afterMark, hmark, -⟩ := h
  have hfirst := readMark_eq_some hfirst
  have hsecond := readMark_eq_some hsecond
  have hmem : 'T' ∈ afterDay := readMark_eq_some hmark ▸ List.mem_cons_self
  have hmem := (suffix_of_readNumber hday).subset hmem
  have hmem : 'T' ∈ afterMonth := hsecond ▸ List.mem_cons_of_mem _ hmem
  have hmem := (suffix_of_readNumber hmonth).subset hmem
  have hmem : 'T' ∈ afterYear := hfirst ▸ List.mem_cons_of_mem _ hmem
  exact (suffix_of_readYear hyear).subset hmem

end Time

/-! ### Texts without quotes -/

section Quotes

variable {s : String}

theorem betweenQuotes?_of_not_mem {cs : List Char} (h : '"' ∉ cs) : betweenQuotes? cs = none := by
  rw [betweenQuotes?.eq_def]
  split
  · exact absurd List.mem_cons_self h
  · rfl

/-- A text that needs no trimming and has no quotes is left as it is. -/
theorem unquote_of_not_mem (htrimmed : Trimmed s.toList) (h : '"' ∉ s.toList) : unquote s = s := by
  simp only [unquote, htrimmed.trimChars_eq, betweenQuotes?_of_not_mem h, Option.getD_none,
    String.ofList_toList]

end Quotes

/-! ### Numerals as words -/

section Numerals

variable {s : String}

/-- The characters of a numeral are none of those that other literals and words are known by. -/
theorem char_of_isNumeral (h : isNumeral s = true) {c : Char} (hc : c ∈ s.toList) :
    c.toNat < 128 ∧ isBlank c = false ∧ c.toLower = c ∧ Token.endsWord c = false ∧ c ≠ '"' ∧
      c ≠ 'T' := by
  have hcodes : ∀ n < 128,
      Char.ofNat n = '-' ∨ Char.ofNat n = '.' ∨ (Char.ofNat n).isDigit = true →
      isBlank (Char.ofNat n) = false ∧ (Char.ofNat n).toLower = Char.ofNat n ∧
        Token.endsWord (Char.ofNat n) = false ∧ Char.ofNat n ≠ '"' ∧ Char.ofNat n ≠ 'T' := by
    decide +kernel
  have hchar := mem_of_isNumeral h hc
  have hascii : c.toNat < 128 := by
    rcases hchar with rfl | rfl | hdigit
    · decide
    · decide
    · have hcode := Token.isDigit_iff.1 hdigit
      omega
  have hfacts := hcodes c.toNat hascii
  rw [Char.ofNat_toNat] at hfacts
  exact ⟨hascii, hfacts hchar⟩

theorem trimmed_of_isNumeral (h : isNumeral s = true) : Trimmed s.toList :=
  trimmed_of_not_isBlank fun _ hc ↦ (char_of_isNumeral h hc).2.1

theorem toLower_of_isNumeral (h : isNumeral s = true) : s.toList.map Char.toLower = s.toList := by
  conv_rhs => rw [← List.map_id s.toList]
  exact List.map_congr_left fun c hc ↦ (char_of_isNumeral h hc).2.2.1

theorem ofWord_of_isNumeral (h : isNumeral s = true) : Token.ofWord s = .number s := by
  have hlower : lowercase s = s := by
    rw [lowercase_of_ascii fun c hc ↦ (char_of_isNumeral h hc).1, toLower_of_isNumeral h,
      String.ofList_toList]
  have hlookup : Token.keywords.lookup s = none := by
    have hkeys : ∀ e ∈ Token.keywords, isNumeral e.1 = false := by decide +kernel
    rw [List.lookup_eq_none_iff]
    intro e he
    rw [bne_iff_ne]
    rintro rfl
    exact absurd h (by rw [hkeys e he]; exact Bool.false_ne_true)
  rw [Token.ofWord, hlower, hlookup]
  exact if_pos h

end Numerals

/-! ### The two coercions -/

namespace Kind

/-- The value of the kind that a trimmed text stands for as a literal. -/
def literal? (kind : Kind) (s : String) : Option Value :=
  match kind with
  | text => (betweenQuotes? s.toList).map fun inner ↦ .text (String.ofList inner)
  | int => (integer? s).map .int
  | double => (if isNumeral s then Double.ofText? s else none).map .double
  | bool => (boolOfText? s).map .bool
  | time => (Moment.ofText? (unquote s)).map .time
  | texts => none

theorem toOption_ofLiteral (kind : Kind) (s : String) :
    (kind.ofLiteral s).toOption = kind.literal? (trim s) := by
  unfold ofLiteral
  cases kind with
  | text => cases h : betweenQuotes? (trim s).toList <;> simp [literal?, h, Except.toOption]
  | int => cases h : integer? (trim s) <;> simp [literal?, h, Except.toOption]
  | double =>
    cases h : (if isNumeral (trim s) then Double.ofText? (trim s) else none) <;>
      simp [literal?, h, Except.toOption]
  | bool => cases h : boolOfText? (trim s) <;> simp [literal?, h, Except.toOption]
  | time =>
    cases h : Moment.ofText? (unquote (trim s)) <;>
      simp [literal?, timeOfText, h, Except.toOption]
  | texts => rfl

end Kind

/-- A value as it can be written both in a filter and in a payload. -/
inductive Literal where
  /-- A text between quotes. -/
  | quoted (s : String)
  /-- A numeral without an exponent. -/
  | number (numeral : String) (h : isNumeral numeral = true)
  /-- A truth value. -/
  | bool (b : Bool)

namespace Literal

/-- The literal in a payload. -/
def payload : Literal → Payload
  | quoted s => .text s
  | number numeral _ => .number numeral
  | bool b => .bool b

/-- The literal in a filter. -/
def operand : Literal → Operand
  | quoted s => .quoted s
  | number numeral _ => .number numeral
  | bool b => .bool b

variable {kind : Kind}

theorem literal?_quoted (hkind : kind ≠ .texts) (s : String) :
    kind.literal? (Operand.quoted s).literal = (kind.ofPayload (.text s)).toOption := by
  have hlist := toList_literal_quoted s
  have hinteger : integer? (Operand.quoted s).literal = none := by
    rw [integer?, isInteger, hlist]
    rfl
  have hnumeral : isNumeral (Operand.quoted s).literal = false :=
    Token.isNumeral_eq_false hlist (by decide) (by decide)
  have hbool : boolOfText? (Operand.quoted s).literal = none := by
    rw [boolOfText?, equalsIgnoringAsciiCase, equalsIgnoringAsciiCase, hlist]
    rfl
  have hunquote : unquote (Operand.quoted s).literal = s := by
    simp only [unquote, (trimmed_literal_quoted s).trimChars_eq, betweenQuotes?_literal_quoted,
      Option.getD_some, String.ofList_toList]
  cases kind with
  | text => simp [Kind.literal?, betweenQuotes?_literal_quoted, Kind.ofPayload, Except.toOption]
  | int => simp [Kind.literal?, hinteger, Kind.ofPayload, Except.toOption]
  | double => simp [Kind.literal?, hnumeral, Kind.ofPayload, Except.toOption]
  | bool => simp [Kind.literal?, hbool, Kind.ofPayload, Except.toOption]
  | time =>
    rw [Kind.literal?, hunquote]
    cases h : Moment.ofText? s <;> simp [Kind.ofPayload, timeOfText, h, Except.toOption]
  | texts => exact absurd rfl hkind

theorem literal?_number (hkind : kind ≠ .texts) {numeral : String} (h : isNumeral numeral = true) :
    kind.literal? numeral = (kind.ofPayload (.number numeral)).toOption := by
  have hquote : '"' ∉ numeral.toList := fun hmem ↦ absurd rfl (char_of_isNumeral h hmem).2.2.2.2.1
  have hbetween := betweenQuotes?_of_not_mem hquote
  have hword : ∀ word : String, isNumeral (String.ofList (word.toList.map Char.toLower)) = false →
      equalsIgnoringAsciiCase numeral word = false := by
    intro word hword
    rw [equalsIgnoringAsciiCase, toLower_of_isNumeral h, beq_eq_false_iff_ne]
    intro heq
    rw [← heq, String.ofList_toList, h] at hword
    cases hword
  have hbool : boolOfText? numeral = none := by
    rw [boolOfText?, hword "true" (by decide), hword "false" (by decide)]
    rfl
  have hunquote := unquote_of_not_mem (trimmed_of_isNumeral h) hquote
  have htime : Moment.ofText? numeral = none := by
    cases hmoment : Moment.ofText? numeral with
    | none => rfl
    | some m => exact absurd rfl (char_of_isNumeral h (mem_of_ofText? hmoment)).2.2.2.2.2
  cases kind with
  | text => simp [Kind.literal?, hbetween, Kind.ofPayload, Except.toOption]
  | int =>
    rw [Kind.literal?]
    cases hn : integer? numeral <;> simp [Kind.ofPayload, hn, Except.toOption]
  | double =>
    rw [Kind.literal?, if_pos h]
    cases hd : Double.ofText? numeral <;> simp [Kind.ofPayload, hd, Except.toOption]
  | bool => simp [Kind.literal?, hbool, Kind.ofPayload, Except.toOption]
  | time => simp [Kind.literal?, hunquote, htime, Kind.ofPayload, Except.toOption]
  | texts => exact absurd rfl hkind

theorem literal?_bool (b : Bool) :
    kind.literal? (Operand.bool b).literal = (kind.ofPayload (.bool b)).toOption := by
  cases b <;> cases kind <;> decide +kernel

theorem trim_literal (literal : Literal) :
    trim literal.operand.literal = literal.operand.literal := by
  have htrimmed : Trimmed literal.operand.literal.toList := by
    cases literal with
    | quoted s => exact trimmed_literal_quoted s
    | number numeral h => exact trimmed_of_isNumeral h
    | bool b =>
      cases b with
      | false => exact @trimmed_of_ends 'f' 'e' (by decide) (by decide) ['a', 'l', 's']
      | true => exact @trimmed_of_ends 't' 'e' (by decide) (by decide) ['r', 'u']
  exact trim_eq_self htrimmed

/-- **A literal means the same in a filter and in a payload.** -/
theorem toOption_ofLiteral (hkind : kind ≠ .texts) (literal : Literal) :
    (kind.ofLiteral literal.operand.literal).toOption =
      (kind.ofPayload literal.payload).toOption := by
  rw [Kind.toOption_ofLiteral, trim_literal]
  cases literal with
  | quoted s => exact literal?_quoted hkind s
  | number numeral h => exact literal?_number hkind h
  | bool b => exact literal?_bool b

/-- A literal that is coerced in a filter or in a payload is coerced in both, to one value. -/
theorem exists_value (hkind : kind ≠ .texts) {literal : Literal}
    (h : (∃ value, kind.ofLiteral literal.operand.literal = .ok value) ∨
      ∃ value, kind.ofPayload literal.payload = .ok value) :
    ∃ value, kind.ofLiteral literal.operand.literal = .ok value ∧
      kind.ofPayload literal.payload = .ok value := by
  have hsame := toOption_ofLiteral hkind literal
  rcases h with ⟨value, hvalue⟩ | ⟨value, hvalue⟩
  · refine ⟨value, hvalue, ?_⟩
    rw [hvalue] at hsame
    exact eq_ok_of_toOption hsame.symm
  · refine ⟨value, ?_, hvalue⟩
    rw [hvalue] at hsame
    exact eq_ok_of_toOption hsame

/-! ### What a literal stands for -/

/-- What a literal stands for, where a value of a kind is asked for. A text stands for itself, or
for the moment that it is the text of; a numeral for the integer that its digits denote, or for a
double; a truth value for itself. No literal stands for a list. -/
inductive StandsFor : Literal → Kind → Value → Prop where
  /-- A text. -/
  | text (s : String) : StandsFor (.quoted s) .text (.text s)
  /-- An integer of 64 bits. -/
  | int {numeral : String} {n : Int64} (h : isNumeral numeral = true)
      (hn : Denotes numeral.toList n.toInt) : StandsFor (.number numeral h) .int (.int n)
  /-- A double, which every numeral stands for. -/
  | double {numeral : String} (h : isNumeral numeral = true) :
    StandsFor (.number numeral h) .double
      (.double ((Double.ofText? numeral).get (isSome_ofText?_of_isNumeral h)))
  /-- A truth value. -/
  | bool (b : Bool) : StandsFor (.bool b) .bool (.bool b)
  /-- A moment. -/
  | time {s : String} {m : Moment} (h : Moment.ofText? s = some m) :
    StandsFor (.quoted s) .time (.time m)

/-- What is coerced in a payload is what the literal stands for. -/
theorem ofPayload_eq_ok_iff {literal : Literal} {value : Value} :
    kind.ofPayload literal.payload = .ok value ↔ literal.StandsFor kind value := by
  constructor
  · intro h
    cases literal with
    | quoted s =>
      cases kind with
      | text =>
        cases h
        exact .text s
      | time =>
        rw [payload, Kind.ofPayload, timeOfText] at h
        split at h
        · next m hm =>
          cases h
          exact .time hm
        · cases h
      | int | double | bool | texts => cases h
    | number numeral hnumeral =>
      cases kind with
      | int =>
        rw [payload, Kind.ofPayload] at h
        split at h
        · next n hn =>
          cases h
          exact .int hnumeral (integer?_eq_some_iff.1 hn)
        · cases h
      | double =>
        rw [payload, Kind.ofPayload] at h
        split at h
        · next d hd =>
          cases h
          have hstands := StandsFor.double hnumeral
          simpa only [hd, Option.get_some] using hstands
        · cases h
      | text | bool | time | texts => cases h
    | bool b =>
      cases kind with
      | bool =>
        cases h
        exact .bool b
      | text | int | double | time | texts => cases h
  · intro h
    cases h with
    | text s => rfl
    | int h hn => simp only [payload, Kind.ofPayload, integer?_eq_some_iff.2 hn]
    | @double numeral h =>
      obtain ⟨d, hd⟩ := Option.isSome_iff_exists.1 (isSome_ofText?_of_isNumeral h)
      simp only [payload, Kind.ofPayload, hd, Option.get_some]
    | bool b => rfl
    | time h => simp only [payload, Kind.ofPayload, timeOfText, h]

/-- **Filters and payloads agree on every literal.** For any kind, a literal is coerced in both to
the one value that it stands for, or it stands for nothing of the kind and is refused in both. -/
theorem coerced_alike (kind : Kind) (literal : Literal) :
    (∃ value, literal.StandsFor kind value ∧
      kind.ofLiteral literal.operand.literal = .ok value ∧
      kind.ofPayload literal.payload = .ok value) ∨
    ((∀ value, ¬literal.StandsFor kind value) ∧
      (∃ cause, kind.ofLiteral literal.operand.literal = .error cause) ∧
      ∃ cause, kind.ofPayload literal.payload = .error cause) := by
  have hsame : (kind.ofLiteral literal.operand.literal).toOption =
      (kind.ofPayload literal.payload).toOption := by
    by_cases hkind : kind = .texts
    · -- lists have no literals
      subst hkind
      rcases literal with s | numeral | b <;> rfl
    · exact toOption_ofLiteral hkind literal
  cases hpayload : kind.ofPayload literal.payload with
  | ok value =>
    rw [hpayload] at hsame
    exact .inl ⟨value, ofPayload_eq_ok_iff.1 hpayload, eq_ok_of_toOption hsame, rfl⟩
  | error cause =>
    rw [hpayload] at hsame
    refine .inr ⟨fun value hstands ↦ ?_, ?_, cause, rfl⟩
    · rw [ofPayload_eq_ok_iff.2 hstands] at hpayload
      cases hpayload
    · cases hliteral : kind.ofLiteral literal.operand.literal with
      | ok value =>
        rw [hliteral] at hsame
        cases hsame
      | error cause => exact ⟨cause, rfl⟩

/-! ### Comparing with a literal -/

/-- A literal can be spelled in a filter. -/
theorem readable_token (literal : Literal) : literal.operand.token.Readable := by
  cases literal with
  | quoted => trivial
  | number numeral h =>
    refine ⟨⟨?_, ?_, fun c hc ↦ (char_of_isNumeral h hc).2.2.2.1⟩, ofWord_of_isNumeral h⟩
    · obtain ⟨c, cs, hcons, -⟩ := Payload.exists_cons_of_legal (legal_of_isNumeral h)
      show numeral.toList ≠ []
      rw [hcons]
      exact List.cons_ne_nil c cs
    · intro hhead
      exact absurd rfl (char_of_isNumeral h (List.mem_of_head? hhead)).2.2.2.2.1
  | bool b => cases b <;> decide +kernel

end Literal

/-- A comparison of a field with a literal is a filter that a command can have. -/
theorem Filter.legal_comparison {name : String} (h : Token.CanName name) (op : Operator)
    (literal : Literal) : (comparison (.name name) op literal.operand).Legal := by
  constructor
  · refine ⟨_, Filter.ofText_of_spells (fun x hx ↦ ?_) (Token.spells_spaced _)⟩
    simp only [operands, List.mem_cons, List.not_mem_nil, or_false] at hx
    rcases hx with rfl | rfl
    · exact Token.readable_name h
    · exact literal.readable_token
  · intro w hw
    simp only [operands, List.mem_cons, List.not_mem_nil, or_false, reduceCtorEq, false_or] at hw
    cases literal <;> cases hw

end RecordStore
