import RecordStore.Proofs.Text.CanonicalName

/-!
# Lower case of ASCII characters

Words of commands are known by their lower case, which is defined for all of Unicode and looks at
the neighbours of a character. Of ASCII characters none of that is left: each has its own lower case
(`lowercase_of_ascii`), and the same is blank in both. A word that agrees with one in small letters
up to the case of its letters has that one as its lower case (`lowercase_of_equals`).
-/

namespace RecordStore.Text

variable {c d : Char} {cs : List Char}

/-- A fact about ASCII characters holds if it holds of their codes. -/
theorem of_code_lt {P : Char → Prop} (h : ∀ n < 128, P (Char.ofNat n)) (hc : c.toNat < 128) : P c := by
  rw [← Char.ofNat_toNat c]
  exact h c.toNat hc

theorem lowerAt_of_ascii (hc : c.toNat < 128) (before after : List Char) :
    lowerAt before c after = [c.toLower] := by
  have hsigma : c ≠ 'Σ' := by
    rintro rfl
    exact absurd hc (by decide)
  have hlower : ∀ n < 128, lowerChar (Char.ofNat n) = [(Char.ofNat n).toLower] := by decide +kernel
  rw [lowerAt, if_neg hsigma]
  exact of_code_lt (P := fun c ↦ lowerChar c = [c.toLower]) hlower hc

theorem lowerAfter_of_ascii (h : ∀ c ∈ cs, c.toNat < 128) (before : List Char) :
    lowerAfter before cs = cs.map Char.toLower := by
  induction cs generalizing before with
  | nil => rfl
  | cons c after ih =>
    obtain ⟨hc, hafter⟩ := List.forall_mem_cons.1 h
    rw [lowerAfter, lowerAt_of_ascii hc, ih hafter, List.map_cons, List.singleton_append]

/-- **The lower case of an ASCII text** is that of its characters. -/
theorem lowercase_of_ascii {s : String} (h : ∀ c ∈ s.toList, c.toNat < 128) :
    lowercase s = String.ofList (s.toList.map Char.toLower) := by
  rw [lowercase, lowerAfter_of_ascii h]

/-- A character is ASCII if its lower case is. -/
theorem ascii_of_toLower (h : c.toLower.toNat < 128) : c.toNat < 128 := by
  delta Char.toLower at h
  split at h
  · next hupper =>
    have hle : c.toNat ≤ 'Z'.toNat := hupper.2
    have hz : 'Z'.toNat = 90 := rfl
    omega
  · exact h

theorem isBlank_toLower (hc : c.toNat < 128) : isBlank c.toLower = isBlank c := by
  have hblank : ∀ n < 128, isBlank (Char.ofNat n).toLower = isBlank (Char.ofNat n) := by
    decide +kernel
  exact of_code_lt (P := fun c ↦ isBlank c.toLower = isBlank c) hblank hc

/-- **A word in any case of its letters** has the word in small letters as its lower case. It is as
free of blanks. -/
theorem lowercase_of_equals {word small : String} (h : equalsIgnoringAsciiCase word small = true)
    (hascii : ∀ c ∈ small.toList, c.toNat < 128 ∧ c.toLower = c ∧ isBlank c = false) :
    lowercase word = small ∧ ∀ c ∈ word.toList, isBlank c = false := by
  have hsmall : small.toList.map Char.toLower = small.toList := by
    conv_rhs => rw [← List.map_id small.toList]
    exact List.map_congr_left fun c hc ↦ (hascii c hc).2.1
  have hmap : word.toList.map Char.toLower = small.toList := by
    rw [equalsIgnoringAsciiCase, beq_iff_eq, hsmall] at h
    exact h
  have hmem : ∀ c ∈ word.toList, c.toLower ∈ small.toList := fun c hc ↦
    hmap ▸ List.mem_map_of_mem hc
  have hword : ∀ c ∈ word.toList, c.toNat < 128 := fun c hc ↦
    ascii_of_toLower (hascii _ (hmem c hc)).1
  constructor
  · rw [lowercase_of_ascii hword, hmap, String.ofList_toList]
  · intro c hc
    rw [← isBlank_toLower (hword c hc)]
    exact (hascii _ (hmem c hc)).2.2

/-- A character that is its own lower case wherever it stands is in the lower case of a text. -/
theorem mem_lowercase {s : String} (h : c ∈ s.toList) (hsame : IsLowercase c) :
    c ∈ (lowercase s).toList := by
  rw [lowercase, String.toList_ofList]
  generalize s.toList = cs at h
  generalize ([] : List Char) = before
  induction cs generalizing before with
  | nil => cases h
  | cons d after ih =>
    rw [lowerAfter, List.mem_append]
    rcases List.mem_cons.1 h with rfl | h
    · left
      rw [lowerAt, if_neg hsame.1, hsame.2]
      exact List.mem_singleton_self c
    · exact .inr (ih h _)

end RecordStore.Text
