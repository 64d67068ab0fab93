import RecordStore.Proofs.Text.Casing

/-!
# Canonical names are fixed points

A canonical name is its own canonical form, so a name may be brought to it again by whoever is
handed one: fields are looked up by keys and by written names alike. Lower case keeps to the law of its
rules (`lawful_lowerAt`), and nothing else about the tables of lower case is used:

* `isLowercase_of_mem_lowerAt`: what a character becomes is left alone from then on, wherever it
  stands. The images of the capitals are checked against the table one by one.
* `isBlank_of_mem_lowerAt`: no character that is not blank becomes a blank, so that lower case
  leaves nothing to trim.

The capital sigma needs no argument about words: both forms that it may take are lower case.
-/

namespace RecordStore.Text

/-! ### The table of capitals -/

namespace CaseRun

/-- The run maps the code. -/
def Maps (run : CaseRun) (n : Nat) : Prop :=
  run.first ≤ n ∧ n ≤ run.last ∧ (n - run.first) % run.step = 0

/-- The image of the last capital of a run. -/
def highest (run : CaseRun) : Nat := run.target + (run.last - run.first)

/-- The images of a run are none of the capitals of the other: they lie on one side of them, or
between them as the letters of an alphabet that alternates capitals and small letters. -/
def avoids (run other : CaseRun) : Bool :=
  Nat.blt run.highest other.first || Nat.blt other.last run.target ||
    Nat.beq other.step 2 && (Nat.beq run.step 2 || Nat.beq run.target run.highest) &&
      Nat.beq ((run.target + other.first) % 2) 1

/-- The images of a run are characters, no blanks, none of the table's capitals, and not the
capital whose image is given apart from the table. -/
def settled (run : CaseRun) : Bool :=
  caseRuns.all run.avoids &&
    (run.highest < 0xD800 || 0xE000 ≤ run.target && run.highest < 0x110000) &&
    (run.highest < 'İ'.toNat || 'İ'.toNat < run.target) &&
    blanks.ranges.all fun (first, last) ↦ run.highest < first || last < run.target

theorem not_maps_of_avoids {run other : CaseRun} (h : run.avoids other = true) {k : Nat}
    (hk : k ≤ run.last - run.first) (hstep : k % run.step = 0) :
    ¬ other.Maps (run.target + k) := by
  rintro ⟨hfirst, hlast, hother⟩
  simp only [avoids, highest, Bool.or_eq_true, Bool.and_eq_true, Nat.blt_eq,
    Nat.beq_eq] at h
  obtain (h | h) | ⟨⟨htwo, hrun⟩, hodd⟩ := h
  · omega
  · omega
  · rw [htwo] at hother
    obtain hrun | hrun := hrun
    · rw [hrun] at hstep
      omega
    · omega

end CaseRun

/-- **The images of all capitals are settled.** -/
theorem settled_of_mem_caseRuns : ∀ run ∈ caseRuns, run.settled = true :=
  List.all_eq_true.1 (by decide +kernel)

/-- A code that no run maps stays as it is. -/
theorem lowerCode_cases (runs : List CaseRun) (n : Nat) :
    lowerCode runs n = n ∨
      ∃ run ∈ runs, run.Maps n ∧ lowerCode runs n = run.target + (n - run.first) := by
  induction runs with
  | nil => exact .inl rfl
  | cons run more ih =>
    rw [lowerCode]
    split
    · exact .inl rfl
    · next hfirst =>
      split
      · next hrun =>
        rw [Bool.and_eq_true, decide_eq_true_eq, decide_eq_true_eq] at hrun
        exact .inr ⟨run, List.mem_cons_self, ⟨by omega, hrun.1, hrun.2⟩, rfl⟩
      · obtain hsame | ⟨other, hmem, h⟩ := ih
        · exact .inl hsame
        · exact .inr ⟨other, List.mem_cons_of_mem _ hmem, h⟩

/-- A code that stays as it is when it is an image: a character, no blank, and not the capital
whose image is given apart from the table. -/
structure SettledCode (n : Nat) : Prop where
  valid : n.isValidChar
  fixed : lowerCode caseRuns n = n
  not_apart : n ≠ 'İ'.toNat
  not_blank : CharSet.covers blanks.ranges n = false

theorem settledCode_image {run : CaseRun} (hrun : run ∈ caseRuns) {k : Nat}
    (hk : k ≤ run.last - run.first) (hstep : k % run.step = 0) : SettledCode (run.target + k) := by
  have hsettled := settled_of_mem_caseRuns run hrun
  simp only [CaseRun.settled, Bool.and_eq_true, Bool.or_eq_true, decide_eq_true_eq,
    List.all_eq_true] at hsettled
  obtain ⟨⟨⟨havoids, hvalid⟩, hapart⟩, hblank⟩ := hsettled
  have hle : run.target + k ≤ run.highest := Nat.add_le_add_left hk run.target
  constructor
  · simp only [Nat.isValidChar]
    omega
  · obtain hsame | ⟨other, hmem, hmaps, -⟩ := lowerCode_cases caseRuns (run.target + k)
    · exact hsame
    · exact absurd hmaps (CaseRun.not_maps_of_avoids (havoids other hmem) hk hstep)
  · omega
  · rw [Bool.eq_false_iff]
    intro hcovers
    obtain ⟨range, hmem, hrange⟩ := CharSet.exists_range_of_covers hcovers
    have hdisjoint := hblank range hmem
    omega

theorem SettledCode.toNat_ofNat {n : Nat} (h : SettledCode n) : (Char.ofNat n).toNat = n := by
  rw [Char.ofNat, dif_pos h.valid]
  rfl

/-! ### Lower case characters -/

/-- Lower case leaves the character alone, wherever it stands. -/
def IsLowercase (c : Char) : Prop := c ≠ 'Σ' ∧ lowerChar c = [c]

instance (c : Char) : Decidable (IsLowercase c) := inferInstanceAs (Decidable (_ ∧ _))

theorem SettledCode.isLowercase {n : Nat} (h : SettledCode n) : IsLowercase (Char.ofNat n) := by
  have hn := h.toNat_ofNat
  constructor
  · intro heq
    have hsigma : lowerCode caseRuns 'Σ'.toNat ≠ 'Σ'.toNat := by decide +kernel
    rw [heq] at hn
    exact hsigma (hn ▸ h.fixed)
  · have hne : Char.ofNat n ≠ 'İ' := fun heq ↦ h.not_apart (by rw [← hn, heq])
    rw [lowerChar, if_neg hne, hn, h.fixed]

theorem SettledCode.isBlank_eq_false {n : Nat} (h : SettledCode n) :
    isBlank (Char.ofNat n) = false := by
  rw [isBlank, CharSet.contains, h.toNat_ofNat]
  exact h.not_blank

/-- What a character becomes by itself: it stays, or it is mapped to a settled code, or it is the
capital whose image is given apart from the table. -/
theorem lowerChar_cases (c : Char) :
    lowerChar c = [c] ∨ (∃ n, SettledCode n ∧ lowerChar c = [Char.ofNat n]) ∨
      lowerChar c = ['i', '\u0307'] := by
  rw [lowerChar]
  split
  · exact .inr (.inr rfl)
  · obtain hsame | ⟨run, hmem, ⟨hfirst, hlast, hstep⟩, heq⟩ := lowerCode_cases caseRuns c.toNat
    · exact .inl (by rw [hsame, Char.ofNat_toNat])
    · have hsettled := settledCode_image hmem (Nat.sub_le_sub_right hlast run.first) hstep
      exact .inr (.inl ⟨_, hsettled, by rw [heq]⟩)

/-- **What a character becomes is lower case.** -/
theorem isLowercase_of_mem_lowerAt {before after : List Char} {c d : Char}
    (h : d ∈ lowerAt before c after) : IsLowercase d := by
  rw [lowerAt] at h
  split at h
  · split at h
    all_goals
      rw [List.mem_singleton] at h
      subst h
      decide +kernel
  · next hsigma =>
    obtain hsame | ⟨n, hn, heq⟩ | heq := lowerChar_cases c
    · rw [hsame, List.mem_singleton] at h
      exact h ▸ ⟨hsigma, hsame⟩
    · rw [heq, List.mem_singleton] at h
      exact h ▸ hn.isLowercase
    · rw [heq, List.mem_cons, List.mem_singleton] at h
      obtain rfl | rfl := h <;> decide +kernel

/-- **No character that is not blank becomes a blank.** -/
theorem isBlank_of_mem_lowerAt {before after : List Char} {c d : Char} (hc : isBlank c = false)
    (h : d ∈ lowerAt before c after) : isBlank d = false := by
  rw [lowerAt] at h
  split at h
  · split at h
    all_goals
      rw [List.mem_singleton] at h
      subst h
      decide +kernel
  · obtain hsame | ⟨n, hn, heq⟩ | heq := lowerChar_cases c
    · rw [hsame, List.mem_singleton] at h
      exact h ▸ hc
    · rw [heq, List.mem_singleton] at h
      exact h ▸ hn.isBlank_eq_false
    · rw [heq, List.mem_cons, List.mem_singleton] at h
      obtain rfl | rfl := h <;> decide +kernel

theorem lowerAt_ne_nil (before : List Char) (c : Char) (after : List Char) :
    lowerAt before c after ≠ [] := by
  rw [lowerAt]
  split
  · simp
  · obtain heq | ⟨n, -, heq⟩ | heq := lowerChar_cases c <;> simp [heq]

/-! ### Canonical names -/

/-- **Lower case keeps to the law** of its rules. -/
theorem lawful_lowerAt : CaseRule.Lawful lowerAt where
  ne_nil := lowerAt_ne_nil
  fixes h _ _ := by
    obtain ⟨hsigma, hsame⟩ := isLowercase_of_mem_lowerAt h
    rw [lowerAt, if_neg hsigma, hsame]
  not_blank := isBlank_of_mem_lowerAt

theorem applied_lowerAt (before cs : List Char) :
    CaseRule.applied lowerAt before cs = lowerAfter before cs := by
  induction cs generalizing before with
  | nil => rfl
  | cons c after ih => rw [CaseRule.applied, lowerAfter, ih]

theorem canonical_lowerAt (name : String) : CaseRule.canonical lowerAt name = canonical name := by
  rw [CaseRule.canonical, applied_lowerAt, canonical, lowercase, trim, String.toList_ofList]

theorem trim_canonical (name : String) : trim (canonical name) = canonical name := by
  rw [← canonical_lowerAt]
  exact trim_eq_self (lawful_lowerAt.trimmed_canonical name)

/-- **A canonical name is its own canonical form.** -/
theorem canonical_canonical (name : String) : canonical (canonical name) = canonical name := by
  rw [← canonical_lowerAt, ← canonical_lowerAt, lawful_lowerAt.canonical_canonical]

/-- Trimming a name does not change what it names. -/
theorem canonical_trim (name : String) : canonical (trim name) = canonical name := by
  rw [canonical, trim_trim, canonical]

end RecordStore.Text
