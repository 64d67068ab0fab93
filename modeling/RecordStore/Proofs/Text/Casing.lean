import Mathlib.Data.List.DropRight
import RecordStore.Text.Canonical

/-!
# Trimmed texts and rules of lower case

A canonical name is a trimmed text in lower case. What the characters become in lower case is a matter
of tables, and those grow with every version of the standard. That a canonical name is its own canonical
form hangs on little of them: it holds for every rule that leaves alone what it makes of a character,
wherever that stands, makes something of each, and makes no blank of what is none (`CaseRule.Lawful`).

* What the rule made of a text is then left alone, however the neighbours of a character have changed
  (`CaseRule.Lawful.applied_applied`).
* The ends of a trimmed text become ends that are no blanks, so there is nothing left to trim
  (`CaseRule.Lawful.trimmed_applied`).
-/

namespace RecordStore.Text

/-! ### Trimmed texts -/

/-- Neither end is a blank. -/
structure Trimmed (cs : List Char) : Prop where
  /-- The first character is no blank. -/
  head : ∀ c ∈ cs.head?, isBlank c = false
  /-- The last character is no blank. -/
  last : ∀ c ∈ cs.getLast?, isBlank c = false

theorem trimmed_of_not_isBlank {cs : List Char} (h : ∀ c ∈ cs, isBlank c = false) : Trimmed cs :=
  ⟨fun c hc ↦ h c (List.mem_of_head? hc), fun c hc ↦ h c (List.mem_of_getLast? hc)⟩

theorem skipBlanks_eq_self {cs : List Char} (h : ∀ c ∈ cs.head?, isBlank c = false) :
    skipBlanks cs = cs := by
  cases cs with
  | nil => rfl
  | cons c rest =>
    have hc : isBlank c = false := h c rfl
    simp [skipBlanks, hc]

theorem dropTrailingBlanks_eq_self {cs : List Char} (h : ∀ c ∈ cs.getLast?, isBlank c = false) :
    dropTrailingBlanks cs = cs := by
  have hrev : skipBlanks cs.reverse = cs.reverse :=
    skipBlanks_eq_self fun c hc ↦ h c (by rwa [List.head?_reverse] at hc)
  rw [dropTrailingBlanks, ← skipBlanks, hrev, List.reverse_reverse]

theorem dropTrailingBlanks_prefix (cs : List Char) : dropTrailingBlanks cs <+: cs :=
  List.rdropWhile_prefix isBlank cs

theorem Trimmed.trimChars_eq {cs : List Char} (h : Trimmed cs) : trimChars cs = cs := by
  rw [trimChars, skipBlanks_eq_self h.head, dropTrailingBlanks_eq_self h.last]

theorem trim_eq_self {s : String} (h : Trimmed s.toList) : trim s = s := by
  rw [trim, h.trimChars_eq, String.ofList_toList]

theorem trimmed_trimChars (cs : List Char) : Trimmed (trimChars cs) := by
  constructor
  · intro c hc
    obtain ⟨rest, hrest⟩ := List.head?_eq_some_iff.1 hc
    obtain ⟨after, hafter⟩ := dropTrailingBlanks_prefix (skipBlanks cs)
    rw [trimChars] at hrest
    rw [hrest, List.cons_append] at hafter
    exact isBlank_head_skipBlanks hafter.symm
  · intro c hc
    rw [trimChars, dropTrailingBlanks, List.getLast?_reverse] at hc
    obtain ⟨rest, hrest⟩ := List.head?_eq_some_iff.1 hc
    exact isBlank_head_skipBlanks hrest

theorem trim_trim (s : String) : trim (trim s) = trim s := by
  simp only [trim, String.toList_ofList, (trimmed_trimChars s.toList).trimChars_eq]

/-! ### Rules of lower case -/

/-- A rule of lower case: what a character becomes between those before it, the latest first, and those
after it. -/
abbrev CaseRule : Type := List Char → Char → List Char → List Char

namespace CaseRule

/-- The rule leaves the character alone, wherever it stands. -/
def Fixes (rule : CaseRule) (c : Char) : Prop := ∀ before after, rule before c after = [c]

/-- What a rule has to keep to, so that canonical names are canonical. -/
structure Lawful (rule : CaseRule) : Prop where
  /-- Every character becomes something. -/
  ne_nil (before : List Char) (c : Char) (after : List Char) : rule before c after ≠ []
  /-- What a character becomes is left alone from then on. -/
  fixes {before after : List Char} {c d : Char} (h : d ∈ rule before c after) : rule.Fixes d
  /-- No character that is not blank becomes a blank. -/
  not_blank {before after : List Char} {c d : Char} (hc : isBlank c = false)
    (h : d ∈ rule before c after) : isBlank d = false

/-- What the characters after `before` become by a rule. -/
def applied (rule : CaseRule) (before : List Char) : List Char → List Char
  | [] => []
  | c :: after => rule before c after ++ applied rule (c :: before) after

/-- The canonical form of a name by a rule: trimmed, and in lower case. -/
def canonical (rule : CaseRule) (name : String) : String :=
  String.ofList (rule.applied [] (trimChars name.toList))

variable {rule : CaseRule} {before cs : List Char}

theorem applied_eq_self (h : ∀ c ∈ cs, rule.Fixes c) : rule.applied before cs = cs := by
  induction cs generalizing before with
  | nil => rfl
  | cons c after ih =>
    obtain ⟨hc, hafter⟩ := List.forall_mem_cons.1 h
    rw [applied, hc, ih hafter, List.singleton_append]

theorem applied_ne_nil (h : rule.Lawful) (hcs : cs ≠ []) : rule.applied before cs ≠ [] := by
  cases cs with
  | nil => exact hcs
  | cons c after => exact List.append_ne_nil_of_left_ne_nil (h.ne_nil before c after) _

namespace Lawful

theorem fixes_of_mem_applied (h : rule.Lawful) {d : Char} (hd : d ∈ rule.applied before cs) :
    rule.Fixes d := by
  induction cs generalizing before with
  | nil => cases hd
  | cons c after ih =>
    rw [applied, List.mem_append] at hd
    obtain hd | hd := hd
    · exact h.fixes hd
    · exact ih hd

/-- **What is in lower case stays as it is.** -/
theorem applied_applied (h : rule.Lawful) (before' : List Char) :
    rule.applied before' (rule.applied before cs) = rule.applied before cs :=
  applied_eq_self fun _ hd ↦ h.fixes_of_mem_applied hd

/-- **A trimmed text is trimmed in lower case too**: both ends come from its own. -/
theorem trimmed_applied (h : rule.Lawful) (hcs : Trimmed cs) : Trimmed (rule.applied before cs) := by
  constructor
  · intro d hd
    cases cs with
    | nil => cases hd
    | cons c after =>
      rw [applied, List.head?_append_of_ne_nil _ (h.ne_nil before c after)] at hd
      exact h.not_blank (hcs.head c rfl) (List.mem_of_mem_head? hd)
  · intro d hd
    have hlast := hcs.last
    clear hcs
    induction cs generalizing before with
    | nil => cases hd
    | cons c after ih =>
      rw [applied] at hd
      cases after with
      | nil =>
        rw [applied, List.append_nil] at hd
        exact h.not_blank (hlast c rfl) (List.mem_of_getLast? hd)
      | cons e after =>
        rw [List.getLast?_append_of_ne_nil _ (applied_ne_nil h (List.cons_ne_nil e after))] at hd
        exact ih hd fun f hf ↦ hlast f (by rwa [List.getLast?_cons_cons])

theorem trimmed_canonical (h : rule.Lawful) (name : String) : Trimmed (rule.canonical name).toList := by
  rw [canonical, String.toList_ofList]
  exact h.trimmed_applied (trimmed_trimChars name.toList)

/-- **A canonical name is its own canonical form**, by every lawful rule. -/
theorem canonical_canonical (h : rule.Lawful) (name : String) :
    rule.canonical (rule.canonical name) = rule.canonical name := by
  rw [canonical, (h.trimmed_canonical name).trimChars_eq, canonical, String.toList_ofList,
    h.applied_applied]

end Lawful

end CaseRule

end RecordStore.Text
