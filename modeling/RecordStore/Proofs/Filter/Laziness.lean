import Mathlib.Logic.Function.Basic
import Mathlib.Order.Bounds.Defs
import RecordStore.Proofs.Filter.Check

/-!
# What evaluation leaves out

A filter is evaluated from left to right, and comparisons that cannot change the result any more are left
out. So a comparison may fail without a harm. Said without an order of evaluation, by truth values that
are given to the comparisons one by one (`Filter.truth`):

* if there is a result, then it is the filter's truth value whatever the comparisons that fail are taken
  for (`truth_of_evaluate`), and none of these matters where it stands (`not_dependsOn_of_evaluate`);
* if there is an error, then it is that of a comparison which matters there, and none of those in front of
  it that fail does (`exists_first_of_evaluate`).

A comparison matters if, with those in front of it settled, there are truth values for those behind it
with which the filter's truth value hangs on it (`DependsOn`). Conjunctions and disjunctions differ only
in the truth value of the left side with which they go on to the right one (`Joins`), so all is shown for
both at once.
-/

namespace RecordStore

namespace Filter

variable {filter left right : Filter} {ρ σ : Nat → Bool} {n m : Nat} {pass : Bool}

/-! ### Truth values for the comparisons -/

/-- The number of comparisons. -/
def size (filter : Filter) : Nat := filter.comparisons.length

/-- The truth values that are left when those of the first `n` comparisons are taken away. -/
def behind (n : Nat) (ρ : Nat → Bool) : Nat → Bool := fun i ↦ ρ (n + i)

/-- The truth value of a filter, when its comparisons, from left to right, have these. -/
def truth : Filter → (Nat → Bool) → Bool
  | comparison .., ρ => ρ 0
  | and left right, ρ => left.truth ρ && right.truth (behind left.size ρ)
  | or left right, ρ => left.truth ρ || right.truth (behind left.size ρ)

/-- There are truth values for the comparisons behind number `n` with which the filter's truth value
depends on that comparison. Those in front of it have the truth values of `ρ`. -/
def DependsOn (filter : Filter) (ρ : Nat → Bool) (n : Nat) : Prop :=
  ∃ σ : Nat → Bool, (∀ i < n, σ i = ρ i) ∧
    filter.truth (Function.update σ n true) ≠ filter.truth (Function.update σ n false)

/-- The filter goes on from its left side to its right one if the left one has the truth value `pass`;
otherwise it has the truth value of the left side. -/
inductive Joins : Bool → Filter → Filter → Filter → Prop where
  /-- A conjunction goes on when the left side holds. -/
  | and (left right : Filter) : Joins true (.and left right) left right
  /-- A disjunction goes on when the left side does not hold. -/
  | or (left right : Filter) : Joins false (.or left right) left right

/-- A filter is a comparison or joined from two filters. -/
@[elab_as_elim]
theorem joins_induction {motive : Filter → Prop}
    (comparison : ∀ x op y, motive (.comparison x op y))
    (join : ∀ {pass filter left right}, Joins pass filter left right → motive left → motive right →
      motive filter) (filter : Filter) : motive filter := by
  induction filter with
  | comparison x op y => exact comparison x op y
  | and left right ihleft ihright => exact join (.and left right) ihleft ihright
  | or left right ihleft ihright => exact join (.or left right) ihleft ihright

theorem Joins.comparisons_eq (h : Joins pass filter left right) :
    filter.comparisons = left.comparisons ++ right.comparisons := by
  cases h <;> rfl

theorem Joins.size_eq (h : Joins pass filter left right) : filter.size = left.size + right.size := by
  rw [size, h.comparisons_eq, List.length_append]
  rfl

theorem Joins.truth_of_eq (h : Joins pass filter left right) (hleft : left.truth ρ = pass) :
    filter.truth ρ = right.truth (behind left.size ρ) := by
  cases h <;> simp [truth, hleft]

theorem Joins.truth_of_ne (h : Joins pass filter left right) (hleft : left.truth ρ ≠ pass) :
    filter.truth ρ = left.truth ρ := by
  cases h <;> simp_all [truth]

/-- The truth value of a filter is that of its comparisons alone. -/
theorem truth_congr (h : ∀ i < filter.size, ρ i = σ i) : filter.truth ρ = filter.truth σ := by
  induction filter using joins_induction generalizing ρ σ with
  | comparison => exact h 0 Nat.one_pos
  | @join pass filter left right hjoins ihleft ihright =>
    rw [hjoins.size_eq] at h
    have hleft : left.truth ρ = left.truth σ := ihleft fun i hi ↦ h i (by omega)
    have hright : right.truth (behind left.size ρ) = right.truth (behind left.size σ) :=
      ihright fun i hi ↦ h (left.size + i) (by omega)
    by_cases hpass : left.truth σ = pass
    · rw [hjoins.truth_of_eq (hleft.trans hpass), hjoins.truth_of_eq hpass, hright]
    · rw [hjoins.truth_of_ne (hleft.trans_ne hpass), hjoins.truth_of_ne hpass, hleft]

/-- As nothing is negated, comparisons that agree give the filter their truth value. -/
theorem truth_const (filter : Filter) (b : Bool) : filter.truth (fun _ ↦ b) = b := by
  induction filter using joins_induction with
  | comparison => rfl
  | @join pass filter left right hjoins ihleft ihright =>
    by_cases hpass : left.truth (fun _ ↦ b) = pass
    · rw [hjoins.truth_of_eq hpass]
      exact ihright
    · rw [hjoins.truth_of_ne hpass, ihleft]

/-! ### What depends on a comparison -/

section

variable (h : Joins pass filter left right)

include h

/-- A filter depends on a comparison of its left side if that does: the right side can be made to hold or
not to hold. -/
theorem Joins.dependsOn_left (hn : n < left.size) : filter.DependsOn ρ n ↔ left.DependsOn ρ n := by
  have hbehind (σ : Nat → Bool) (b : Bool) :
      behind left.size (Function.update σ n b) = behind left.size σ := by
    funext i
    have hne : left.size + i ≠ n := by omega
    exact Function.update_of_ne hne b σ
  constructor
  · rintro ⟨σ, hσ, hne⟩
    refine ⟨σ, hσ, fun heq ↦ hne ?_⟩
    by_cases hpass : left.truth (Function.update σ n false) = pass
    · rw [h.truth_of_eq hpass, h.truth_of_eq (heq.trans hpass), hbehind, hbehind]
    · rw [h.truth_of_ne hpass, h.truth_of_ne (heq ▸ hpass), heq]
  · rintro ⟨σ, hσ, hne⟩
    -- the comparisons of the right side have what makes it decisive
    let τ : Nat → Bool := fun i ↦ if i < left.size then σ i else pass
    have hleft (b : Bool) : left.truth (Function.update τ n b) = left.truth (Function.update σ n b) := by
      refine truth_congr fun i hi ↦ ?_
      by_cases hin : i = n
      · rw [hin, Function.update_self, Function.update_self]
      · rw [Function.update_of_ne hin, Function.update_of_ne hin]
        exact if_pos hi
    have hright : right.truth (behind left.size τ) = pass := by
      have hconst : behind left.size τ = fun _ ↦ pass := by
        funext i
        show (if left.size + i < left.size then _ else pass) = pass
        exact if_neg (by omega)
      rw [hconst, truth_const]
    have hfilter (b : Bool) :
        filter.truth (Function.update τ n b) = left.truth (Function.update σ n b) := by
      rw [← hleft]
      by_cases hpass : left.truth (Function.update τ n b) = pass
      · rw [h.truth_of_eq hpass, hbehind, hright, hpass]
      · exact h.truth_of_ne hpass
    refine ⟨τ, fun i hi ↦ (if_pos (by omega)).trans (hσ i hi), ?_⟩
    rwa [hfilter, hfilter]

/-- A filter depends on a comparison of its right side if it goes on to that, and the right side
depends on it. -/
theorem Joins.dependsOn_right : filter.DependsOn ρ (left.size + n) ↔
    left.truth ρ = pass ∧ right.DependsOn (behind left.size ρ) n := by
  have hbehind (σ : Nat → Bool) (b : Bool) : behind left.size (Function.update σ (left.size + n) b) =
      Function.update (behind left.size σ) n b := by
    funext i
    simp [behind, Function.update_apply]
  have hleft {σ : Nat → Bool} (hσ : ∀ i < left.size + n, σ i = ρ i) (b : Bool) :
      left.truth (Function.update σ (left.size + n) b) = left.truth ρ :=
    truth_congr fun i hi ↦ (Function.update_of_ne (by omega) b σ).trans (hσ i (by omega))
  constructor
  · rintro ⟨σ, hσ, hne⟩
    by_cases hpass : left.truth ρ = pass
    · refine ⟨hpass, behind left.size σ, fun i hi ↦ hσ _ (by omega), ?_⟩
      rwa [← hbehind, ← hbehind, ← h.truth_of_eq ((hleft hσ true).trans hpass),
        ← h.truth_of_eq ((hleft hσ false).trans hpass)]
    · -- the right side is not come to
      refine absurd ?_ hne
      rw [h.truth_of_ne ((hleft hσ true).trans_ne hpass), h.truth_of_ne ((hleft hσ false).trans_ne hpass),
        hleft hσ, hleft hσ]
  · rintro ⟨hpass, σ, hσ, hne⟩
    let τ : Nat → Bool := fun i ↦ if i < left.size then ρ i else σ (i - left.size)
    have hτ : ∀ i < left.size + n, τ i = ρ i := by
      intro i hi
      by_cases hin : i < left.size
      · exact if_pos hin
      · refine (if_neg hin).trans ((hσ _ (by omega)).trans ?_)
        exact congrArg ρ (by omega)
    have hσ : behind left.size τ = σ := by
      funext i
      refine (if_neg (by omega)).trans ?_
      rw [Nat.add_sub_cancel_left]
    refine ⟨τ, hτ, ?_⟩
    rwa [h.truth_of_eq ((hleft hτ true).trans hpass), h.truth_of_eq ((hleft hτ false).trans hpass),
      hbehind, hbehind, hσ]

end

/-! ### Evaluation -/

variable {schema : Schema} {record : Record} {cause : FilterError} {met : Bool}

/-- What the comparison with a number comes to. -/
def result? (schema : Schema) (record : Record) (filter : Filter) (n : Nat) :
    Option (Except FilterError Bool) :=
  filter.comparisons[n]?.map fun c ↦ compare schema record c.left c.op c.right

/-- The truth values are those that the first `n` comparisons come to, and any for those of them that
fail. -/
def Follows (schema : Schema) (record : Record) (filter : Filter) (n : Nat) (ρ : Nat → Bool) : Prop :=
  ∀ i < n, ∀ met, filter.result? schema record i = some (.ok met) → ρ i = met

theorem Follows.mono (h : filter.Follows schema record n ρ) (hm : m ≤ n) :
    filter.Follows schema record m ρ :=
  fun i hi ↦ h i (by omega)

theorem lt_size_of_result? {result : Except FilterError Bool}
    (h : filter.result? schema record n = some result) : n < filter.size := by
  obtain ⟨c, hc, -⟩ := Option.map_eq_some_iff.1 h
  exact (List.getElem?_eq_some_iff.1 hc).1

section

variable (h : Joins pass filter left right)

include h

theorem Joins.result?_left (hn : n < left.size) :
    filter.result? schema record n = left.result? schema record n := by
  rw [result?, result?, h.comparisons_eq, List.getElem?_append_left hn]

theorem Joins.result?_right :
    filter.result? schema record (left.size + n) = right.result? schema record n := by
  have hbehind : left.comparisons.length ≤ left.size + n := Nat.le_add_right ..
  rw [result?, result?, h.comparisons_eq, List.getElem?_append_right hbehind]
  exact congrArg (fun i ↦ right.comparisons[i]?.map _) (Nat.add_sub_cancel_left ..)

theorem Joins.follows_left (hρ : filter.Follows schema record n ρ) (hn : n ≤ left.size) :
    left.Follows schema record n ρ :=
  fun i hi met hmet ↦ hρ i hi met (by rwa [h.result?_left (by omega)])

/-- Truth values that follow some comparisons of the right side follow all of the left side. -/
theorem Joins.follows_left_size (hρ : filter.Follows schema record (left.size + n) ρ) :
    left.Follows schema record left.size ρ :=
  h.follows_left (hρ.mono (Nat.le_add_right ..)) (Nat.le_refl _)

theorem Joins.follows_right (hρ : filter.Follows schema record (left.size + n) ρ) :
    right.Follows schema record n (behind left.size ρ) :=
  fun i hi met hmet ↦ hρ _ (by omega) met (by rwa [h.result?_right])

/-- **A step of the evaluation.** A result of the filter is that of the right side, if the left one lets
pass, or else of the left side. -/
theorem Joins.evaluate_eq_ok (hmet : evaluate schema record filter = .ok met) :
    evaluate schema record left = .ok pass ∧ evaluate schema record right = .ok met ∨
      met ≠ pass ∧ evaluate schema record left = .ok met := by
  cases h <;> rw [evaluate] at hmet <;> split at hmet
  · next hleft => exact .inl ⟨hleft, hmet⟩
  · next hleft => exact .inr ⟨fun hpass ↦ hleft (hpass ▸ hmet), hmet⟩
  · next hleft => exact .inl ⟨hleft, hmet⟩
  · next hleft => exact .inr ⟨fun hpass ↦ hleft (hpass ▸ hmet), hmet⟩

/-- An error of the filter is one of the left side, or one of the right side if the left one lets
pass. -/
theorem Joins.evaluate_eq_error (hcause : evaluate schema record filter = .error cause) :
    evaluate schema record left = .error cause ∨
      evaluate schema record left = .ok pass ∧ evaluate schema record right = .error cause := by
  cases h <;> rw [evaluate] at hcause <;> split at hcause
  · next hleft => exact .inr ⟨hleft, hcause⟩
  · exact .inl hcause
  · next hleft => exact .inr ⟨hleft, hcause⟩
  · exact .inl hcause

end

/-- **A result is the truth value**, whatever the comparisons that fail are taken for. -/
theorem truth_of_evaluate (h : evaluate schema record filter = .ok met)
    (hρ : filter.Follows schema record filter.size ρ) : filter.truth ρ = met := by
  induction filter using joins_induction generalizing met ρ with
  | comparison x op y => exact hρ 0 Nat.one_pos met (congrArg some h)
  | join hjoins ihleft ihright =>
    rw [hjoins.size_eq] at hρ
    have hρleft := hjoins.follows_left_size hρ
    obtain ⟨hleft, hright⟩ | ⟨hne, hleft⟩ := hjoins.evaluate_eq_ok h
    · rw [hjoins.truth_of_eq (ihleft hleft hρleft)]
      exact ihright hright (hjoins.follows_right hρ)
    · have htruth := ihleft hleft hρleft
      rw [hjoins.truth_of_ne (htruth.trans_ne hne), htruth]

/-- **Where there is a result**, it depends on no comparison that fails. -/
theorem not_dependsOn_of_evaluate (h : evaluate schema record filter = .ok met)
    (hcause : filter.result? schema record n = some (.error cause))
    (hρ : filter.Follows schema record n ρ) : ¬ filter.DependsOn ρ n := by
  induction filter using joins_induction generalizing met ρ n with
  | comparison x op y =>
    -- the only comparison has not failed
    obtain rfl : n = 0 := Nat.lt_one_iff.1 (lt_size_of_result? hcause)
    cases (Option.some.inj hcause).symm.trans h
  | @join pass filter left right hjoins ihleft ihright =>
    have hevaluate := hjoins.evaluate_eq_ok h
    by_cases hn : n < left.size
    · rw [hjoins.dependsOn_left hn]
      rw [hjoins.result?_left hn] at hcause
      obtain ⟨hleft, -⟩ | ⟨-, hleft⟩ := hevaluate
      · exact ihleft hleft hcause (hjoins.follows_left hρ hn.le)
      · exact ihleft hleft hcause (hjoins.follows_left hρ hn.le)
    · obtain ⟨n, rfl⟩ := Nat.exists_eq_add_of_le (not_lt.1 hn)
      rw [hjoins.dependsOn_right]
      rw [hjoins.result?_right] at hcause
      rintro ⟨hpass, hdepends⟩
      obtain ⟨-, hright⟩ | ⟨hne, hleft⟩ := hevaluate
      · exact ihright hright hcause (hjoins.follows_right hρ) hdepends
      · have hρleft := hjoins.follows_left_size hρ
        exact hne ((truth_of_evaluate hleft hρleft).symm.trans hpass)

/-- **Where there is an error**, it is that of a comparison which the filter depends on, whatever those in
front of it that fail are taken for. On none of these does it depend. -/
theorem exists_first_of_evaluate (h : evaluate schema record filter = .error cause) :
    ∃ n, filter.result? schema record n = some (.error cause) ∧
      (∀ ρ, filter.Follows schema record n ρ → filter.DependsOn ρ n) ∧
      ∀ m < n, ∀ other, filter.result? schema record m = some (.error other) →
        ∀ ρ, filter.Follows schema record m ρ → ¬ filter.DependsOn ρ m := by
  induction filter using joins_induction with
  | comparison x op y =>
    refine ⟨0, congrArg some h, fun ρ _ ↦ ⟨ρ, fun _ _ ↦ rfl, ?_⟩, fun m hm ↦ absurd hm (by omega)⟩
    rw [truth, truth, Function.update_self, Function.update_self]
    decide
  | @join pass filter left right hjoins ihleft ihright =>
    obtain hleft | ⟨hleft, hright⟩ := hjoins.evaluate_eq_error h
    · obtain ⟨n, hn, hdepends, hbefore⟩ := ihleft hleft
      have hsize := lt_size_of_result? hn
      refine ⟨n, (hjoins.result?_left hsize).trans hn, fun ρ hρ ↦ ?_, fun m hm other hother ρ hρ ↦ ?_⟩
      · exact (hjoins.dependsOn_left hsize).2 (hdepends ρ (hjoins.follows_left hρ hsize.le))
      · have hmsize : m < left.size := hm.trans hsize
        rw [hjoins.dependsOn_left hmsize]
        rw [hjoins.result?_left hmsize] at hother
        exact hbefore m hm other hother ρ (hjoins.follows_left hρ hmsize.le)
    · obtain ⟨n, hn, hdepends, hbefore⟩ := ihright hright
      refine ⟨left.size + n, hjoins.result?_right.trans hn, fun ρ hρ ↦ ?_, fun m hm other hother ρ hρ ↦ ?_⟩
      · have hρleft := hjoins.follows_left_size hρ
        exact hjoins.dependsOn_right.2
          ⟨truth_of_evaluate hleft hρleft, hdepends _ (hjoins.follows_right hρ)⟩
      · by_cases hmsize : m < left.size
        · rw [hjoins.dependsOn_left hmsize]
          rw [hjoins.result?_left hmsize] at hother
          exact not_dependsOn_of_evaluate hleft hother (hjoins.follows_left hρ hmsize.le)
        · obtain ⟨m, rfl⟩ := Nat.exists_eq_add_of_le (not_lt.1 hmsize)
          rw [hjoins.dependsOn_right]
          rw [hjoins.result?_right] at hother
          exact fun hright ↦ hbefore m (by omega) other hother _ (hjoins.follows_right hρ) hright.2

/-! ### Comparisons that matter -/

/-- A comparison fails, and for some truth values of those in front of it that fail the filter depends on
it. -/
def Matters (schema : Schema) (record : Record) (filter : Filter) (n : Nat) : Prop :=
  (∃ cause, filter.result? schema record n = some (.error cause)) ∧
    ∃ ρ, filter.Follows schema record n ρ ∧ filter.DependsOn ρ n

/-- A comparison fails, and for all truth values of those in front of it that fail the filter depends on
it. -/
def AlwaysMatters (schema : Schema) (record : Record) (filter : Filter) (n : Nat) : Prop :=
  (∃ cause, filter.result? schema record n = some (.error cause)) ∧
    ∀ ρ, filter.Follows schema record n ρ → filter.DependsOn ρ n

/-- Truth values can be given to the comparisons that fail. -/
theorem exists_follows (schema : Schema) (record : Record) (filter : Filter) (n : Nat) :
    ∃ ρ, filter.Follows schema record n ρ := by
  refine ⟨fun i ↦ ((filter.result? schema record i).bind Except.toOption).getD true, ?_⟩
  intro i _ met hmet
  simp [hmet, Except.toOption]

theorem AlwaysMatters.matters (h : filter.AlwaysMatters schema record n) :
    filter.Matters schema record n := by
  obtain ⟨ρ, hρ⟩ := exists_follows schema record filter n
  exact ⟨h.1, ρ, hρ, h.2 ρ hρ⟩

/-- **The error is that of the first comparison that matters**, in each way of saying so that is between
the two. -/
theorem error_iff_of_matters {matters : Nat → Prop}
    (halways : ∀ n, filter.AlwaysMatters schema record n → matters n)
    (hmatters : ∀ n, matters n → filter.Matters schema record n) :
    ((∃ cause, evaluate schema record filter = .error cause) ↔ ∃ n, matters n) ∧
      ∀ cause n, evaluate schema record filter = .error cause → IsLeast {m | matters m} n →
        filter.result? schema record n = some (.error cause) := by
  refine ⟨⟨?_, ?_⟩, ?_⟩
  · rintro ⟨cause, hcause⟩
    obtain ⟨n, hn, hdepends, -⟩ := exists_first_of_evaluate hcause
    exact ⟨n, halways n ⟨⟨cause, hn⟩, hdepends⟩⟩
  · rintro ⟨n, hn⟩
    obtain ⟨⟨cause, hcause⟩, ρ, hρ, hdepends⟩ := hmatters n hn
    cases hevaluate : evaluate schema record filter with
    | ok met => exact absurd hdepends (not_dependsOn_of_evaluate hevaluate hcause hρ)
    | error other => exact ⟨other, rfl⟩
  · rintro cause n hcause ⟨hn, hleast⟩
    obtain ⟨k, hk, hdepends, hbefore⟩ := exists_first_of_evaluate hcause
    have hle : n ≤ k := hleast (halways k ⟨⟨cause, hk⟩, hdepends⟩)
    obtain ⟨⟨other, hother⟩, ρ, hρ, hndepends⟩ := hmatters n hn
    obtain rfl : n = k := by
      by_contra hne
      exact hbefore n (by omega) other hother ρ hρ hndepends
    exact hk

/-- **Evaluation is lazy from left to right**, and no more. A result is the filter's truth value whatever
the comparisons that fail are taken for. There is an error if and only if a comparison that fails still
matters where it stands, and it is the error of the first one that does. A comparison matters if the truth
value can depend on it once the comparisons in front of it have theirs; whether those of them that fail
are given some truth values for this or all of them comes to the same. -/
theorem evaluate_lazy (schema : Schema) (record : Record) (filter : Filter) :
    (∀ met, evaluate schema record filter = .ok met →
      ∀ ρ, filter.Follows schema record filter.size ρ → filter.truth ρ = met) ∧
    ∀ matters ∈ [filter.Matters schema record, filter.AlwaysMatters schema record],
      ((∃ cause, evaluate schema record filter = .error cause) ↔ ∃ n, matters n) ∧
      ∀ cause n, evaluate schema record filter = .error cause → IsLeast {m | matters m} n →
        filter.result? schema record n = some (.error cause) := by
  refine ⟨fun met hmet ρ hρ ↦ truth_of_evaluate hmet hρ, fun matters hmem ↦ ?_⟩
  rcases List.mem_cons.1 hmem with rfl | hmem
  · exact error_iff_of_matters (fun n ↦ AlwaysMatters.matters) fun n ↦ id
  · rw [List.mem_singleton.1 hmem]
    exact error_iff_of_matters (fun n ↦ id) fun n ↦ AlwaysMatters.matters

/-- A level is compared with the texts `x` and `y`. Where it has been found to be greater than five, the
first of these comparisons does no harm; where it has to be less than five, it is left out, and the error
is that of the second. -/
theorem evaluate_lazy_level :
    let schema : Schema := ⟨[⟨"Level", .double, false, false⟩]⟩
    let record : Record := ⟨0, [("level", .double ⟨0x401E000000000000⟩)]⟩
    let level (op : Operator) (literal : Operand) : Filter := .comparison (.name "level") op literal
    let harmless := Filter.or (level .greater (.number "5")) (level .equal (.quoted "x"))
    let harmful := Filter.or (.and (level .less (.number "5")) (level .equal (.quoted "x")))
      (level .equal (.quoted "y"))
    evaluate schema record harmless = .ok true ∧
      (∀ ρ, harmless.Follows schema record 2 ρ → harmless.truth ρ = true) ∧
      (∃ n, harmful.Matters schema record n) ∧ ¬ IsLeast {n | harmful.Matters schema record n} 1 := by
  intro schema record level harmless harmful
  have hharmless : evaluate schema record harmless = .ok true := by decide +kernel
  have hharmful : evaluate schema record harmful =
      .error (.badLiteral "Level" (.notDouble "\"y\"")) := by decide +kernel
  obtain ⟨hiff, hfirst⟩ := (evaluate_lazy schema record harmful).2 _ List.mem_cons_self
  refine ⟨hharmless, (evaluate_lazy schema record harmless).1 true hharmless, hiff.1 ⟨_, hharmful⟩, ?_⟩
  intro hleast
  have hother : harmful.result? schema record 1 =
      some (.error (.badLiteral "Level" (.notDouble "\"x\""))) := by decide +kernel
  have hsame := hother.symm.trans (hfirst _ 1 hharmful hleast)
  exact absurd hsame (by decide +kernel)

end Filter

end RecordStore
