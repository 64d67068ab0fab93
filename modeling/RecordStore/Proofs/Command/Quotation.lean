import RecordStore.Command.Statement
import RecordStore.Proofs.Text.InQuotes

/-!
# Quoted texts inside of commands

Whoever looks for the end of a filter keeps track of quoted texts, character by character
(`Quotation.after`). Characters are `Sheltered` if none of them means anything to that reader: outside
of quoted texts they are no parentheses, and no backslashes either, for those have a meaning inside
only. So they are passed over (`splitClosing_of_sheltered`), and what stands between quotes is
sheltered whenever it can be read at all (`sheltered_of_decodes`).

Read from the inside of a quoted text, sheltered characters are taken the other way round, their
quoted texts for what stands between them and back (`after_inside`). That is why characters that end
outside of quoted texts cannot be cut in two at a parenthesis (`Closed.not_closed_behind`).
-/

namespace RecordStore.Statement

open RecordStore.Text

/-- The relation to quoted texts after some characters. -/
def Quotation.after (q : Quotation) (cs : List Char) : Quotation := cs.foldl Quotation.next q

/-- Outside of quoted texts there are no parentheses and no backslashes. -/
def Sheltered : Quotation → List Char → Prop
  | _, [] => True
  | q, c :: cs => (q = .outside → c ≠ '(' ∧ c ≠ ')' ∧ c ≠ '\\') ∧ Sheltered (q.next c) cs

variable {q : Quotation} {c : Char} {cs ds rest passed : List Char} {depth : Nat}

theorem Quotation.after_append : q.after (cs ++ ds) = (q.after cs).after ds := List.foldl_append

theorem sheltered_append : Sheltered q (cs ++ ds) ↔ Sheltered q cs ∧ Sheltered (q.after cs) ds := by
  induction cs generalizing q with
  | nil => simp [Sheltered, Quotation.after]
  | cons c cs ih =>
    rw [List.cons_append, Sheltered, Sheltered, ih, and_assoc]
    rfl

/-! ### Passing over -/

theorem splitClosing_pass (h : q = .outside → c ≠ '(' ∧ c ≠ ')') :
    splitClosing q depth passed (c :: rest) = splitClosing (q.next c) depth (c :: passed) rest := by
  rw [splitClosing.eq_def]
  dsimp only
  rw [if_neg fun hc ↦ (h hc.1).1 hc.2, if_neg fun hc ↦ (h hc.1).2 hc.2]

/-- **What is sheltered is passed over.** -/
theorem splitClosing_of_sheltered (h : Sheltered q cs) :
    splitClosing q depth passed (cs ++ rest) =
      splitClosing (q.after cs) depth (cs.reverse ++ passed) rest := by
  induction cs generalizing q passed with
  | nil => rfl
  | cons c cs ih =>
    obtain ⟨hc, hcs⟩ := h
    rw [List.cons_append, splitClosing_pass fun hq ↦ ⟨(hc hq).1, (hc hq).2.1⟩, ih hcs,
      List.reverse_cons, List.append_assoc, List.singleton_append]
    rfl

/-! ### What stands between quotes -/

/-- Inside of a quoted text, everything but quotes and backslashes leaves it at that. -/
theorem sheltered_inside_of_plain (h : ∀ c ∈ cs, c ≠ '"' ∧ c ≠ '\\') :
    Sheltered .inside cs ∧ Quotation.inside.after cs = .inside := by
  induction cs with
  | nil => exact ⟨trivial, rfl⟩
  | cons c cs ih =>
    obtain ⟨⟨hquote, hbackslash⟩, hcs⟩ := List.forall_mem_cons.1 h
    have hnext : Quotation.next .inside c = .inside := by
      rw [Quotation.next, if_neg hbackslash, if_neg hquote]
    obtain ⟨hsheltered, hafter⟩ := ih hcs
    refine ⟨⟨nofun, ?_⟩, ?_⟩
    · rw [hnext]
      exact hsheltered
    · rw [Quotation.after, List.foldl_cons, hnext]
      exact hafter

theorem sheltered_inside_of_hexFour {n : Nat} (h : HexFour cs n) :
    Sheltered .inside cs ∧ Quotation.inside.after cs = .inside := by
  have hplain : ∀ e ∈ hexDigits, e.1 ≠ '"' ∧ e.1 ≠ '\\' := by decide +kernel
  obtain @⟨a, b, c, d, x, y, z, w, ha, hb, hc, hd⟩ := h
  refine sheltered_inside_of_plain fun e he ↦ ?_
  simp only [List.mem_cons, List.not_mem_nil, or_false] at he
  rcases he with rfl | rfl | rfl | rfl
  · exact hplain _ ha
  · exact hplain _ hb
  · exact hplain _ hc
  · exact hplain _ hd

/-- What a backslash escapes leads back into the quoted text. -/
theorem sheltered_of_escaped {es : List Char} {d : Char} (h : Escaped es d) :
    Sheltered .escaped es ∧ Quotation.escaped.after es = .inside := by
  cases h with
  | short | self => exact ⟨⟨nofun, trivial⟩, rfl⟩
  | code h =>
    obtain ⟨hsheltered, hafter⟩ := sheltered_inside_of_hexFour h
    exact ⟨⟨nofun, hsheltered⟩, hafter⟩
  | @pair highs lows _ _ hhighs _ hlows _ =>
    obtain ⟨hhigh, hbetween⟩ := sheltered_inside_of_hexFour hhighs
    obtain ⟨hlow, hafter⟩ := sheltered_inside_of_hexFour hlows
    have hmark : Sheltered .inside ('\\' :: 'u' :: lows) :=
      ⟨nofun, nofun, hlow⟩
    refine ⟨⟨nofun, sheltered_append.2 ⟨hhigh, ?_⟩⟩, ?_⟩
    · exact hbetween.symm ▸ hmark
    · show Quotation.inside.after (highs ++ '\\' :: 'u' :: lows) = .inside
      rw [Quotation.after_append, hbetween]
      exact hafter

/-- **What stands between quotes** is sheltered, and the closing quote is found behind it. -/
theorem sheltered_of_decodes {s : List Char} (h : Decodes cs s) :
    Sheltered .inside cs ∧ Quotation.inside.after cs = .inside := by
  induction h with
  | nil => exact ⟨trivial, rfl⟩
  | @plain c cs s hc _ ih =>
    rw [not_or] at hc
    have hone := sheltered_inside_of_plain (List.forall_mem_singleton.2 hc)
    rw [← List.singleton_append, sheltered_append, Quotation.after_append, hone.2]
    exact ⟨⟨hone.1, ih.1⟩, ih.2⟩
  | @escaped es cs s d hes _ ih =>
    obtain ⟨hsheltered, hafter⟩ := sheltered_of_escaped hes
    refine ⟨⟨nofun, sheltered_append.2 ⟨hsheltered, ?_⟩⟩, ?_⟩
    · exact hafter.symm ▸ ih.1
    · show Quotation.escaped.after (es ++ cs) = .inside
      rw [Quotation.after_append, hafter]
      exact ih.2

/-! ### Characters that end outside of quoted texts -/

/-- The characters are sheltered, and every quoted text in them is closed. -/
structure Closed (cs : List Char) : Prop where
  /-- They are sheltered. -/
  sheltered : Sheltered .outside cs
  /-- They end outside of quoted texts. -/
  outside : Quotation.outside.after cs = .outside

theorem closed_nil : Closed [] := ⟨trivial, rfl⟩

theorem Closed.append (hcs : Closed cs) (hds : Closed ds) : Closed (cs ++ ds) where
  sheltered := sheltered_append.2 ⟨hcs.sheltered, hcs.outside.symm ▸ hds.sheltered⟩
  outside := by rw [Quotation.after_append, hcs.outside, hds.outside]

theorem closed_of_plain (h : ∀ c ∈ cs, c ≠ '(' ∧ c ≠ ')' ∧ c ≠ '\\' ∧ c ≠ '"') : Closed cs := by
  induction cs with
  | nil => exact closed_nil
  | cons c cs ih =>
    obtain ⟨⟨hopen, hclose, hbackslash, hquote⟩, hcs⟩ := List.forall_mem_cons.1 h
    have hnext : Quotation.next .outside c = .outside := if_neg hquote
    have hone : Closed [c] := ⟨⟨fun _ ↦ ⟨hopen, hclose, hbackslash⟩, trivial⟩, hnext⟩
    exact hone.append (ih hcs)

theorem closed_quoted {s : List Char} (h : Decodes cs s) : Closed ('"' :: (cs ++ ['"'])) := by
  obtain ⟨hsheltered, hafter⟩ := sheltered_of_decodes h
  refine ⟨⟨fun _ ↦ by decide, sheltered_append.2 ⟨hsheltered, ?_⟩⟩, ?_⟩
  · have hquote : Sheltered .inside ['"'] := ⟨nofun, trivial⟩
    exact hafter.symm ▸ hquote
  · show Quotation.inside.after (cs ++ ['"']) = .outside
    rw [Quotation.after_append, hafter]
    rfl

/-- **From the inside everything is the other way round**: characters that are sheltered both ways lead
to opposite ends. -/
theorem after_inside (houtside : Sheltered .outside cs) (hinside : Sheltered .inside cs) :
    Quotation.inside.after cs ≠ Quotation.outside.after cs := by
  induction cs with
  | nil => decide
  | cons c cs ih =>
    obtain ⟨hc, houtside⟩ := houtside
    obtain ⟨-, hinside⟩ := hinside
    have hbackslash : c ≠ '\\' := (hc rfl).2.2
    rw [Quotation.after, Quotation.after, List.foldl_cons, List.foldl_cons]
    by_cases hquote : c = '"'
    · subst hquote
      exact (ih hinside houtside).symm
    · have hnext : Quotation.next .outside c = .outside := if_neg hquote
      have hnext' : Quotation.next .inside c = .inside := by
        rw [Quotation.next, if_neg hbackslash, if_neg hquote]
      rw [hnext] at houtside ⊢
      rw [hnext'] at hinside ⊢
      exact ih houtside hinside

/-- Closed characters are not closed behind a closing parenthesis in them. -/
theorem Closed.not_closed_behind (h : Closed (cs ++ ')' :: ds)) : ¬Closed ds := by
  intro hds
  obtain ⟨-, hbehind⟩ := sheltered_append.1 h.sheltered
  have hend := h.outside
  rw [Quotation.after_append] at hend
  generalize Quotation.outside.after cs = q at hbehind hend
  -- the parenthesis stands between quotes, so what is behind it begins inside of them
  have hinside : q.next ')' = .inside := by
    cases q with
    | outside => exact absurd rfl (hbehind.1 rfl).2.1
    | inside | escaped => rfl
  have hsheltered : Sheltered .inside ds := hinside ▸ hbehind.2
  have hafter : Quotation.inside.after ds = .outside := by
    rw [← hinside]
    exact hend
  exact after_inside hds.sheltered hsheltered (hafter.trans hds.outside.symm)

end RecordStore.Statement
