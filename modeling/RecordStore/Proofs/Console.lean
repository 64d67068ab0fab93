import Mathlib.Data.List.ReduceOption
import RecordStore.Console
import RecordStore.Proofs.Store.Soundness

/-!
# Sessions and their refused commands

A session without prompt puts out the texts of the commands that were done, and complains about
those that were refused. Both are read off the results of its commands, executed one after another
(`feed_eq`).

The complaints are not all that goes to the errors: a log may be written between them. What a session
tells of its commands is therefore said of its messages, and of its errors for two kinds of logs
(`Session.Tells`). If the log is silent, as with its level off, the errors are the complaints, and if
it does not look at the time, they are what is written of each command alone.

A refused command leaves no trace but its messages. To say so of whole sessions, each line of a text
is given what it executes: a command and the store that it meets, or nothing if the line asks for no
command or comes too late. Taking refused lines out of a text takes their executions out of the list,
and changes no other (`executions_without`). That is an induction on the lines, and it is carried by
the soundness of the store: only in a sound store is a refused command sure to do nothing.
-/

namespace RecordStore.Console

open RecordStore.Text

variable {α β : Type} {store : Store} {line command : String} {deleted : Nat → Bool} {log : Log}

/-! ### Lines, commands and results -/

/-- The lines of a text. -/
def lines (text : String) : List String := splitLines [] text.toList

/-- The commands among lines: those before the first `exit` that are not blank, without the blanks
around them. -/
def commands (lines : List String) : List String :=
  ((lines.map trim).takeWhile fun line ↦ !equalsIgnoringAsciiCase line "exit").filter (!·.isEmpty)

/-- The results of commands, one after another. -/
def results (store : Store) : List String → List (Except Fault String)
  | [] => []
  | command :: rest => (store.step command).2 :: results (store.step command).1 rest

/-- The texts of the commands that were done. -/
def texts (results : List (Except Fault String)) : List String := results.filterMap Except.toOption

/-- What is said of a command that was refused. -/
def complaint? : Except Fault String → Option String
  | .ok _ => none
  | .error fault => some ("Error: " ++ fault.message)

/-- What is said of the commands that were refused. -/
def complaints (results : List (Except Fault String)) : List String := results.filterMap complaint?

/-- Texts with a line break after each. -/
def ended (texts : List String) : String := String.join (texts.map (· ++ "\n"))

/-- The items of a list whose positions are not in a set. -/
def without (deleted : Nat → Bool) (items : List α) : List α :=
  (items.zipIdx.filter fun item ↦ !deleted item.2).map (·.1)

/-- A command and the store that it meets. -/
structure Execution where
  /-- The store. -/
  store : Store
  /-- The command. -/
  command : String
  deriving DecidableEq

namespace Execution

/-- The result of the command. -/
def result (execution : Execution) : Except Fault String :=
  (execution.store.step execution.command).2

/-- The command is refused. -/
def Refused (execution : Execution) : Prop := ∃ fault, execution.result = .error fault

/-- What goes to the errors: the events on the way, and what follows from the result. -/
def messages (execution : Execution) : List Message :=
  .event (.executed execution.store execution.command) :: Message.ofResult execution.result

end Execution

/-- What each line executes: nothing if the line is blank, or if the session ends with it or before
it. -/
def executions (store : Store) : List String → List (Option Execution)
  | [] => []
  | line :: rest =>
    match Request.ofLine line with
    | .pass => none :: executions store rest
    | .exit => (line :: rest).map fun _ ↦ none
    | .command command => some ⟨store, command⟩ :: executions (store.step command).1 rest

/-! ### Logs -/

/-- What the session itself says. -/
def Message.complaint? : Message → Option String
  | event _ => none
  | complaint text => some text

namespace Log

/-- Nothing is written, of no event: the level that is asked for is off. -/
def Silent (log : Log) : Prop := ∀ number event, log number event = ""

/-- What is written of an event is the same at any time. -/
def Timeless (log : Log) : Prop := ∀ number event, log number event = log 0 event

end Log

/-- What a session tells that executed commands one after another. -/
structure Session.Tells (session : Session) (executions : List Execution) : Prop where
  /-- The texts of those that were done are put out, a line each. -/
  output : session.output = ended (texts (executions.map Execution.result))
  /-- The messages are theirs. -/
  messages : session.messages = executions.flatMap Execution.messages
  /-- Whatever is logged, the session itself complains about those that were refused. -/
  own : session.messages.filterMap Message.complaint? =
    complaints (executions.map Execution.result)
  /-- If the log is silent, the errors are the complaints, a line each. -/
  errors (log : Log) (h : log.Silent) :
    session.errorsWith log = ended (complaints (executions.map Execution.result))
  /-- If the log does not look at the time, the errors are what is written of each command alone. -/
  errors_join (log : Log) (h : log.Timeless) :
    session.errorsWith log =
      String.join (executions.map fun execution ↦ log.written 0 execution.messages)

/-! ### What is written of messages -/

theorem ended_append (texts others : List String) :
    ended (texts ++ others) = ended texts ++ ended others := by
  rw [ended, List.map_append, String.join_append, ended, ended]

theorem ended_cons (text : String) (rest : List String) :
    ended (text :: rest) = text ++ "\n" ++ ended rest := by
  rw [ended, List.map_cons, String.join_cons, ended]

theorem Log.Silent.written (h : log.Silent) (number : Nat) (messages : List Message) :
    log.written number messages = ended (messages.filterMap Message.complaint?) := by
  induction messages generalizing number with
  | nil => rfl
  | cons message rest ih =>
    cases message with
    | event event =>
      rw [Log.written, h, String.empty_append, ih, List.filterMap_cons_none rfl]
    | complaint text =>
      show text ++ "\n" ++ log.written _ rest = ended (text :: rest.filterMap Message.complaint?)
      rw [ih, ended_cons]

theorem Log.Timeless.written (h : log.Timeless) (number : Nat) (messages : List Message) :
    log.written number messages = log.written 0 messages := by
  induction messages generalizing number with
  | nil => rfl
  | cons message rest ih =>
    cases message with
    | event event => rw [Log.written, Log.written, h, ih, ih (0 + 1)]
    | complaint text => rw [Log.written, Log.written, ih, ih (0 + 1)]

theorem Log.written_append (log : Log) (number : Nat) (messages others : List Message) :
    log.written number (messages ++ others) =
      log.written number messages ++ log.written (number + messages.length) others := by
  induction messages generalizing number with
  | nil => exact String.empty_append.symm
  | cons message rest ih =>
    have hnumber : number + 1 + rest.length = number + (rest.length + 1) := by omega
    cases message
    all_goals
      rw [List.cons_append, Log.written, Log.written, ih, List.length_cons, hnumber]
      simp only [String.append_assoc]

theorem Log.Timeless.written_flatMap (h : log.Timeless) (f : α → List Message) (items : List α) :
    log.written 0 (items.flatMap f) = String.join (items.map fun item ↦ log.written 0 (f item)) := by
  induction items with
  | nil => rfl
  | cons item rest ih =>
    rw [List.flatMap_cons, Log.written_append, h.written (0 + _), ih, List.map_cons,
      String.join_cons]

theorem complaint?_ofResult (result : Except Fault String) :
    (Message.ofResult result).filterMap Message.complaint? = complaints [result] := by
  cases result <;> rfl

theorem complaints_flatMap (executions : List Execution) :
    (executions.flatMap Execution.messages).filterMap Message.complaint? =
      complaints (executions.map Execution.result) := by
  induction executions with
  | nil => rfl
  | cons execution rest ih =>
    rw [List.flatMap_cons, List.filterMap_append, ih, Execution.messages,
      List.filterMap_cons_none rfl, complaint?_ofResult, List.map_cons]
    exact (List.filterMap_append (l := [execution.result])).symm

/-- All that a session tells is settled by its output and its messages. -/
theorem Session.tells_of_messages {session : Session} {executions : List Execution}
    (houtput : session.output = ended (texts (executions.map Execution.result)))
    (hmessages : session.messages = executions.flatMap Execution.messages) :
    session.Tells executions where
  output := houtput
  messages := hmessages
  own := by rw [hmessages, complaints_flatMap]
  errors log h := by rw [errorsWith, h.written, hmessages, complaints_flatMap]
  errors_join log h := by rw [errorsWith, hmessages, h.written_flatMap]

/-! ### What a session tells -/

theorem commands_cons (line : String) (rest : List String) :
    commands (line :: rest) =
      match Request.ofLine line with
      | .pass => commands rest
      | .exit => []
      | .command command => command :: commands rest := by
  rw [commands, List.map_cons, Request.ofLine]
  by_cases hblank : (trim line).isEmpty
  · have hword : equalsIgnoringAsciiCase (trim line) "exit" = false := by
      rw [String.isEmpty_iff.1 hblank]
      decide
    rw [if_pos hblank, List.takeWhile_cons_of_pos (by simp [hword]),
      List.filter_cons_of_neg (by simpa using hblank)]
    rfl
  rw [if_neg hblank]
  by_cases hexit : equalsIgnoringAsciiCase (trim line) "exit"
  · rw [if_pos hexit, List.takeWhile_cons_of_neg (by simp [hexit])]
    rfl
  · rw [if_neg hexit, List.takeWhile_cons_of_pos (by simp [hexit]),
      List.filter_cons_of_pos (by simpa using hblank)]
    rfl

theorem executions_of_pass (store : Store) (h : Request.ofLine line = .pass) (rest : List String) :
    executions store (line :: rest) = none :: executions store rest := by
  rw [executions, h]

theorem executions_of_exit (store : Store) (h : Request.ofLine line = .exit) (rest : List String) :
    executions store (line :: rest) = none :: rest.map fun _ ↦ none := by
  rw [executions, h]
  rfl

theorem executions_of_command (store : Store) (h : Request.ofLine line = .command command)
    (rest : List String) : executions store (line :: rest) =
      some ⟨store, command⟩ :: executions (store.step command).1 rest := by
  rw [executions, h]

theorem reduceOption_map_none (rest : List α) :
    (none :: rest.map fun _ ↦ none : List (Option β)).reduceOption = [] :=
  List.filterMap_eq_nil_iff.2 (by simp)

/-- The results of the executions are those of the commands, one after another. -/
theorem result_executions (store : Store) (lines : List String) :
    (executions store lines).reduceOption.map Execution.result =
      results store (commands lines) := by
  induction lines generalizing store with
  | nil => rfl
  | cons line rest ih =>
    rw [commands_cons]
    cases hrequest : Request.ofLine line with
    | pass =>
      rw [executions_of_pass store hrequest, List.reduceOption_cons_of_none]
      exact ih store
    | exit =>
      rw [executions_of_exit store hrequest, reduceOption_map_none]
      rfl
    | command command =>
      rw [executions_of_command store hrequest, List.reduceOption_cons_of_some, List.map_cons, ih]
      rfl

theorem shown_eq (result : Except Fault String) : shown result = ended (texts [result]) := by
  cases result with
  | ok text => exact String.empty_append.symm
  | error fault => rfl

theorem texts_cons (result : Except Fault String) (rest : List (Except Fault String)) :
    texts (result :: rest) = texts [result] ++ texts rest :=
  List.filterMap_append (l := [result])

section

variable {session : Session}

theorem feed_of_pass (h : Request.ofLine line = .pass) (rest : List String) :
    session.feed false (line :: rest) = session.feed false rest := by
  simp [Session.feed, Session.invite, Session.after, Turn.ofLine, h]

theorem feed_of_exit (h : Request.ofLine line = .exit) (rest : List String) :
    session.feed false (line :: rest) = session := by
  simp [Session.feed, Session.invite, Session.after, Turn.ofLine, h]

theorem feed_of_command (h : Request.ofLine line = .command command) (rest : List String) :
    session.feed false (line :: rest) =
      Session.feed false ⟨(session.store.step command).1,
        session.output ++ ended (texts [Execution.result ⟨session.store, command⟩]),
        session.messages ++ Execution.messages ⟨session.store, command⟩⟩ rest := by
  rw [← shown_eq]
  simp [Session.feed, Session.invite, Session.after, Turn.ofLine, h, Execution.result,
    Execution.messages]

/-- **What a session tells**, after what it has told before. -/
theorem feed_eq (session : Session) (lines : List String) :
    (session.feed false lines).output = session.output ++
        ended (texts ((executions session.store lines).reduceOption.map Execution.result)) ∧
      (session.feed false lines).messages = session.messages ++
        (executions session.store lines).reduceOption.flatMap Execution.messages := by
  induction lines generalizing session with
  | nil => exact ⟨String.append_empty.symm, (List.append_nil _).symm⟩
  | cons line rest ih =>
    cases hrequest : Request.ofLine line with
    | pass =>
      rw [feed_of_pass hrequest, executions_of_pass _ hrequest, List.reduceOption_cons_of_none]
      exact ih session
    | exit =>
      rw [feed_of_exit hrequest, executions_of_exit _ hrequest, reduceOption_map_none]
      exact ⟨String.append_empty.symm, (List.append_nil _).symm⟩
    | command command =>
      rw [feed_of_command hrequest, executions_of_command _ hrequest,
        List.reduceOption_cons_of_some, List.map_cons, List.flatMap_cons]
      obtain ⟨houtput, hmessages⟩ := ih ⟨(session.store.step command).1, _, _⟩
      refine ⟨houtput.trans ?_, hmessages.trans (List.append_assoc _ _ _)⟩
      rw [texts_cons _ (List.map _ _), ended_append, ← String.append_assoc]

end

/-! ### Lines that are taken out -/

theorem without_cons (deleted : Nat → Bool) (item : α) (items : List α) :
    without deleted (item :: items) =
      if deleted 0 then without (fun i ↦ deleted (i + 1)) items
      else item :: without (fun i ↦ deleted (i + 1)) items := by
  have hrest : ((items.zipIdx 1).filter fun item ↦ !deleted item.2).map (·.1) =
      without (fun i ↦ deleted (i + 1)) items := by
    rw [List.zipIdx_succ, List.filter_map, List.map_map]
    rfl
  rw [without, List.zipIdx_cons, List.filter_cons]
  cases hdeleted : deleted 0 with
  | true => simpa [hdeleted] using hrest
  | false => simpa [hdeleted] using hrest

theorem without_map (f : α → β) (items : List α) :
    without deleted (items.map f) = (without deleted items).map f := by
  induction items generalizing deleted with
  | nil => rfl
  | cons item rest ih =>
    rw [List.map_cons, without_cons, without_cons, ih]
    split <;> rfl

/-- Items of which nothing comes may be taken out. -/
theorem filterMap_without {f : α → Option β} {items : List α}
    (h : ∀ i item, deleted i = true → items[i]? = some item → f item = none) :
    (without deleted items).filterMap f = items.filterMap f := by
  induction items generalizing deleted with
  | nil => rfl
  | cons item rest ih =>
    have hrest := ih fun i item hi hget ↦ h (i + 1) item hi hget
    rw [without_cons]
    split
    · next hfirst => rw [hrest, List.filterMap_cons_none (h 0 item hfirst rfl)]
    · rw [List.filterMap_cons, List.filterMap_cons, hrest]

/-- **Taking out refused lines** takes out what they execute, and changes nothing else. -/
theorem executions_without (h : store.Sound) {lines : List String}
    (hrefused : ∀ i execution?, deleted i = true → (executions store lines)[i]? = some execution? →
      ∃ execution ∈ execution?, execution.Refused) :
    executions store (without deleted lines) = without deleted (executions store lines) := by
  induction lines generalizing store deleted with
  | nil => rfl
  | cons line rest ih =>
    have hfirst {execution? others} (hcons : executions store (line :: rest) = execution? :: others)
        (hdeleted : deleted 0 = true) : ∃ execution ∈ execution?, execution.Refused :=
      hrefused 0 execution? hdeleted (by rw [hcons]; rfl)
    have hlater {execution? others} (hcons : executions store (line :: rest) = execution? :: others)
        (i : Nat) (later : Option Execution) (hdeleted : deleted (i + 1) = true)
        (hget : others[i]? = some later) : ∃ execution ∈ later, execution.Refused :=
      hrefused (i + 1) later hdeleted (by rw [hcons]; exact hget)
    -- what executes nothing is not taken out
    have hkept {others} (hcons : executions store (line :: rest) = none :: others) :
        ¬ deleted 0 = true := by
      intro hdeleted
      obtain ⟨execution, hmem, -⟩ := hfirst hcons hdeleted
      exact Option.not_mem_none execution hmem
    cases hrequest : Request.ofLine line with
    | pass =>
      have hcons := executions_of_pass store hrequest rest
      rw [hcons, without_cons, without_cons, if_neg (hkept hcons), if_neg (hkept hcons),
        executions_of_pass store hrequest, ih h (hlater hcons)]
    | exit =>
      have hcons := executions_of_exit store hrequest rest
      rw [hcons, without_cons, without_cons, if_neg (hkept hcons), if_neg (hkept hcons),
        executions_of_exit store hrequest, without_map]
    | command command =>
      have hcons := executions_of_command store hrequest rest
      have hrest := ih (Store.sound_step h command) (hlater hcons)
      rw [hcons, without_cons, without_cons]
      by_cases hdeleted : deleted 0 = true
      · -- the store that the rest meets is the same without the line
        obtain ⟨execution, hmem, fault, hfault⟩ := hfirst hcons hdeleted
        obtain rfl := Option.some.inj hmem
        rw [Store.step_of_refused h hfault] at hrest ⊢
        rw [if_pos hdeleted, if_pos hdeleted, hrest]
      · rw [if_neg hdeleted, if_neg hdeleted, executions_of_command store hrequest, hrest]

/-! ### Whole sessions -/

/-- A session tells of the executions of its lines. -/
theorem tells_run (script : String) :
    (run false script).Tells (executions .empty (lines script)).reduceOption := by
  obtain ⟨houtput, hmessages⟩ := feed_eq .start (lines script)
  exact Session.tells_of_messages (houtput.trans String.empty_append) hmessages

/-- No text is lost with the executions of refused lines. -/
theorem texts_without {executions : List (Option Execution)}
    (hrefused : ∀ i execution?, deleted i = true → executions[i]? = some execution? →
      ∃ execution ∈ execution?, execution.Refused) :
    texts ((without deleted executions).reduceOption.map Execution.result) =
      texts (executions.reduceOption.map Execution.result) := by
  show (((without deleted executions).filterMap id).map Execution.result).filterMap Except.toOption =
    ((executions.filterMap id).map Execution.result).filterMap Except.toOption
  rw [List.filterMap_map, List.filterMap_map, List.filterMap_filterMap, List.filterMap_filterMap]
  refine filterMap_without fun i execution? hdeleted hget ↦ ?_
  obtain ⟨execution, hmem, fault, hfault⟩ := hrefused i execution? hdeleted hget
  obtain rfl := Option.mem_def.1 hmem
  show execution.result.toOption = none
  rw [hfault]
  rfl

/-- **A refused command leaves no trace but its messages.** The executions of a text's lines are those
of its commands, one after another, and the session tells of them: it puts out the texts of the commands
that are done, and complains about the others, and if no log is written between, then the errors are the
complaints. If any set of lines whose commands are refused is taken out of the text, all that the session
puts out is the same, and it tells of the executions that were not taken out: so only the complaints
about the lines that were taken out are missing from the errors, and what was logged of them. -/
theorem run_without_refused (script : String) :
    (executions .empty (lines script)).reduceOption.map Execution.result =
      results .empty (commands (lines script)) ∧
    (run false script).Tells (executions .empty (lines script)).reduceOption ∧
    ∀ left deleted, lines left = without deleted (lines script) →
      (∀ i execution?, deleted i = true →
        (executions .empty (lines script))[i]? = some execution? →
        ∃ execution ∈ execution?, execution.Refused) →
      (run false left).output = (run false script).output ∧
      (run false left).Tells (without deleted (executions .empty (lines script))).reduceOption := by
  refine ⟨result_executions .empty _, tells_run script, fun left deleted hleft hrefused ↦ ?_⟩
  have htells := tells_run left
  rw [hleft, executions_without Store.sound_empty hrefused] at htells
  refine ⟨?_, htells⟩
  rw [htells.output, (tells_run script).output, texts_without hrefused]

/-- A session with a line that is refused, and with one that comes too late. -/
def visit : String :=
  "create Log \x7b \"n\": \x7b \"type\": \"int\" \x7d \x7d\r\n\ninsert log {}\ninsert logs {}\n" ++
    " EXIT\nsearch log"

/-- The same session without the line that is refused. -/
def shorterVisit : String :=
  "create Log \x7b \"n\": \x7b \"type\": \"int\" \x7d \x7d\r\n\ninsert log {}\n EXIT\nsearch log"

/-- A log of the warnings, a line each. -/
def warnings : Log := fun _ event ↦
  match event with
  | .executed _ _ => ""
  | .refused _ text => " WARN " ++ text ++ "\n"

theorem run_shorterVisit :
    (run false visit).output = "Type 'Log' created (1 fields).\nInstance inserted into 'Log'.\n" ∧
      (run false shorterVisit).output = (run false visit).output ∧
      Log.off.Silent ∧
      (run false visit).errorsWith .off = "Error: Data type not found: logs\n" ∧
      (run false shorterVisit).errorsWith .off = "" ∧
      warnings.Timeless ∧
      (run false visit).errorsWith warnings =
        " WARN command rejected: Data type not found: logs\nError: Data type not found: logs\n" ∧
      (run false shorterVisit).errorsWith warnings = "" := by
  have hsilent : Log.off.Silent := fun _ _ ↦ rfl
  have htimeless : warnings.Timeless := fun _ _ ↦ rfl
  have hlines : lines shorterVisit = without (· == 3) (lines visit) := by decide +kernel
  have houtcomes : (executions .empty (lines visit)).map (·.map Execution.result) =
      [some (.ok "Type 'Log' created (1 fields)."), none,
        some (.ok "Instance inserted into 'Log'."), some (.error (.typeNotFound "logs")), none,
        none] := by decide +kernel
  obtain ⟨-, htells, hleft⟩ := run_without_refused visit
  obtain ⟨hsame, hless⟩ := hleft shorterVisit (· == 3) hlines fun i execution? hdeleted hget ↦ by
    have houtcome : execution?.map Execution.result = some (.error (.typeNotFound "logs")) := by
      rw [beq_iff_eq.1 hdeleted] at hget
      have hthird := congrArg (·[3]?) houtcomes
      rw [List.getElem?_map, hget] at hthird
      exact Option.some.inj hthird
    obtain ⟨execution, hmem, hresult⟩ := Option.map_eq_some_iff.1 houtcome
    exact ⟨execution, hmem, _, hresult⟩
  refine ⟨htells.output.trans ?_, hsame, hsilent, (htells.errors _ hsilent).trans ?_,
    (hless.errors _ hsilent).trans ?_, htimeless, (htells.errors_join _ htimeless).trans ?_,
    (hless.errors_join _ htimeless).trans ?_⟩
  all_goals decide +kernel

end RecordStore.Console
