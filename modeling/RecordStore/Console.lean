import RecordStore.Store.Execution

/-!
# Console sessions

A session takes commands line by line. Blank lines are passed over, the word `exit` ends the
session, and every other line is a command for the store. The text of a command that was done goes
to the output, the fault of one that was refused to the errors. If a prompt is wanted it is shown
before every line that the session waits for, also before the one that does not come.

A log may be kept of a session, and it goes to the errors too. What it says of an event hangs on the
level that is asked for and on the time, and is not for the session to decide. So a session gathers
messages, which are events and complaints, and a `Log` settles how they read.
-/

namespace RecordStore.Console

open RecordStore.Text

/-! ### Requests -/

/-- What a line asks of a session. -/
inductive Request where
  /-- Nothing. -/
  | pass
  /-- The end of the session. -/
  | exit
  /-- That a command be executed. -/
  | command (line : String)
  deriving DecidableEq, Repr

/-- What a line asks of a session. -/
def Request.ofLine (line : String) : Request :=
  let line := trim line
  if line.isEmpty then pass
  else if equalsIgnoringAsciiCase line "exit" then exit
  else command line

/-- The text that invites a line. -/
def promptText : String := "> "

/-! ### Messages -/

/-- What happens in a session and may be logged. -/
inductive Event where
  /-- A command is executed on a store. This stands for all that the store tells on the way, which
  the two of them determine: the statement that was read or the payload that could not be, the type
  that was created, the records that were inserted, updated or deleted, and how many. None of it is
  a warning. -/
  | executed (store : Store) (command : String)
  /-- A command was refused. This is a warning. -/
  | refused (category : Fault.Category) (text : String)
  deriving DecidableEq

/-- What goes to the errors. -/
inductive Message where
  /-- An event, of which a log may be kept. -/
  | event (event : Event)
  /-- What the session itself says of a command that was refused. -/
  | complaint (text : String)
  deriving DecidableEq

/-- The messages about the result of a command: a fault is logged before it is complained about. -/
def Message.ofResult : Except Fault String → List Message
  | .ok _ => []
  | .error fault =>
    [.event (.refused fault.category ("command rejected: " ++ fault.message)),
      .complaint ("Error: " ++ fault.message)]

/-- A log: what is written of an event that so many messages came before. Their number stands for the
time. Of an event below the level that is asked for, nothing is written. -/
abbrev Log : Type := Nat → Event → String

/-- The log of whoever keeps none. -/
def Log.off : Log := fun _ _ ↦ ""

/-- What is written of messages that so many others came before. A complaint is a line. -/
def Log.written (log : Log) (number : Nat) : List Message → String
  | [] => ""
  | .event event :: rest => log number event ++ log.written (number + 1) rest
  | .complaint text :: rest => text ++ "\n" ++ log.written (number + 1) rest

/-! ### Turns -/

/-- What a session does with a line. -/
structure Turn where
  /-- Does the session go on? -/
  goesOn : Bool
  /-- The store after it. -/
  store : Store
  /-- What is put out. -/
  output : String
  /-- What goes to the errors. -/
  messages : List Message

/-- What the result of a command adds to the output. -/
def shown : Except Fault String → String
  | .ok text => text ++ "\n"
  | .error _ => ""

/-- The turn of a line. -/
def Turn.ofLine (store : Store) (line : String) : Turn :=
  match Request.ofLine line with
  | .pass => ⟨true, store, "", []⟩
  | .exit => ⟨false, store, "", []⟩
  | .command command =>
    let (after, result) := store.step command
    ⟨true, after, shown result, .event (.executed store command) :: Message.ofResult result⟩

/-! ### Sessions -/

/-- The lines of a text, the last of which need not be ended. The characters of the present line
are in `current`, the latest first. -/
def splitLines (current : List Char) : List Char → List String
  | [] => if current.isEmpty then [] else [String.ofList current.reverse]
  | c :: cs =>
    if c = '\n' then String.ofList current.reverse :: splitLines [] cs
    else splitLines (c :: current) cs

/-- A session so far. -/
structure Session where
  /-- The store after the commands so far. -/
  store : Store
  /-- All that was put out. -/
  output : String
  /-- All that went to the errors. -/
  messages : List Message

namespace Session

/-- A session at its beginning. -/
def start : Session := ⟨.empty, "", []⟩

/-- The errors as they read with a log. -/
def errorsWith (log : Log) (session : Session) : String := log.written 0 session.messages

/-- The errors as they read without a log. -/
def errors (session : Session) : String := session.errorsWith .off

/-- The session that has shown a prompt, if one is wanted. -/
def invite (prompt : Bool) (session : Session) : Session :=
  if prompt then { session with output := session.output ++ promptText } else session

/-- The session after a turn. -/
def after (session : Session) (turn : Turn) : Session :=
  ⟨turn.store, session.output ++ turn.output, session.messages ++ turn.messages⟩

/-- The session after further lines. -/
def feed (prompt : Bool) (session : Session) : List String → Session
  | [] => session.invite prompt
  | line :: rest =>
    let session := session.invite prompt
    let turn := Turn.ofLine session.store line
    if turn.goesOn then (session.after turn).feed prompt rest else session.after turn

end Session

/-- The session that a text of lines makes. -/
def run (prompt : Bool) (text : String) : Session :=
  Session.start.feed prompt (splitLines [] text.toList)

end RecordStore.Console
