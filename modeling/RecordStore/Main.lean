import RecordStore.Console

/-!
# The console

Reads commands from standard input, or from the file that the arguments name, and takes the turn of
each line. With `--no-prompt`, or from a file, no prompt is shown.
-/

namespace RecordStore.Console

/-- What the arguments ask for. -/
structure Options where
  /-- The file to read commands from. -/
  script : Option String
  /-- Is a prompt to be shown? -/
  prompt : Bool

/-- The options that arguments give. A level of log messages is accepted, but no log is kept here. What
one would tell is left out: the events of the session, which are that commands are executed and refused,
and the file that they are read from. The form of its lines and the clock are not the session's own. -/
def Options.withArgs (options : Options) : List String → Options
  | "--no-prompt" :: rest => { options with prompt := false }.withArgs rest
  | "-l" :: _ :: rest | "--log-level" :: _ :: rest => options.withArgs rest
  | path :: rest => { options with script := some path, prompt := false }.withArgs rest
  | [] => options

/-- Takes the turns of the lines of a stream until it ends or one of them ends the session. So many
messages went to the errors before. -/
partial def converse (input output errors : IO.FS.Stream) (prompt : Bool) (number : Nat)
    (store : Store) : IO Unit := do
  if prompt then
    output.putStr promptText
    output.flush
  let line ← input.getLine
  if line.isEmpty then
    return
  let turn := Turn.ofLine store line
  output.putStr turn.output
  errors.putStr (Log.off.written number turn.messages)
  if turn.goesOn then
    converse input output errors prompt (number + turn.messages.length) turn.store

end RecordStore.Console

/-- Runs a session on standard input or on a file. -/
def main (args : List String) : IO Unit := do
  let options := RecordStore.Console.Options.withArgs ⟨none, true⟩ args
  let output ← IO.getStdout
  let errors ← IO.getStderr
  let input ← match options.script with
    | none => IO.getStdin
    | some path => do
      let handle ← IO.FS.Handle.mk path .read
      pure (IO.FS.Stream.ofHandle handle)
  RecordStore.Console.converse input output errors options.prompt 0 .empty
