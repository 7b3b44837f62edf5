import LogicalNet.Command.Session
import LogicalNet.Text.Utf8

/-!
# Processes

What the end of a process means as the reply of the tool.  A process that failed
has its errors for a message; one that succeeded has its output, which has to be
text.
-/

namespace LogicalNet

/-- How a process ends. -/
inductive Exit where
  /-- The process did not start, for the reason that the system gives. -/
  | notStarted (reason : String)
  | ended (success : Bool) (output errors : List UInt8)

/-- The output of a process that succeeded. -/
def Exit.text (program : String) : Exit → Except CommandFault String
  | notStarted reason => .error (.notStarted program reason)
  | ended false _ errors => .error (.failed (Text.trim (Text.decodeUtf8Lossy errors)))
  | ended true output _ =>
      match Text.decodeUtf8 output with
      | .ok text => .ok text
      | .error e => .error (.notText program e.message)

def Exit.reply (program : String) (e : Exit) : Reply :=
  match e.text program with
  | .ok text => .output text
  | .error cause => .failed cause

end LogicalNet
