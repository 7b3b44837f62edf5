import LogicalNet.CommandLine

/-!
# The program

Reads the files of the invocation, runs it and prints its output.  The program has
no way to a database of its own, so commands on a database report that it is
unreachable.
-/

namespace LogicalNet
namespace CommandLine

/-- No way to a database. -/
structure NoLink where

instance : Link NoLink where
  run _ l := (.failed (.failed "no database"), l)
  probe _ l := (.error "no database", l)
  pause l := l

/-- The files at the given paths, apart from those that cannot be read. -/
def readFiles : List String → IO (List (String × String))
  | [] => return []
  | path :: rest => do
      let later ← readFiles rest
      match ← (IO.FS.readFile path).toBaseIO with
      | .ok text => return (path, text) :: later
      | .error _ => return later

def usage : String :=
  "usage: [-v LEVEL] [--config FILE] translate FILE | presets | apply FILE | delete ID | -V"

def program (words : List String) : IO UInt32 := do
  match read? words with
  | none =>
      IO.eprintln usage
      return 2
  | some i =>
      let found ← readFiles i.files
      let files : Files := fun path => (found.find? fun f => f.1 == path).map Prod.snd
      let seed ← IO.rand 0 (2 ^ 31)
      let ids : Random := ⟨mkStdGen seed⟩
      match output files NoLink.mk ids i with
      | .ok text =>
          IO.print text
          return 0
      | .error e =>
          IO.eprintln e.message
          return 1

end CommandLine
end LogicalNet

def main (words : List String) : IO UInt32 :=
  LogicalNet.CommandLine.program words
