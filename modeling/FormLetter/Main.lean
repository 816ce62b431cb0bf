import FormLetter.Command.Program
import Std.Time

/-!
# The command line

The program with the files of the machine and its clock.
-/

namespace FormLetter

/-- What is wrong with a file that the machine refuses. -/
def FileFault.Kind.ofMachine : IO.Error → FileFault.Kind
  | .noFileOrDirectory .. | .noSuchThing .. => notFound
  | .alreadyExists .. => occupied
  | .inappropriateType .. => notDirectory
  | _ => other

/-- The result of an action on a file. -/
def onFile {α : Type} (path : Path) (action : String → IO α) : IO (Except FileFault α) := do
  try return .ok (← action (String.ofList path.text))
  catch error => return .error ⟨.ofMachine error, path⟩

/-- The files of the machine. -/
def machineStorage : Storage IO where
  contains path := do
    match ← onFile path fun name => IO.FS.Handle.mk name .read with
    | .ok _ => return true
    | .error fault => return fault.kind = .other
  read path := onFile path fun name => return (← IO.FS.readFile name).toList
  write path text := do
    match ← onFile path.parent fun name => IO.FS.createDirAll name with
    | .error fault => return .error fault
    | .ok () => onFile path fun name => IO.FS.writeFile name (String.ofList text)

/-- The time by the clock of the machine. -/
def machineMoment? : IO (Option Moment) := do
  let now ← Std.Time.PlainDateTime.now
  return Moment.of? now.year.toInt.toNat now.month.toNat now.day.toNat now.hour.val.toNat
    now.minute.val.toNat now.second.val.toNat

end FormLetter

open FormLetter in
/-- Runs the program. -/
def main (arguments : List String) : IO UInt32 := do
  match ← machineMoment? with
  | none => return ExitCode.unexpected.code.toUInt32
  | some now =>
    let outcome ← run machineStorage now (arguments.map String.toList)
    IO.print outcome.out
    IO.eprint outcome.err
    return outcome.exit.code.toUInt32
