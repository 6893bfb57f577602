import GrantKeeper.Command.Run
import Std.Time.DateTime.Timestamp

/-! The program on a real machine. It has no way to reach servers, so every request fails; what
is in the keyring can be shown and removed. -/
namespace GrantKeeper

def failureNumber : IO.Error → UInt32
  | .alreadyExists _ number _ | .otherError number _ | .resourceBusy number _
  | .resourceVanished number _ | .unsupportedOperation number _ | .hardwareFault number _
  | .unsatisfiedConstraints number _ | .illegalOperation number _ | .protocolError number _
  | .timeExpired number _ | .interrupted _ number _ | .noFileOrDirectory _ number _
  | .invalidArgument _ number _ | .permissionDenied _ number _ | .resourceExhausted _ number _
  | .inappropriateType _ number _ | .noSuchThing _ number _ => number
  | .unexpectedEof | .userError _ => 0

/-- The failure of a file operation. Some layers give its number with the sign turned. -/
def FileError.ofMachine (error : IO.Error) : FileError :=
  let number := failureNumber error
  match if number < 0x80000000 then number else 0 - number with
  | 2 => .missing
  | 16 => .busy
  | 17 => .exists
  | 20 => .notDirectory
  | 21 => .isDirectory
  | 28 => .noSpace
  | 36 => .nameTooLong
  | _ => .other (toString error)

def attemptFile (effect : IO α) : IO (Except FileError α) := do
  match ← effect.toBaseIO with
  | .ok value => return .ok value
  | .error error => return .error (.ofMachine error)

def machineFiles : Files IO where
  read path := attemptFile do return (← IO.FS.readBinFile path).toList
  createDirectories path := attemptFile (IO.FS.createDirAll path)
  write path content := attemptFile (IO.FS.writeBinFile path content.toByteArray)
  restrict path := attemptFile (IO.setAccessRights path ⟨⟨true, true, false⟩, {}, {}⟩)
  rename old new := attemptFile (IO.FS.rename old new)

def machineClock : IO Instant := do
  let time := (← Std.Time.Timestamp.now).toNanosecondsSinceUnixEpoch.toInt
  return (Instant.ofParts? (time / 1000000000) (time % 1000000000).toNat).getD Instant.epoch

def machineTimer : Timer IO where
  now := IO.monoNanosNow
  sleep length := IO.sleep (UInt32.ofNat (length / 1000000))

def machineEnvironment : IO Environment := do
  let known ← Environment.names.mapM fun name => return (name, ← IO.getEnv name)
  return fun name => (known.lookup name).join

def machineStation : IO (Workstation IO) := do
  return {
    network := .unreachable
    files := machineFiles
    clock := machineClock
    timer := machineTimer
    patience := 1000000000
    environment := ← machineEnvironment
    process := ← IO.monoNanosNow
    print := fun text => do (← IO.getStdout).putStr text
    tell := fun text => attemptFile do (← IO.getStderr).putStr text }

end GrantKeeper

def main (arguments : List String) : IO UInt32 := do
  return UInt32.ofNat (← (← GrantKeeper.machineStation).run arguments)
