import Finder.CommandLine.Run

namespace Finder.Main

open IO

-- What the system says of an error, in the words of the library.
def reason (error : IO.Error) : String :=
  match error with
  | .noFileOrDirectory _ _ _ => FileError.missing.message
  | .alreadyExists _ _ _ => FileError.alreadyThere.message
  | .inappropriateType _ code _ =>
      if code = 21 then FileError.isDirectory.message else FileError.notDirectory.message
  | .invalidArgument _ code _ =>
      if code = 36 then FileError.nameTooLong.message else toString error
  | other => toString other

structure LogFile where
  level : Level
  handle : FS.Handle
  began : Nat

abbrev LogRef : Type :=
  Ref (Option LogFile)

def elapsed (log : LogFile) : BaseIO Nat := do
  return ((← monoNanosNow) - log.began) / 1000

def write (log : LogFile) (event : Event) : IO Unit := do
  if log.level.admits event.level then
    log.handle.putStrLn (event.level.label ++ " " ++ event.text (toString (← elapsed log)))
    log.handle.flush

def startLog (ref : LogRef) (config : LogConfig) : IO (Option LogError) := do
  match config.checked with
  | .error error => return some error
  | .ok level =>
      try
        FS.createDirAll config.directory.text
        let handle ← FS.Handle.mk (config.directory.child LogSession.fileName).text .append
        let log : LogFile := ⟨level, handle, ← monoNanosNow⟩
        ref.set (some log)
        write log (.loggingStarted level config.directory.text)
        return none
      catch error => return some (.notCreated config.directory (reason error))

def record (ref : LogRef) (event : Event) : IO Unit := do
  match ← ref.get with
  | none => return
  | some log => write log event

def read (path : FilePath) : IO (Except String ByteArray) := do
  try
    return .ok (← FS.readBinFile path.text)
  catch error => return .error (reason error)

def surroundings (ref : LogRef) : CommandLine.Surroundings IO :=
  ⟨startLog ref, record ref, read⟩

end Finder.Main

def main (arguments : List String) : IO UInt32 := do
  let ref ← IO.mkRef none
  let ending ← Finder.CommandLine.run (Finder.Main.surroundings ref) arguments
  (← IO.getStdout).putStr ending.stdout
  (← IO.getStderr).putStr ending.stderr
  return UInt32.ofNat ending.code
