import DurableCalc.Log.RunId
import DurableCalc.Program

/-!
# The executable

Carries the calls of the program out on the real terminal and the real files. What is called, and
when, is said where the program is defined.
-/

namespace DurableCalc.Executable

inductive Backing
  | memory (blob : IO.Ref Bytes)
  | file (path : String)

structure Tools where
  backing : Backing
  config : Config
  format : LogFormat
  runId : String

def jsonLine (e : Log.Entry) : Bytes :=
  Json.Style.compact.object 0
    [("level", Json.writeText e.level.name),
      ("fields", Json.Style.compact.object 0
        (("message", Json.writeText e.message) ::
          e.fields.map fun (key, field) =>
            (key, match field with
              | .text s => Json.writeText s
              | .number n => Json.writeInt n))),
      ("target", Json.writeText e.part.path)]

def textLine (e : Log.Entry) : String :=
  let fields := e.fields.map fun (key, field) =>
    " " ++ key ++ "=" ++ match field with
      | .text s => Text.quote s
      | .number n => Text.decimal n
  e.level.name ++ " " ++ e.message ++ String.join fields

def Tools.note (t : Tools) (entry : Log.Entry) : IO Unit := do
  for entry in Log.select t.config.logFilter t.runId [entry] do
    match t.format with
    | .text => IO.eprintln (textLine entry)
    | .json => IO.eprintln ((Text.decode? (jsonLine entry)).getD "")

/-- Runs an action and gives the text of its failure, if it fails. -/
def attempt (action : IO α) : IO (Except String α) := do
  try
    return .ok (← action)
  catch failure =>
    return .error (toString failure)

structure Temporary where
  path : String
  handle : IO.FS.Handle

def files : FileCalls IO Temporary Unit where
  makeDirectories directory _ := return (← attempt (IO.FS.createDirAll directory), ())
  createTemporary directory _ := do
    let path := directory ++ "/.tmp" ++ Text.decimal (← IO.monoNanosNow)
    let handle ← attempt (IO.FS.Handle.mk path .writeNew)
    return (handle.map (Temporary.mk path), ())
  writeTemporary blob temporary _ :=
    return (← attempt (temporary.handle.write ⟨blob.toArray⟩), ())
  syncTemporary temporary _ := return (← attempt temporary.handle.flush, ())
  renameTemporary path temporary _ := return (← attempt (IO.FS.rename temporary.path path), ())
  removeTemporary temporary _ := do
    let _ ← attempt (IO.FS.removeFile temporary.path)

def Backing.load : Backing → IO (Except StorageError Bytes)
  | .memory blob => return .ok (← blob.get)
  | .file path => do
    try
      return .ok (← IO.FS.readBinFile path).toList
    catch
      | .noFileOrDirectory .. => return .ok []
      | failure => return .error (.read path (toString failure))

def Tools.store (t : Tools) (command : Option String) (blob : Bytes) :
    IO (Except StorageError Unit) := do
  match t.backing with
  | .memory ref => ref.set blob; return .ok ()
  | .file path =>
    match ← FileSlot.replaceM files path blob () with
    | (.error error, ()) => return .error error
    | (.ok (), ()) => t.note (FileSlot.replacedEntry path command blob); return .ok ()

/-- The bytes of the next line, read one by one so that none of the line after it is taken. -/
partial def lineBytes (input : IO.FS.Stream) (front : ByteArray) : IO ByteArray := do
  let next ← input.read 1
  let line := front ++ next
  if next.isEmpty || next.toList = [0x0a] then return line
  else lineBytes input line

instance : Calls IO Tools where
  readLine t := do
    match ← attempt (lineBytes (← IO.getStdin) .empty) with
    | .error reason => return (.error (.channel (.read reason)), t)
    | .ok line => return (({ unread := line.toList } : Source).readLine.1, t)
  writeLine line t := do
    let output ← IO.getStdout
    let written ← attempt (do output.putStrLn line; output.flush)
    return (written.mapError fun reason => .channel (.write reason), t)
  load t := return ((← t.backing.load).mapError .storage, t)
  store command blob t := return ((← t.store command blob).mapError .storage, t)
  note entry t := do t.note entry; return t

partial def drive (M : Machine σ) (k : σ) (c : Checkpointer) (t : Tools) :
    IO (Except Error Unit × Checkpointer × Tools) := do
  match ← Machine.carryOutM (M.next c.snapshot k) c t with
  | .over result c t => return (result, c, t)
  | .going c k t => drive M k c t

def print (bytes : Bytes) (output : IO.FS.Stream) : IO (Except String Unit × IO.FS.Stream) :=
  return (← attempt (output.write ⟨bytes.toArray⟩), output)

def perform (t : Tools) : Action → IO (Except Error Unit)
  | .run => do
    t.note Program.startingEntry
    let machine := Session.machine (.standard t.config.maxCount)
    return (← Session.runToEndM (drive machine none) t).1
  | .status => return (← Status.tellM print t (← IO.getStdout)).1
  | .reset => return (← Program.discardM t.config t).1

def fail (error : Error) : IO UInt32 := do
  IO.eprintln ("Error: " ++ error.report.term)
  return 1

def configure (c : CommandLine) : IO (Except ConfigError Config) := do
  let contents ← match c.config with
    | none => pure none
    | some path =>
      match ← attempt (IO.FS.readBinFile path) with
      | .ok bytes => pure (some bytes.toList)
      | .error _ => pure none
  let setting ← IO.getEnv "STATEFUL_CALC_STATE_PATH"
  return c.resolve (fun _ => contents) setting

def start (args : List String) : IO UInt32 := do
  match CommandLine.read args with
  | .error refusal =>
    match refusal.text? with
    | some text => IO.print text
    | none => IO.eprintln ("error: " ++ refusal.name)
    return refusal.exitCode.toUInt32
  | .ok c =>
    match ← configure c with
    | .error error => fail (.config error)
    | .ok config =>
      let memory ← IO.mkRef []
      let backing := match config.storage with
        | .memory => Backing.memory memory
        | .file => .file config.statePath
      let runId := Log.RunId.ofBytes (← IO.getRandomBytes 16).toList
      let t : Tools := { backing, config, format := c.format, runId }
      t.note (Program.resolvedEntry config)
      match Slot.forAction c.action config .emptyDirectory with
      | .error error => fail (.config error)
      | .ok _ =>
        match ← perform t c.action with
        | .ok () => return 0
        | .error error => fail error

end DurableCalc.Executable

def main (args : List String) : IO UInt32 :=
  DurableCalc.Executable.start args
