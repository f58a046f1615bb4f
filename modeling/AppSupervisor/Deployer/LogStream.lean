import AppSupervisor.Machine
import AppSupervisor.Text.Utf8

/-!
The output of a deployment, line by line.

The files of the instances are read one after another, each in chunks and only as far as lines are
asked for. A carriage return ends a line like a line feed does. Bytes that are no text become
replacement characters.
-/

namespace AppSupervisor

open AppSupervisor.Files AppSupervisor.Text

/-- A file that is being read: its number, the number of bytes read so far, bytes that wait for
those behind them, and text that belongs to the lines to come. -/
structure OpenLog where
  file : Nat
  offset : Nat := 0
  bytes : List UInt8 := []
  text : List Char := []

def chunkSize : Nat := 8192

def isUnfinished : List UInt8 → Bool
  | [] => false
  | b :: rest => match utf8Next b rest with
    | .error (length, .unexpectedEnd) => length == rest.length + 1
    | _ => false

/-- How many bytes at the end wait for those behind them: the beginning of a character, and a
carriage return in front of it. -/
def unfinishedLength (bytes : List UInt8) : Nat :=
  let reversed := bytes.reverse
  let opened := ([3, 2, 1].find? fun n => isUnfinished (reversed.take n).reverse).getD 0
  if reversed[opened]? == some 0x0d then opened + 1 else opened

def textOf (bytes : List UInt8) : List Char :=
  unifyNewlines (decodeUtf8Lossy bytes)

/-- The next line of a file whose unread bytes are `rest`, if there is one, and the file behind it.
The number bounds the chunks. -/
def OpenLog.next (log : OpenLog) (rest : List UInt8) : Nat → Option String × OpenLog
  | 0 => (none, log)
  | chunks + 1 =>
    if log.text.contains '\n' then
      (some (String.ofList (log.text.takeWhile (· != '\n'))),
        { log with text := (log.text.dropWhile (· != '\n')).drop 1 })
    else
      let chunk := rest.take chunkSize
      if chunk.isEmpty then
        let text := log.text ++ textOf log.bytes
        let line := text.takeWhile (· != '\n')
        (if text.isEmpty then none else some (String.ofList line),
          { log with bytes := [], text := (text.dropWhile (· != '\n')).drop 1 })
      else
        let bytes := log.bytes ++ chunk
        let ready := bytes.length - unfinishedLength bytes
        OpenLog.next { log with
          offset := log.offset + chunk.length
          bytes := bytes.drop ready
          text := log.text ++ textOf (bytes.take ready) } (rest.drop chunkSize) chunks

structure LogStream where
  current : Option OpenLog := none
  waiting : List Path := []

def LogStream.ofInstances (instances : List Instance) : LogStream where
  waiting := instances.map (·.stdout)

namespace Act

variable {σ : Type} [Machine σ]

def nextLineOf (log : OpenLog) : Act σ (Option String × OpenLog) := do
  let rest ← askMachine (Machine.readFrom log.file log.offset)
  return log.next rest (rest.length / chunkSize + 3)

/-- The next line of the files that wait, and the stream behind it. Files that are gone are passed
over. -/
def nextWaiting : List Path → Act σ (Option String × LogStream)
  | [] => return (none, {})
  | path :: rest => do
    match ← attempt (tryMachine (Machine.openFile path)) with
    | .error (.os (.file .noEntry _)) =>
      log .debug s!"Log file {path} no longer exists"
      nextWaiting rest
    | .error fault => throw fault
    | .ok file =>
      match ← nextLineOf { file } with
      | (some line, log) => return (some line, { current := some log, waiting := rest })
      | (none, _) => nextWaiting rest

def nextLine (stream : LogStream) : Act σ (Option String × LogStream) := do
  match stream.current with
  | none => nextWaiting stream.waiting
  | some log => match ← nextLineOf log with
    | (some line, log) => return (some line, { stream with current := some log })
    | (none, _) => nextWaiting stream.waiting

def takeLines : Nat → LogStream → Act σ (List String × LogStream)
  | 0, stream => return ([], stream)
  | count + 1, stream => do
    match ← nextLine stream with
    | (none, stream) => return ([], stream)
    | (some line, stream) =>
      let (lines, stream) ← takeLines count stream
      return (line :: lines, stream)

end Act

end AppSupervisor
