import DurableCalc.Error

/-!
# Terminals

A terminal takes lines from bytes and gives lines as bytes. A line ends with its newline byte or
with the input; the newline and the carriage returns before it are not part of it. A sink may have
room for so many bytes only, and keeps the part of a line that it had room for.
-/

namespace DurableCalc

/-- The bytes up to the first newline, that byte included, and the bytes after it. -/
def splitLine : Bytes → Bytes × Bytes
  | [] => ([], [])
  | b :: rest =>
    if b = 0x0a then ([b], rest)
    else
      match splitLine rest with
      | (line, rest) => (b :: line, rest)

/-- A text without the carriage returns and newlines at its end. -/
def chomp (text : String) : String :=
  String.ofList (text.toList.reverse.dropWhile fun c => c = '\n' || c = '\r').reverse

theorem splitLine_append (bytes : Bytes) : (splitLine bytes).1 ++ (splitLine bytes).2 = bytes := by
  induction bytes with
  | nil => rfl
  | cons b rest ih =>
    by_cases h : b = 0x0a
    · simp [splitLine, h]
    · simpa [splitLine, h] using ih

theorem splitLine_rest_lt {bytes : Bytes} (h : bytes ≠ []) :
    (splitLine bytes).2.length < bytes.length := by
  have happend := congrArg List.length (splitLine_append bytes)
  have hline : 0 < (splitLine bytes).1.length := by
    cases bytes with
    | nil => exact absurd rfl h
    | cons b rest => by_cases hb : b = 0x0a <;> simp [splitLine, hb]
  simp only [List.length_append] at happend
  omega

structure Source where
  unread : Bytes := []
  broken : Bool := false
  deriving DecidableEq, Repr

namespace Source

/-- The next line. A line that is not UTF-8 is used up all the same. A reader that breaks down loses
the line it was reading. -/
def readLine (s : Source) : Except Error String × Source :=
  match splitLine s.unread with
  | (line, rest) =>
    let after := { s with unread := rest }
    if s.broken && line.getLast? ≠ some 0x0a then (.error (.channel (.read "source broken")), after)
    else if line.isEmpty then (.error .endOfInput, after)
    else
      match Text.decode? line with
      | none => (.error (.channel (.read "stream did not contain valid UTF-8")), after)
      | some text => (.ok (chomp text), after)

theorem unread_readLine_lt {s after : Source} {line : String} (h : s.readLine = (.ok line, after)) :
    after.unread.length < s.unread.length := by
  by_cases hs : s.unread = []
  · simp [readLine, hs, splitLine] at h
    split at h <;> simp at h
  · have hlt := splitLine_rest_lt hs
    unfold readLine at h
    split at h
    rename_i line rest hsplit
    simp only [hsplit] at hlt
    dsimp only at h
    repeat' split at h
    all_goals cases h
    exact hlt

end Source

/-- Pieces that were written, the newest first, and the room that is left for more, if it is
limited. -/
structure Sink where
  newest : List Bytes := []
  room : Option Nat := none
  flushRefused : Bool := false
  deriving DecidableEq, Repr

namespace Sink

def written (s : Sink) : Bytes :=
  s.newest.reverse.flatten

def keep (bytes : Bytes) (room : Option Nat) (s : Sink) : Sink :=
  { s with newest := bytes :: s.newest, room }

@[simp] theorem written_keep (bytes : Bytes) (room : Option Nat) (s : Sink) :
    (s.keep bytes room).written = s.written ++ bytes := by
  simp [keep, written]

def write (bytes : Bytes) (s : Sink) : Except String Unit × Sink :=
  match s.room with
  | none => (.ok (), s.keep bytes none)
  | some room =>
    if bytes.length ≤ room then (.ok (), s.keep bytes (some (room - bytes.length)))
    else (.error "sink full", s.keep (bytes.take room) (some 0))

def flush (s : Sink) : Except String Unit :=
  if s.flushRefused then .error "flush refused" else .ok ()

def writeLine (line : String) (s : Sink) : Except String Unit × Sink :=
  match s.write (Text.encode line ++ [0x0a]) with
  | (.error reason, s) => (.error reason, s)
  | (.ok (), s) => (s.flush, s)

end Sink

structure Terminal where
  source : Source := {}
  sink : Sink := {}
  deriving DecidableEq, Repr

namespace Terminal

def readLine (t : Terminal) : Except Error String × Terminal :=
  match t.source.readLine with
  | (result, source) => (result, { t with source })

def writeLine (line : String) (t : Terminal) : Except Error Unit × Terminal :=
  match t.sink.writeLine line with
  | (result, sink) => (result.mapError fun reason => .channel (.write reason), { t with sink })

end Terminal

end DurableCalc
