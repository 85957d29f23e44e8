import PackageSearch.Host.Fault
import PackageSearch.Text.Utf8

/-!
Receiving the head of a request: bytes are read until they hold an empty line, or until the patience
of the reader is over.
-/

namespace PackageSearch.Http

inductive Read where
  | bytes (chunk : List UInt8)
  | failed (fault : Host.Fault)
  deriving DecidableEq, Repr

def readBytes : Nat := 1024

/-- A head is given up once more bytes than this are there without its end. -/
def maxHeadBytes : Nat := 8 * 1024

/-- The bytes before the first empty line. -/
def beforeEmptyLine? : List UInt8 → Option (List UInt8)
  | [] => none
  | 13 :: 10 :: 13 :: 10 :: _ => some []
  | byte :: rest =>
      match beforeEmptyLine? rest with
      | none => none
      | some head => some (byte :: head)

/-- Reads a head from a connection that gives the listed reads and then ends, with the bytes
received before. A read without bytes is the end of the connection. -/
def receiveHead (received : List UInt8) (reads : List Read) :
    Except Host.Fault (Option (List UInt8)) :=
  match beforeEmptyLine? received with
  | some head => .ok (some head)
  | none =>
      if maxHeadBytes < received.length then .ok none
      else
        match reads with
        | [] => .ok none
        | .failed fault :: _ => .error fault
        | .bytes chunk :: rest =>
            if chunk.isEmpty then .ok none else receiveHead (received ++ chunk) rest

/-- What comes in on a connection, with the milliseconds since what came before. -/
structure Arrival where
  delay : Nat
  read : Read
  deriving DecidableEq, Repr

/-- The reads that take in bytes that arrive: each of them as many as it can, the first one when
they arrive and the others at once. -/
def readsOf (delay : Nat) (chunk : List UInt8) : List Arrival :=
  if chunk.length ≤ readBytes then [⟨delay, .bytes chunk⟩]
  else ⟨delay, .bytes (chunk.take readBytes)⟩ :: readsOf 0 (chunk.drop readBytes)
termination_by chunk.length
decreasing_by simp only [readBytes, List.length_drop] at *; omega

def Arrival.reads (arrival : Arrival) : List Arrival :=
  match arrival.read with
  | .failed _ => [arrival]
  | .bytes chunk => readsOf arrival.delay chunk

inductive Awaited where
  /-- The reading of the head has ended at the given time. -/
  | received (time : Nat) (head : Option (List UInt8))
  | failed (time : Nat) (fault : Host.Fault)
  /-- The patience has been over first. -/
  | late
  deriving DecidableEq, Repr

/-- Reads a head from a connection as `receiveHead` does, but waits for each read, and gives up when
the patience is over. After the listed reads nothing more comes, and not the end of the connection
either. What is there just when the patience is over is still read. -/
def awaitHead (patience elapsed : Nat) (received : List UInt8) (reads : List Arrival) : Awaited :=
  match beforeEmptyLine? received with
  | some head => .received elapsed (some head)
  | none =>
      if maxHeadBytes < received.length then .received elapsed none
      else
        match reads with
        | [] => .late
        | ⟨delay, read⟩ :: rest =>
            if patience < elapsed + delay then .late
            else
              match read with
              | .failed fault => .failed (elapsed + delay) fault
              | .bytes chunk =>
                  if chunk.isEmpty then .received (elapsed + delay) none
                  else awaitHead patience (elapsed + delay) (received ++ chunk) rest

def readHead (reads : List Read) : Except Host.Fault (Option (List Char)) :=
  match receiveHead [] reads with
  | .error fault => .error fault
  | .ok none => .ok none
  | .ok (some head) => .ok (some (Text.decodeLossy head))

end PackageSearch.Http
