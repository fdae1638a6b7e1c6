/-!
Output of which no more than a limit is kept. What a capture keeps depends on the bytes alone and
not on the pieces in which they arrive.
-/

namespace Groundwork

/-- What is kept of a stream of bytes, and how many bytes were dropped. -/
structure Capture where
  kept : ByteArray := .empty
  dropped : Nat := 0

namespace Capture

/-- Takes in a piece: as much of it as there is room for. -/
def push (limit : Nat) (capture : Capture) (piece : ByteArray) : Capture :=
  let room := limit - capture.kept.size
  let taken := min piece.size room
  { kept := capture.kept ++ piece.extract 0 taken
    dropped := capture.dropped + (piece.size - taken) }

/-- Takes in pieces as they are read, up to one with nothing in it: there the stream ends. -/
def readFrom (limit : Nat) (capture : Capture) : List ByteArray → Capture
  | [] => capture
  | piece :: later =>
      if piece.isEmpty then capture else readFrom limit (push limit capture piece) later

/-- Takes in the pieces of a stream in order. -/
def ofPieces (limit : Nat) (pieces : List ByteArray) : Capture := readFrom limit {} pieces

/-- The most bytes that arrive in one piece. -/
def pieceSize : Nat := 8192

/-- The pieces in which bytes arrive; `fuel` bounds their number. -/
def piecesFrom (fuel start : Nat) (bytes : ByteArray) : List ByteArray :=
  match fuel with
  | 0 => []
  | fuel + 1 =>
      if bytes.size ≤ start then []
      else bytes.extract start (start + pieceSize) :: piecesFrom fuel (start + pieceSize) bytes

/-- What is kept of some bytes. -/
def ofBytes (limit : Nat) (bytes : ByteArray) : Capture :=
  ofPieces limit (piecesFrom (bytes.size + 1) 0 bytes)

end Capture

end Groundwork
