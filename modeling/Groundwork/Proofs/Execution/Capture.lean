import Groundwork.Execution.Capture

/-!
What is kept of a stream of bytes: as many of its first bytes as the limit allows. The others are
counted, and none of this depends on the pieces in which the bytes arrive.
-/

namespace Groundwork.Capture

variable {limit : Nat} {bytes : ByteArray} {pieces : List ByteArray}

-----------------------------------------------------------------------------------------
-- Streams in pieces
-----------------------------------------------------------------------------------------

/-- A stream of bytes arrives in pieces: each has a byte at least and no more than fit into one, and
one with no bytes is the end, whatever would be read after it.
-/
inductive Arrives : ByteArray → List ByteArray → Prop
  | ended {later : List ByteArray} (closed : ∀ piece ∈ later.head?, piece.size = 0)
    : Arrives .empty later
  | piece {piece rest : ByteArray} {later : List ByteArray} (some : 1 ≤ piece.size)
    (fits : piece.size ≤ pieceSize) (arrives : Arrives rest later)
    : Arrives (piece ++ rest) (piece :: later)

/-- There is nothing beyond the last byte. -/
theorem extract_min (bytes : ByteArray) (start stop : Nat)
    : bytes.extract start (min stop bytes.size) = bytes.extract start stop := by
  have whole := @ByteArray.extract_extract bytes 0 bytes.size start stop
  rw [ByteArray.extract_zero_size, Nat.zero_add, Nat.zero_add] at whole
  exact whole.symm

/-- The pieces into which bytes are cut from some place on make up the bytes from there on; by
induction on the number of pieces.
-/
theorem arrives_piecesFrom (fuel start : Nat) (bytes : ByteArray)
    (enough : bytes.size < start + fuel)
    : Arrives (bytes.extract start bytes.size) (piecesFrom fuel start bytes) := by
  have none {start : Nat} (past : bytes.size ≤ start) : bytes.extract start bytes.size = .empty :=
    ByteArray.extract_eq_empty_iff.mpr (by omega)
  have positive : 1 ≤ pieceSize := by decide
  induction fuel generalizing start with
  | zero =>
      rw [none (by omega)]
      exact .ended (by simp [piecesFrom])
  | succ fuel ih =>
      unfold piecesFrom
      split
      · next past =>
        rw [none past]
        exact .ended (by simp)
      · next inside =>
        have split : bytes.extract start bytes.size
            = bytes.extract start (start + pieceSize)
              ++ bytes.extract (start + pieceSize) bytes.size := by
          rw [ByteArray.extract_append_extract, Nat.min_eq_left (Nat.le_add_right _ _),
            ← extract_min bytes start (max (start + pieceSize) bytes.size),
            Nat.min_eq_right (Nat.le_max_right _ _)]
        rw [split]
        refine .piece ?_ ?_ (ih _ (by omega)) <;>
          · rw [ByteArray.size_extract]
            omega

-----------------------------------------------------------------------------------------
-- What is kept
-----------------------------------------------------------------------------------------

/-- What is kept of a stream that is read as a whole, and how much of it is dropped. -/
def cut (limit : Nat) (bytes : ByteArray) : Capture :=
  ⟨bytes.extract 0 (min bytes.size limit), bytes.size - min bytes.size limit⟩

@[simp] theorem size_kept_cut (limit : Nat) (bytes : ByteArray)
    : (cut limit bytes).kept.size = min bytes.size limit := by
  simp only [cut, ByteArray.size_extract]
  omega

/-- What is taken in after a part of a stream is what the stream has more of: a piece may lie before
the limit, across it or behind it.
-/
theorem push_cut (limit : Nat) (seen piece : ByteArray)
    : push limit (cut limit seen) piece = cut limit (seen ++ piece) := by
  have before : seen.extract 0 (min (seen ++ piece).size limit)
      = seen.extract 0 (min seen.size limit) := by
    rw [← extract_min seen 0 (min (seen ++ piece).size limit), ByteArray.size_append]
    congr 1
    omega
  have behind : min (seen ++ piece).size limit - seen.size
      = min piece.size (limit - min seen.size limit) := by
    rw [ByteArray.size_append]
    omega
  simp only [push, size_kept_cut]
  simp only [cut, ByteArray.extract_append, before, behind, Nat.zero_sub, mk.injEq, true_and]
  rw [ByteArray.size_append]
  omega

/-- What was kept of a part of a stream becomes what is kept of all of it; by induction on the pieces
that are still to come, each of which is taken in with those before it.
-/
theorem readFrom_cut (arrives : Arrives bytes pieces) (limit : Nat) (seen : ByteArray)
    : readFrom limit (cut limit seen) pieces = cut limit (seen ++ bytes) := by
  induction arrives generalizing seen with
  | @ended later closed =>
      rw [ByteArray.append_empty]
      cases later with
      | nil => rfl
      | cons piece later =>
          have none : piece.isEmpty = true := by simp [ByteArray.isEmpty, closed piece rfl]
          rw [readFrom, if_pos none]
  | @piece piece rest later some fits _ ih =>
      have more : piece.isEmpty = false := by
        simp only [ByteArray.isEmpty, beq_eq_false_iff_ne]
        omega
      rw [readFrom, more, if_neg Bool.false_ne_true, push_cut, ih, ByteArray.append_assoc]

theorem ofPieces_eq_cut (arrives : Arrives bytes pieces) (limit : Nat)
    : ofPieces limit pieces = cut limit bytes := by
  have fresh : cut limit .empty = {} := by simp [cut]
  rw [ofPieces, ← fresh, readFrom_cut arrives, ByteArray.empty_append]

/-- What is kept of a stream are its first bytes, as many as the limit allows, and dropped are all that
come after them: together they are the length of the stream. It is the same however the stream arrives,
also in the largest pieces.
-/
theorem ofPieces_arrives (arrives : Arrives bytes pieces) (limit : Nat)
    : (ofPieces limit pieces).kept = bytes.extract 0 (min bytes.size limit)
      ∧ (ofPieces limit pieces).kept.size = min bytes.size limit
      ∧ (ofPieces limit pieces).dropped = bytes.size - min bytes.size limit
      ∧ (ofPieces limit pieces).kept.size + (ofPieces limit pieces).dropped = bytes.size
      ∧ ofPieces limit pieces = ofBytes limit bytes := by
  have largest : Arrives bytes (piecesFrom (bytes.size + 1) 0 bytes) := by
    have arrives := arrives_piecesFrom (bytes.size + 1) 0 bytes (by omega)
    rwa [ByteArray.extract_zero_size] at arrives
  rw [ofBytes, ofPieces_eq_cut arrives, ofPieces_eq_cut largest, size_kept_cut]
  refine ⟨rfl, rfl, rfl, ?_, rfl⟩
  change min bytes.size limit + (bytes.size - min bytes.size limit) = bytes.size
  omega

/-- Eight bytes arrive in two pieces, the second of which lies across the limit. -/
theorem ofPieces_arrives_across
    : Arrives ("ab".toUTF8 ++ ("cdefgh".toUTF8 ++ .empty)) ["ab".toUTF8, "cdefgh".toUTF8]
      ∧ (ofPieces 3 ["ab".toUTF8, "cdefgh".toUTF8]).kept = "abc".toUTF8
      ∧ (ofPieces 3 ["ab".toUTF8, "cdefgh".toUTF8]).dropped = 5 := by
  have arrives : Arrives ("ab".toUTF8 ++ ("cdefgh".toUTF8 ++ .empty))
      ["ab".toUTF8, "cdefgh".toUTF8] :=
    .piece (by decide) (by decide) (.piece (by decide) (by decide) (.ended (by simp)))
  obtain ⟨kept, -, dropped, -, -⟩ := ofPieces_arrives arrives 3
  exact ⟨arrives, kept.trans (by decide), dropped.trans (by decide)⟩

end Groundwork.Capture
