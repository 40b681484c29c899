/-
Cutting text to a number of bytes.

Texts are measured in the bytes of their UTF-8 form and cut between characters.  A
cut starts out at the last byte that fits and steps back from there until it is at
a boundary.  A text cannot be cut inside a character (`Text.before?`), and
stepping back never ends at such a place (`Text.boundary_stepBack`).
-/
namespace TableGateway.Text

/-- A character begins at this offset, or the text ends there. -/
def Boundary (s : String) (i : Nat) : Prop :=
  String.Pos.Raw.IsValid s ⟨i⟩

instance (s : String) (i : Nat) : Decidable (Boundary s i) :=
  inferInstanceAs (Decidable (String.Pos.Raw.IsValid s ⟨i⟩))

/-- Steps back from an offset until it is at a boundary, or at the start. -/
def stepBack (s : String) : Nat → Nat
  | 0 => 0
  | i + 1 => if Boundary s (i + 1) then i + 1 else stepBack s i

theorem boundary_stepBack (s : String) (n : Nat) : Boundary s (stepBack s n) := by
  induction n with
  | zero => exact String.Pos.Raw.isValid_zero
  | succ i ih =>
      simp only [stepBack]
      split
      case isTrue h => exact h
      case isFalse => exact ih

/-- The text before an offset; none if that is inside a character or past the end. -/
def before? (s : String) (i : Nat) : Option String :=
  if h : Boundary s i then some (s.sliceTo (s.pos ⟨i⟩ h)).copy else none

theorem before?_of_boundary {s : String} {i : Nat} (h : Boundary s i) :
    before? s i = some (s.sliceTo (s.pos ⟨i⟩ h)).copy :=
  dif_pos h

/-- What at most `n` bytes of a text hold, if it can be cut there. -/
def cut? (n : Nat) (s : String) : Option String :=
  if s.utf8ByteSize ≤ n then some s else before? s (stepBack s n)

theorem isSome_cut? (n : Nat) (s : String) : (cut? n s).isSome := by
  unfold cut?
  split
  case isTrue => rfl
  case isFalse =>
    rw [before?_of_boundary (boundary_stepBack s n)]
    rfl

/-- What at most `n` bytes of a text hold. -/
def cut (n : Nat) (s : String) : String :=
  (cut? n s).get (isSome_cut? n s)

/-- The text itself if it has at most `n` bytes, else what fits and three dots. -/
def abridge (n : Nat) (s : String) : String :=
  if s.utf8ByteSize ≤ n then s else cut n s ++ "..."

end TableGateway.Text
