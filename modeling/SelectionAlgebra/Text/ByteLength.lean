/-!
Lengths in bytes, which positions in messages count.
-/

namespace SelectionAlgebra.Text

def byteLength : List Char → Nat
  | [] => 0
  | c :: rest => c.utf8Size + byteLength rest

theorem byteLength_append (cs ds : List Char) :
    byteLength (cs ++ ds) = byteLength cs + byteLength ds := by
  induction cs with
  | nil => exact (Nat.zero_add _).symm
  | cons c cs ih => simp only [List.cons_append, byteLength, ih, Nat.add_assoc]

end SelectionAlgebra.Text
