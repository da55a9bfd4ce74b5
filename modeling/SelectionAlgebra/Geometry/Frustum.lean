import SelectionAlgebra.Geometry.Point

/-!
The inside of a frustum given by eight corners. Every face becomes a plane that has the centre of
the corners on its inner side, and a point is inside when it is on the inner side of all planes.
-/

namespace SelectionAlgebra

/-- The points `p` with `normal · p` at least `offset`. -/
structure HalfSpace where
  normal : Point
  offset : Double

def HalfSpace.contains (half : HalfSpace) (p : Point) (tolerance : Double) : Bool :=
  Double.le (half.offset.sub tolerance) (half.normal.dot p)

namespace Frustum

/-- Eight corners; the bits of a corner's number tell on which side it lies along each direction. -/
abbrev Corners := Vector Point 8

def faces : List (Fin 8 × Fin 8 × Fin 8 × Fin 8) :=
  [(0, 1, 2, 3), (4, 5, 6, 7), (0, 1, 4, 5), (2, 3, 6, 7), (0, 2, 4, 6), (1, 3, 5, 7)]

def centre (corners : Corners) : Point :=
  corners.toList.foldl (fun sum p => sum.add (p.map fun v => v.div (.ofInt 8))) .zero

def triangleNormal (a b c : Point) : Point :=
  (b.sub a).cross (c.sub a)

/-- The later of two vectors unless the earlier one is longer. -/
def longer (v w : Point) : Point :=
  if (w.dot w).totalRank < (v.dot v).totalRank then v else w

/-- Normal of the largest triangle of a face, so that one collapsed edge does not matter. -/
def faceNormal (a b c d : Point) : Point :=
  longer (longer (longer (triangleNormal a b c) (triangleNormal a b d)) (triangleNormal a c d))
    (triangleNormal b c d)

/-- The half space on the inner side of a face, unless the face has no area. -/
def halfSpace? (inside a b c d : Point) : Option HalfSpace :=
  let normal := faceNormal a b c d
  let length := (normal.dot normal).sqrt
  if length.isZero || !length.isFinite then none
  else
    let normal := normal.map fun v => v.div length
    let offset := normal.dot a
    if Double.lt (normal.dot inside) offset then some ⟨normal.map Double.neg, offset.neg⟩
    else some ⟨normal, offset⟩

def halfSpaces? (corners : Corners) : Option (List HalfSpace) :=
  let inside := centre corners
  faces.mapM fun (a, b, c, d) =>
    halfSpace? inside (corners.get a) (corners.get b) (corners.get c) (corners.get d)

/-- Room for rounding at a point, in proportion to its distance. -/
def tolerance (p : Point) : Double :=
  (Double.ofRatio false 1 1000000000000).mul p.extent

def contains (halves : List HalfSpace) (p : Point) : Bool :=
  let room := tolerance p
  halves.all fun half => half.contains p room

end Frustum

end SelectionAlgebra
