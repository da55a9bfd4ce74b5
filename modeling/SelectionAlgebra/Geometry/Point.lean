import SelectionAlgebra.Double.Arithmetic

/-!
Points and vectors in space. Sums are taken from left to right, each operation rounded.
-/

namespace SelectionAlgebra

structure Point where
  x : Double
  y : Double
  z : Double
deriving DecidableEq, Inhabited

namespace Point

def map (f : Double → Double) (p : Point) : Point :=
  ⟨f p.x, f p.y, f p.z⟩

def zipWith (f : Double → Double → Double) (p q : Point) : Point :=
  ⟨f p.x q.x, f p.y q.y, f p.z q.z⟩

def zero : Point := ⟨.zero, .zero, .zero⟩

def add (p q : Point) : Point := zipWith .add p q

def sub (p q : Point) : Point := zipWith .sub p q

def dot (p q : Point) : Double :=
  ((p.x.mul q.x).add (p.y.mul q.y)).add (p.z.mul q.z)

def cross (p q : Point) : Point :=
  ⟨(p.y.mul q.z).sub (p.z.mul q.y), (p.z.mul q.x).sub (p.x.mul q.z),
    (p.x.mul q.y).sub (p.y.mul q.x)⟩

def extent (p : Point) : Double :=
  [p.x, p.y, p.z].foldl (fun m v => m.max v.abs) (.ofInt 1)

end Point

end SelectionAlgebra
