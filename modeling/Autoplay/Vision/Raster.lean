/-!
# Rasters

A raster is a rectangle of cells, row by row. A cell is addressed by its column and row; rasters are
made from a function of both, and `at?_tabulate` says that the function's values are what is found.
-/

namespace Autoplay

/-- A rectangle of cells. -/
structure Raster (α : Type) where
  /-- Number of columns. -/
  width : Nat
  /-- Number of rows. -/
  height : Nat
  /-- The cells, row by row. -/
  cells : Array α
  /-- There is one cell for each place. -/
  size_cells : cells.size = width * height

namespace Raster

variable {α β : Type}

/-- The index of a place lies in the list of cells. -/
theorem index_lt {w h x y : Nat} (hx : x < w) (hy : y < h) : y * w + x < w * h := by
  have h1 : (y + 1) * w ≤ h * w := Nat.mul_le_mul_right w hy
  have h2 : (y + 1) * w = y * w + w := Nat.succ_mul y w
  have h3 : h * w = w * h := Nat.mul_comm h w
  omega

/-- The cell at a column and row. -/
def at? (r : Raster α) (x y : Nat) : Option α :=
  if h : x < r.width ∧ y < r.height then
    have : y * r.width + x < r.cells.size := by rw [r.size_cells]; exact index_lt h.1 h.2
    some r.cells[y * r.width + x]
  else none

/-- The raster of the values of a function of column and row. -/
def tabulate (width height : Nat) (f : Nat → Nat → α) : Raster α where
  width := width
  height := height
  cells := Array.ofFn fun i : Fin (width * height) => f (i.val % width) (i.val / width)
  size_cells := Array.size_ofFn

/-- Applies a function to every cell. -/
def map (f : α → β) (r : Raster α) : Raster β where
  width := r.width
  height := r.height
  cells := r.cells.map f
  size_cells := by rw [Array.size_map, r.size_cells]

/-- The cell at a column and row, or a value that stands for all places outside. -/
def getD (r : Raster α) (x y : Nat) (outside : α) : α :=
  if h : x < r.width ∧ y < r.height then
    have : y * r.width + x < r.cells.size := by rw [r.size_cells]; exact index_lt h.1 h.2
    r.cells[y * r.width + x]
  else outside

/-- The part of a raster of the given size that starts at a column and row. -/
def crop (r : Raster α) (x y width height : Nat) (outside : α) : Raster α :=
  tabulate width height fun i j => r.getD (x + i) (y + j) outside

/-- Puts a value into a cell; places outside are left alone. -/
def set (r : Raster α) (x y : Nat) (a : α) : Raster α :=
  if x < r.width ∧ y < r.height then
    { r with
      cells := r.cells.setIfInBounds (y * r.width + x) a
      size_cells := by rw [Array.size_setIfInBounds, r.size_cells] }
  else r

/-- The places of a raster, row by row. -/
def places (r : Raster α) : List (Nat × Nat) :=
  (List.range r.height).flatMap fun y => (List.range r.width).map fun x => (x, y)

/-- A raster made from a function holds the function's values. -/
theorem at?_tabulate {w h x y : Nat} (f : Nat → Nat → α) (hx : x < w) (hy : y < h) :
    (tabulate w h f).at? x y = some (f x y) := by
  have hw : 0 < w := Nat.lt_of_le_of_lt (Nat.zero_le x) hx
  have h1 : (y * w + x) % w = x := by
    rw [Nat.add_comm, Nat.add_mul_mod_self_right, Nat.mod_eq_of_lt hx]
  have h2 : (y * w + x) / w = y := by
    rw [Nat.add_comm, Nat.add_mul_div_right _ _ hw, Nat.div_eq_of_lt hx, Nat.zero_add]
  simp [at?, tabulate, hx, hy, h1, h2]

end Raster

end Autoplay
