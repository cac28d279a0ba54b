/-!
# Cosine transform and quantisation

A block holds 64 values row by row. The forward transform is the integer one with thirteen-bit
constants: first over the rows, keeping two extra bits, then over the columns of the result.
-/

namespace Viewfinder.Jpeg

abbrev Block := Array Int

/-- What the two passes do differently: how the two outermost sums are scaled, and by how many bits
the products are shortened. -/
structure Pass where
  outer : Int → Int → Int × Int
  shift : Nat

/-- Rows: the mean of the samples is taken off and two bits are gained. -/
def Pass.rows : Pass := ⟨fun s t => ((s + t - 1024) * 4, (s - t) * 4), 11⟩

/-- Columns: the two bits are given back, to the nearest. -/
def Pass.columns : Pass := ⟨fun s t => ((s + 2 + t) >>> (2 : Nat), (s + 2 - t) >>> (2 : Nat)), 15⟩

/-- The transform of the eight values at `index 0` to `index 7`, in place. -/
def Pass.apply (p : Pass) (b : Block) (index : Nat → Nat) : Block :=
  let v (i : Nat) : Int := b.getD (index i) 0
  let a0 := v 0 + v 7
  let a1 := v 1 + v 6
  let a2 := v 2 + v 5
  let a3 := v 3 + v 4
  let d0 := v 0 - v 7
  let d1 := v 1 - v 6
  let d2 := v 2 - v 5
  let d3 := v 3 - v 4
  let (o0, o4) := p.outer (a0 + a3) (a1 + a2)
  let s := a0 - a3
  let t := a1 - a2
  let z := (s + t) * 4433 + (1 <<< (p.shift - 1) : Nat)
  let y := (d0 + d2 + d1 + d3) * 9633 + 1024
  let e := (d0 + d2) * -3196 + y
  let f := (d1 + d3) * -16069 + y
  let g := (d0 + d3) * -7373
  let h := (d1 + d2) * -20995
  b |>.setIfInBounds (index 0) o0
    |>.setIfInBounds (index 1) ((d0 * 12299 + g + e) >>> p.shift)
    |>.setIfInBounds (index 2) ((z + s * 6270) >>> p.shift)
    |>.setIfInBounds (index 3) ((d1 * 25172 + h + f) >>> p.shift)
    |>.setIfInBounds (index 4) o4
    |>.setIfInBounds (index 5) ((d2 * 16819 + h + e) >>> p.shift)
    |>.setIfInBounds (index 6) ((z - t * 15137) >>> p.shift)
    |>.setIfInBounds (index 7) ((d3 * 2446 + g + f) >>> p.shift)

def transform (b : Block) : Block :=
  let rows := Nat.fold 8 (fun r _ b => Pass.rows.apply b (8 * r + ·)) b
  Nat.fold 8 (fun c _ b => Pass.columns.apply b (8 * · + c)) rows

/-- The multiple of `step` nearest to an eighth of a coefficient, a half away from zero. -/
def quantize (step : Nat) (coefficient : Int) : Int :=
  let c := coefficient.tdiv 8
  let steps : Int := (2 * c.natAbs + step) / (2 * step)
  if c < 0 then -steps else steps

end Viewfinder.Jpeg
