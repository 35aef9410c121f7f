/-!
# Scroll offsets

A code pane scrolls to a line by a vertical offset, the height of the rows above it in
single precision. The offset is computed on bit patterns, because those that stand for no
number are told apart as well: a height that is none is passed on, made quiet, and nothing
times an infinite height is the quiet pattern with its sign bit set.
-/

namespace Showcase

def isNoNumber (bits : UInt32) : Bool :=
  (bits &&& 0x7fffffff) > 0x7f800000

/-- The product of a count and a height, both rounded to single precision. -/
def heightOf (count : UInt64) (height : UInt32) : UInt32 :=
  if isNoNumber height then height ||| 0x400000
  else
    let product := count.toFloat32 * Float32.ofBits height
    if product.isNaN then 0xffc00000 else product.toBits

/-- The vertical offset that leaves `rowsAbove` rows visible above a line, for rows of the
given height. -/
def scrollOffset (line rowsAbove : UInt64) (rowHeight : UInt32) : UInt32 :=
  heightOf (UInt64.ofNat (line.toNat - 1 - rowsAbove.toNat)) rowHeight

end Showcase
