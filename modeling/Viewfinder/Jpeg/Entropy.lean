import Viewfinder.Jpeg.Tables
import Viewfinder.Jpeg.Transform

/-!
# Entropy coding

Bits are packed from the most significant end, with a zero byte stuffed after every byte of ones.
A block is the difference of its first coefficient to that of the block before, then the others in
zigzag order with the runs of zeros between them.
-/

namespace Viewfinder.Jpeg

/-- Bytes written, and `count` further bits that are not a byte yet. -/
structure BitWriter where
  bytes : Array UInt8 := #[]
  pending : Nat := 0
  count : Nat := 0

namespace BitWriter

def spill (w : BitWriter) : BitWriter :=
  if w.count < 8 then w
  else
    let rest := w.count - 8
    let byte := UInt8.ofNat (w.pending >>> rest)
    let bytes := if byte = 0xff then (w.bytes.push byte).push 0 else w.bytes.push byte
    spill ⟨bytes, w.pending % (1 <<< rest), rest⟩
termination_by w.count

/-- Append the `length` low bits of `value`. -/
def put (w : BitWriter) (length value : Nat) : BitWriter :=
  spill ⟨w.bytes, w.pending <<< length ||| value, w.count + length⟩

/-- Fill the last byte with ones and drop what is left over. -/
def finish (w : BitWriter) : Array UInt8 := (w.put 7 127).bytes

end BitWriter

/-- Length and bits of the code of each symbol. Codes count up, and double at each length. -/
def HuffmanSpec.codes (s : HuffmanSpec) : Array (Nat × Nat) :=
  let lengths := (s.counts.zip (List.range' 1 16)).flatMap fun (n, length) =>
    List.replicate n length
  let step (state : Array (Nat × Nat) × Nat × Nat) (entry : Nat × Nat) :=
    let (table, next, last) := state
    let code := next <<< (entry.1 - last)
    (table.setIfInBounds entry.2 (entry.1, code), code + 1, entry.1)
  ((lengths.zip s.symbols).foldl step (Array.replicate 256 (0, 0), 0, 0)).1

/-- Number of bits of the magnitude. -/
def category (n : Int) : Nat := if n = 0 then 0 else n.natAbs.log2 + 1

/-- The low bits of a value, of one less for a negative value. -/
def magnitudeBits (n : Int) : Nat :=
  if n < 0 then (n + (1 <<< category n : Nat) - 1).toNat else n.toNat

structure Coder where
  dc : Array (Nat × Nat)
  ac : Array (Nat × Nat)

namespace Coder

def putSymbol (codes : Array (Nat × Nat)) (w : BitWriter) (symbol : Nat) : BitWriter :=
  let (length, code) := codes.getD symbol (0, 0)
  w.put length code

def putValue (codes : Array (Nat × Nat)) (w : BitWriter) (run : Nat) (n : Int) : BitWriter :=
  (putSymbol codes w (16 * run + category n)).put (category n) (magnitudeBits n)

/-- The coefficients from the second on; `run` zeros have been passed over. -/
def putRuns (c : Coder) (w : BitWriter) (run : Nat) : List Int → BitWriter
  | [] => if run = 0 then w else putSymbol c.ac w 0x00
  | 0 :: rest => c.putRuns w (run + 1) rest
  | n :: rest =>
    let w := Nat.fold (run / 16) (fun _ _ w => putSymbol c.ac w 0xf0) w
    c.putRuns (putValue c.ac w (run % 16) n) 0 rest

/-- The block with these coefficients in zigzag order, after one that began with `previous`. -/
def putBlock (c : Coder) (w : BitWriter) (previous : Int) : List Int → BitWriter
  | [] => w
  | dc :: rest => c.putRuns (putValue c.dc w 0 (dc - previous)) 0 rest

end Coder

def lumaCoder : Coder := ⟨lumaDc.codes, lumaAc.codes⟩

def chromaCoder : Coder := ⟨chromaDc.codes, chromaAc.codes⟩

end Viewfinder.Jpeg
