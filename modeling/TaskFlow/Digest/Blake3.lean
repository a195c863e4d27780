/-!
# BLAKE3 digests

- `compress`: seven rounds over sixteen words, the message permuted between them;
- `Node`: the last block of a chunk, or two chaining values, before its role is known; `Node.chain` is its value inside
  the tree and `Node.root` the digest of a tree with this node on top;
- `hexDigest`: thirty-two bytes of digest of a text in UTF-8, in lower-case hexadecimal.
-/

namespace TaskFlow.Blake3

/-- Eight or sixteen words. -/
abbrev Words (n : Nat) := Vector UInt32 n

def initial : Words 8 :=
  #v[0x6a09e667, 0xbb67ae85, 0x3c6ef372, 0xa54ff53a, 0x510e527f, 0x9b05688c, 0x1f83d9ab, 0x5be0cd19]

/-- Where each word of the next round's message stands in this round's. -/
def schedule : Vector (Fin 16) 16 := #v[2, 6, 3, 10, 7, 0, 4, 13, 1, 11, 12, 5, 9, 14, 15, 8]

/-! ## Flags -/

def chunkStart : UInt32 := 1
def chunkEnd : UInt32 := 2
def parent : UInt32 := 4
def root : UInt32 := 8

/-! ## Compression -/

def rotateRight (x n : UInt32) : UInt32 := (x >>> n) ||| (x <<< (32 - n))

/-- Four words of the state mixed with two words of the message. -/
def mix (s : Words 16) (a b c d : Fin 16) (x y : UInt32) : Words 16 :=
  let va := s[a] + s[b] + x
  let vd := rotateRight (s[d] ^^^ va) 16
  let vc := s[c] + vd
  let vb := rotateRight (s[b] ^^^ vc) 12
  let va := va + vb + y
  let vd := rotateRight (vd ^^^ va) 8
  let vc := vc + vd
  let vb := rotateRight (vb ^^^ vc) 7
  (((s.set a va).set b vb).set c vc).set d vd

/-- The columns, then the diagonals. -/
def round (s m : Words 16) : Words 16 :=
  let s := mix s 0 4 8 12 m[0] m[1]
  let s := mix s 1 5 9 13 m[2] m[3]
  let s := mix s 2 6 10 14 m[4] m[5]
  let s := mix s 3 7 11 15 m[6] m[7]
  let s := mix s 0 5 10 15 m[8] m[9]
  let s := mix s 1 6 11 12 m[10] m[11]
  let s := mix s 2 7 8 13 m[12] m[13]
  mix s 3 4 9 14 m[14] m[15]

def rounds : Nat → Words 16 → Words 16 → Words 16
  | 0, s, _ => s
  | n + 1, s, m => rounds n (round s m) (schedule.map fun i => m[i])

def compress (chaining : Words 8) (block : Words 16) (counter : UInt64) (length flags : UInt32) : Words 8 :=
  let s : Words 16 := chaining ++ #v[initial[0], initial[1], initial[2], initial[3], counter.toUInt32,
    (counter >>> 32).toUInt32, length, flags]
  let s := rounds 7 s block
  Vector.ofFn fun i : Fin 8 => s[i.val] ^^^ s[i.val + 8]

/-! ## The tree -/

/-- A compression that waits for the flag of the root. -/
structure Node where
  chaining : Words 8
  block : Words 16
  counter : UInt64
  length : UInt32
  flags : UInt32

namespace Node

def chain (n : Node) : Words 8 := compress n.chaining n.block n.counter n.length n.flags

def root (n : Node) : Words 8 := compress n.chaining n.block n.counter n.length (n.flags ||| Blake3.root)

/-- The node above two others. -/
def join (left right : Node) : Node where
  chaining := initial
  block := left.chain ++ right.chain
  counter := 0
  length := 64
  flags := parent

end Node

/-- The little-endian words of at most sixty-four bytes, zeros behind them. -/
def blockWords (bytes : Array UInt8) : Words 16 :=
  Vector.ofFn fun i =>
    let byte (k : Nat) : UInt32 := (bytes.getD (4 * i.val + k) 0).toUInt32
    byte 0 ||| (byte 1 <<< 8) ||| (byte 2 <<< 16) ||| (byte 3 <<< 24)

/-- A list cut into parts of `n + 1` items, the last one shorter; the empty list is one part. -/
def parts {α : Type} (n : Nat) (xs : List α) : List (List α) :=
  if xs.length ≤ n + 1 then [xs] else xs.take (n + 1) :: parts n (xs.drop (n + 1))
termination_by xs.length
decreasing_by simp only [List.length_drop]; omega

/-- The blocks of a chunk from a chaining value on. -/
def chunkTail (counter : UInt64) (chaining : Words 8) (flags : UInt32) : List (List UInt8) → Node
  | [] => ⟨chaining, blockWords #[], counter, 0, flags ||| chunkEnd⟩
  | [last] => ⟨chaining, blockWords last.toArray, counter, UInt32.ofNat last.length, flags ||| chunkEnd⟩
  | block :: rest =>
    chunkTail counter (compress chaining (blockWords block.toArray) counter (UInt32.ofNat block.length) flags) 0 rest

def chunk (counter : UInt64) (bytes : List UInt8) : Node :=
  chunkTail counter initial chunkStart (parts 63 bytes)

/-- Neighbours joined in pairs. -/
def joinPairs : List Node → List Node
  | a :: b :: rest => a.join b :: joinPairs rest
  | rest => rest

theorem length_joinPairs_le : ∀ ns : List Node, (joinPairs ns).length ≤ ns.length
  | [] => by simp [joinPairs]
  | [_] => by simp [joinPairs]
  | _ :: _ :: rest => by
    have := length_joinPairs_le rest
    simp only [joinPairs, List.length_cons]
    omega

/-- One node over a level of the tree. -/
def top (first : Node) : List Node → Node
  | [] => first
  | second :: rest => top (first.join second) (joinPairs rest)
termination_by rest => rest.length
decreasing_by
  have := length_joinPairs_le rest
  simp only [List.length_cons]
  omega

/-- The chunks of an input from a number on. -/
def chunks (counter : Nat) : List (List UInt8) → List Node
  | [] => []
  | bytes :: rest => chunk (UInt64.ofNat counter) bytes :: chunks (counter + 1) rest

def digest (bytes : List UInt8) : Words 8 :=
  match chunks 0 (parts 1023 bytes) with
  | [] => (chunk 0 []).root
  | first :: rest => (top first rest).root

/-! ## Text -/

def hexDigits (n : Nat) : List Char :=
  let digits := Nat.toDigits 16 n
  List.replicate (2 - digits.length) '0' ++ digits

/-- The four bytes of a word, the lowest first. -/
def wordBytes (w : UInt32) : List Nat :=
  [0, 8, 16, 24].map fun shift => (w.toNat >>> shift) % 256

def hexDigest (text : String) : String :=
  String.ofList (((digest text.toUTF8.toList).toList.flatMap wordBytes).flatMap hexDigits)

end TaskFlow.Blake3
