import RequestLayer.Hexadecimal

set_option autoImplicit false

namespace RequestLayer.Keccak

abbrev State := Vector UInt64 25

def State.word (state : State) (column row : Nat) : UInt64 :=
  state[(column % 5 + 5 * (row % 5))]

-- The word at column `x` of row `y` stands at index `x + 5 * y`.
def State.ofWords (word : Nat → Nat → UInt64) : State :=
  Vector.ofFn fun index => word (index.val % 5) (index.val / 5)

def rotated (word : UInt64) (count : Nat) : UInt64 :=
  if count = 0 then word else (word <<< count.toUInt64) ||| (word >>> (64 - count).toUInt64)

def rotations : Vector Nat 25 :=
  #v[0, 1, 62, 28, 27, 36, 44, 6, 55, 20, 3, 10, 43, 25, 39, 41, 45, 15, 21, 8, 18, 2, 61, 56, 14]

def roundConstants : List UInt64 :=
  [0x0000000000000001, 0x0000000000008082, 0x800000000000808a, 0x8000000080008000,
    0x000000000000808b, 0x0000000080000001, 0x8000000080008081, 0x8000000000008009,
    0x000000000000008a, 0x0000000000000088, 0x0000000080008009, 0x000000008000000a,
    0x000000008000808b, 0x800000000000008b, 0x8000000000008089, 0x8000000000008003,
    0x8000000000008002, 0x8000000000000080, 0x000000000000800a, 0x800000008000000a,
    0x8000000080008081, 0x8000000000008080, 0x0000000080000001, 0x8000000080008008]

def mixColumns (state : State) : State :=
  let parity : Vector UInt64 5 := Vector.ofFn fun column =>
    state.word column 0 ^^^ state.word column 1 ^^^ state.word column 2 ^^^
      state.word column 3 ^^^ state.word column 4
  .ofWords fun column row =>
    state.word column row ^^^ parity[(column + 4) % 5] ^^^
      rotated (parity[(column + 1) % 5]) 1

def moveWords (state : State) : State :=
  .ofWords fun column row =>
    let source := (column + 3 * row) % 5
    rotated (state.word source column) (rotations[source + 5 * (column % 5)])

def combineRows (state : State) : State :=
  .ofWords fun column row =>
    state.word column row ^^^ (~~~(state.word (column + 1) row) &&& state.word (column + 2) row)

def round (state : State) (constant : UInt64) : State :=
  let next := combineRows (moveWords (mixColumns state))
  next.set 0 (next[0] ^^^ constant)

def permuted (state : State) : State :=
  roundConstants.foldl round state

def rate : Nat := 136

def wordOf (bytes : List UInt8) : UInt64 :=
  bytes.foldr (fun byte word => (word <<< 8) ||| byte.toUInt64) 0

def padding (length : Nat) : List UInt8 :=
  let missing := rate - length % rate
  if missing = 1 then [0x81] else 0x01 :: List.replicate (missing - 2) 0 ++ [0x80]

def absorbed (state : State) (block : List UInt8) : State :=
  permuted <| Vector.ofFn fun index =>
    if index.val < rate / 8 then
      state[index] ^^^ wordOf ((block.drop (8 * index.val)).take 8)
    else state[index]

def absorbedBlocks : Nat → State → List UInt8 → State
  | 0, state, _ => state
  | blocks + 1, state, bytes =>
      absorbedBlocks blocks (absorbed state (bytes.take rate)) (bytes.drop rate)

def digest (message : List UInt8) : Bytes32 :=
  let padded := message ++ padding message.length
  let state := absorbedBlocks (padded.length / rate) (Vector.replicate 25 0) padded
  Vector.ofFn fun index =>
    (state[index.val / 8] >>> (8 * (index.val % 8)).toUInt64).toUInt8

end RequestLayer.Keccak
