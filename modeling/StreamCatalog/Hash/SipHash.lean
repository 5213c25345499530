namespace StreamCatalog.SipHash

structure State where
  v0 : UInt64
  v1 : UInt64
  v2 : UInt64
  v3 : UInt64
  deriving DecidableEq

def rotateLeft (x : UInt64) (amount : UInt64) : UInt64 :=
  x <<< amount ||| x >>> (64 - amount)

def State.initial (key0 key1 : UInt64) : State where
  v0 := key0 ^^^ 0x736f6d6570736575
  v1 := key1 ^^^ 0x646f72616e646f6d
  v2 := key0 ^^^ 0x6c7967656e657261
  v3 := key1 ^^^ 0x7465646279746573

def State.round (s : State) : State :=
  let a0 := s.v0 + s.v1
  let a2 := s.v2 + s.v3
  let b1 := rotateLeft s.v1 13 ^^^ a0
  let b3 := rotateLeft s.v3 16 ^^^ a2
  let c0 := rotateLeft a0 32 + b3
  let c2 := a2 + b1
  { v0 := c0
    v1 := rotateLeft b1 17 ^^^ c2
    v2 := rotateLeft c2 32
    v3 := rotateLeft b3 21 ^^^ c0 }

def State.rounds : Nat → State → State
  | 0, s => s
  | n + 1, s => rounds n s.round

def littleEndian (bytes : List UInt8) : UInt64 :=
  bytes.foldr (fun byte word => word <<< 8 ||| byte.toUInt64) 0

def State.absorb (rounds : Nat) (s : State) (word : UInt64) : State :=
  let mixed := State.rounds rounds { s with v3 := s.v3 ^^^ word }
  { mixed with v0 := mixed.v0 ^^^ word }

/-- Takes in whole words of eight bytes, and last the bytes that remain with the length on top. -/
def State.absorbAll (rounds : Nat) (length : UInt64) : State → List UInt8 → State
  | s, b0 :: b1 :: b2 :: b3 :: b4 :: b5 :: b6 :: b7 :: rest =>
    absorbAll rounds length (s.absorb rounds (littleEndian [b0, b1, b2, b3, b4, b5, b6, b7])) rest
  | s, rest => s.absorb rounds (length <<< 56 ||| littleEndian rest)

def State.finish (rounds : Nat) (s : State) : UInt64 :=
  let last := State.rounds rounds { s with v2 := s.v2 ^^^ 0xff }
  last.v0 ^^^ last.v1 ^^^ last.v2 ^^^ last.v3

def hash (wordRounds finalRounds : Nat) (key0 key1 : UInt64) (bytes : List UInt8) : UInt64 :=
  let start := State.initial key0 key1
  (start.absorbAll wordRounds (UInt64.ofNat bytes.length) bytes).finish finalRounds

end StreamCatalog.SipHash
