/-!
# Message digests

The MD5 digest of a sequence of bytes: sixteen bytes that serve as a short name of a text. The
message is padded to whole blocks of sixteen words, and every block turns the four words of the
state over in sixty-four rounds.
-/

namespace CommandLine.Digest

/-- The four words that a message is digested to. -/
structure State where
  a : UInt32
  b : UInt32
  c : UInt32
  d : UInt32
deriving DecidableEq, Repr

/-- The state before the first block. -/
def State.initial : State := ⟨0x67452301, 0xefcdab89, 0x98badcfe, 0x10325476⟩

/-- The constants of the rounds: the integer parts of `2 ^ 32 * |sin (i + 1)|`. -/
def constants : List UInt32 :=
  [0xd76aa478, 0xe8c7b756, 0x242070db, 0xc1bdceee, 0xf57c0faf, 0x4787c62a, 0xa8304613, 0xfd469501,
    0x698098d8, 0x8b44f7af, 0xffff5bb1, 0x895cd7be, 0x6b901122, 0xfd987193, 0xa679438e, 0x49b40821,
    0xf61e2562, 0xc040b340, 0x265e5a51, 0xe9b6c7aa, 0xd62f105d, 0x02441453, 0xd8a1e681, 0xe7d3fbc8,
    0x21e1cde6, 0xc33707d6, 0xf4d50d87, 0x455a14ed, 0xa9e3e905, 0xfcefa3f8, 0x676f02d9, 0x8d2a4c8a,
    0xfffa3942, 0x8771f681, 0x6d9d6122, 0xfde5380c, 0xa4beea44, 0x4bdecfa9, 0xf6bb4b60, 0xbebfbc70,
    0x289b7ec6, 0xeaa127fa, 0xd4ef3085, 0x04881d05, 0xd9d4d039, 0xe6db99e5, 0x1fa27cf8, 0xc4ac5665,
    0xf4292244, 0x432aff97, 0xab9423a7, 0xfc93a039, 0x655b59c3, 0x8f0ccc92, 0xffeff47d, 0x85845dd1,
    0x6fa87e4f, 0xfe2ce6e0, 0xa3014314, 0x4e0811a1, 0xf7537e82, 0xbd3af235, 0x2ad7d2bb, 0xeb86d391]

/-- How far each round rotates; every sixteen rounds have four amounts in turn. -/
def rotations : List UInt32 :=
  [[7, 12, 17, 22], [5, 9, 14, 20], [4, 11, 16, 23], [6, 10, 15, 21]].flatMap fun four =>
    (List.replicate 4 four).flatten

/-- Which word of a block each round takes. -/
def wordOrder : List Nat :=
  let rounds := List.range 16
  rounds ++ rounds.map (fun i => (5 * i + 1) % 16) ++ rounds.map (fun i => (3 * i + 5) % 16) ++
    rounds.map (fun i => 7 * i % 16)

/-- A word rotated to the left by less than its width. -/
def rotateLeft (x amount : UInt32) : UInt32 := (x <<< amount) ||| (x >>> (32 - amount))

/-- How a round mixes three words of the state. -/
def mix (round : Nat) (b c d : UInt32) : UInt32 :=
  match round / 16 with
  | 0 => (b &&& c) ||| (~~~b &&& d)
  | 1 => (d &&& b) ||| (~~~d &&& c)
  | 2 => b ^^^ c ^^^ d
  | _ => c ^^^ (b ||| ~~~d)

/-- The rounds: number, constant, rotation, and place of the word. -/
def rounds : List (Nat × UInt32 × UInt32 × Nat) :=
  (List.range 64).zip (constants.zip (rotations.zip wordOrder))

/-- One round over a block. -/
def turn (block : Array UInt32) (s : State) (round : Nat × UInt32 × UInt32 × Nat) : State :=
  let (number, constant, rotation, place) := round
  let sum := mix number s.b s.c s.d + s.a + constant + block.getD place 0
  ⟨s.d, s.b + rotateLeft sum rotation, s.b, s.c⟩

/-- One block. -/
def digestBlock (s : State) (block : Array UInt32) : State :=
  let t := rounds.foldl (turn block) s
  ⟨s.a + t.a, s.b + t.b, s.c + t.c, s.d + t.d⟩

/-- The bytes of a number, least significant first. -/
def littleEndian : Nat → Nat → List UInt8
  | 0, _ => []
  | count + 1, n => UInt8.ofNat (n % 256) :: littleEndian count (n / 256)

/-- The words of some bytes, four to a word, least significant byte first. -/
def words : List UInt8 → List UInt32
  | w :: x :: y :: z :: rest =>
    (w.toUInt32 ||| x.toUInt32 <<< 8 ||| y.toUInt32 <<< 16 ||| z.toUInt32 <<< 24) :: words rest
  | _ => []

/-- A list cut into blocks of sixteen. -/
def blocks : List UInt32 → List (Array UInt32)
  | [] => []
  | w :: ws => ((w :: ws).take 16).toArray :: blocks (ws.drop 15)
termination_by ws => ws.length
decreasing_by simp only [List.length_drop, List.length_cons]; omega

/-- A message with a single bit, zeros and its length in bits behind it, in whole blocks. -/
def pad (message : List UInt8) : List UInt8 :=
  let free := (119 - message.length % 64) % 64
  message ++ 0x80 :: List.replicate free 0 ++ littleEndian 8 (8 * message.length)

/-- The digest of a message. -/
def digest (message : List UInt8) : List UInt8 :=
  let s := (blocks (words (pad message))).foldl digestBlock State.initial
  [s.a, s.b, s.c, s.d].flatMap fun w => littleEndian 4 w.toNat

/-- The two lower-case hexadecimal digits of a byte. -/
def hexByte (b : UInt8) : List Char :=
  [b.toNat / 16, b.toNat % 16].map fun n =>
    if n < 10 then Char.ofNat (48 + n) else Char.ofNat (87 + n)

/-- The first eight hexadecimal digits of the digest of a text in UTF-8. -/
def shortName (text : String) : String :=
  String.ofList (((digest text.toUTF8.toList).take 4).flatMap hexByte)

end CommandLine.Digest
