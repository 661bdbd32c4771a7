/-!
# SHA-1

The message is padded to blocks of sixteen words; every block is expanded to eighty words, which are
mixed into the five words of the state.
-/

namespace HeaderBindings.Digest

/-- Rotates a word to the left. -/
def rotate (word bits : UInt32) : UInt32 :=
  (word <<< bits) ||| (word >>> (32 - bits))

/-- The five words of the state. -/
structure State where
  a : UInt32
  b : UInt32
  c : UInt32
  d : UInt32
  e : UInt32
  deriving Repr, DecidableEq

namespace State

/-- The state before the first block. -/
def initial : State :=
  ⟨0x67452301, 0xEFCDAB89, 0x98BADCFE, 0x10325476, 0xC3D2E1F0⟩

/-- Adds two states word by word. -/
def add (s t : State) : State :=
  ⟨s.a + t.a, s.b + t.b, s.c + t.c, s.d + t.d, s.e + t.e⟩

/-- The mixing function of a round and its constant. -/
def mix (round : Nat) (s : State) : UInt32 × UInt32 :=
  if round < 20 then ((s.b &&& s.c) ||| ((~~~s.b) &&& s.d), 0x5A827999)
  else if round < 40 then (s.b ^^^ s.c ^^^ s.d, 0x6ED9EBA1)
  else if round < 60 then ((s.b &&& s.c) ||| (s.b &&& s.d) ||| (s.c &&& s.d), 0x8F1BBCDC)
  else (s.b ^^^ s.c ^^^ s.d, 0xCA62C1D6)

/-- One round with one word of the expanded block. -/
def round (number : Nat) (word : UInt32) (s : State) : State :=
  let (value, constant) := s.mix number
  ⟨rotate s.a 5 + value + s.e + constant + word, s.a, rotate s.b 30, s.c, s.d⟩

end State

/--
The rounds from `number` on.  The window holds the sixteen words that come next: the first one is
used, and the one that follows the window is derived from it.
-/
def rounds (number : Nat) (window : List UInt32) : Nat → State → State
  | 0, s => s
  | left + 1, s =>
    let word := window.headD 0
    let derived :=
      rotate (window.getD 13 0 ^^^ window.getD 8 0 ^^^ window.getD 2 0 ^^^ word) 1
    rounds (number + 1) (window.tail ++ [derived]) left (s.round number word)

/-- The word of four bytes, the first one highest. -/
def wordOf (bytes : List UInt8) : UInt32 :=
  bytes.foldl (fun word byte => word * 256 + byte.toUInt32) 0

/-- Cuts a list into pieces of `size` items; `room` is what the piece at hand still takes. -/
def chunksFrom {α : Type} (size : Nat) (piece : List α) : Nat → List α → List (List α)
  | _, [] => if piece.isEmpty then [] else [piece.reverse]
  | 0, item :: rest => piece.reverse :: chunksFrom size [item] (size - 1) rest
  | room + 1, item :: rest => chunksFrom size (item :: piece) room rest

/-- Cuts a list into pieces of `size` items. -/
def chunks {α : Type} (size : Nat) (items : List α) : List (List α) :=
  chunksFrom size [] size items

/-- The eight bytes of a number, the highest first. -/
def lengthBytes (n : Nat) : List UInt8 :=
  (List.range 8).map fun i => UInt8.ofNat (n >>> (8 * (7 - i)))

/-- A message with its padding: a one bit, zero bits, and the number of bits of the message. -/
def padded (message : List UInt8) : List UInt8 :=
  let zeros := (119 - message.length % 64) % 64
  message ++ 0x80 :: List.replicate zeros 0 ++ lengthBytes (8 * message.length)

/-- Takes a block into the state. -/
def absorb (s : State) (block : List UInt8) : State :=
  s.add (rounds 0 ((chunks 4 block).map wordOf) 80 s)

/-- The two digits of a byte, in base sixteen with small letters. -/
def hexByte (n : Nat) : List Char :=
  [Nat.digitChar (n / 16 % 16), Nat.digitChar (n % 16)]

/-- The eight digits of a word. -/
def hexWord (word : UInt32) : List Char :=
  let n := word.toNat
  hexByte (n / 0x1000000) ++ hexByte (n / 0x10000) ++ hexByte (n / 0x100) ++ hexByte n

/-- The digest of a message in base sixteen. -/
def sha1 (message : List UInt8) : String :=
  let s := (chunks 64 (padded message)).foldl absorb .initial
  .ofList ([s.a, s.b, s.c, s.d, s.e].flatMap hexWord)

end HeaderBindings.Digest
