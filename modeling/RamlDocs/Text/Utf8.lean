/-!
# Decoding UTF-8

`Utf8.decode` reads a sequence of bytes as text. The first bytes that are no UTF-8 are reported
with their place and the reason; `Utf8.decodeLossy` puts the replacement character in their place
and goes on.
-/

namespace RamlDocs.Utf8

/-- Why bytes are no UTF-8. -/
inductive Reason where
  | start
  | continuation
  | endOfData
  deriving DecidableEq, Repr

/-- The wording of a reason. -/
def Reason.message : Reason → String
  | .start => "invalid start byte"
  | .continuation => "invalid continuation byte"
  | .endOfData => "unexpected end of data"

/-- Bytes that are no UTF-8: the first of them, how many, and why. -/
structure Bad where
  byte : Nat
  count : Nat
  reason : Reason
  deriving DecidableEq, Repr

/-- How many bytes follow a first byte, with the payload of the first byte and the range of the
second. -/
def lead? (b : Nat) : Option (Nat × Nat × Nat × Nat) :=
  if 0xc2 ≤ b && b < 0xe0 then some (1, b - 0xc0, 0x80, 0xc0)
  else if b == 0xe0 then some (2, 0, 0xa0, 0xc0)
  else if b == 0xed then some (2, 13, 0x80, 0xa0)
  else if 0xe1 ≤ b && b < 0xf0 then some (2, b - 0xe0, 0x80, 0xc0)
  else if b == 0xf0 then some (3, 0, 0x90, 0xc0)
  else if 0xf1 ≤ b && b < 0xf4 then some (3, b - 0xf0, 0x80, 0xc0)
  else if b == 0xf4 then some (3, 4, 0x80, 0x90)
  else none

/-- The payload of `more` continuation bytes after `taken` good bytes of a character that began
with the byte `first`. -/
def tails (first : Nat) : Nat → Nat → Nat → Nat → Nat → List Nat → Except Bad (Nat × List Nat)
  | 0, _, _, _, n, bs => .ok (n, bs)
  | _ + 1, taken, _, _, _, [] => .error ⟨first, taken, .endOfData⟩
  | more + 1, taken, low, high, n, b :: bs =>
    if low ≤ b && b < high then tails first more (taken + 1) 0x80 0xc0 (n * 64 + (b - 0x80)) bs
    else .error ⟨first, taken, .continuation⟩

/-- The character at the start of non-empty bytes and the bytes after it. -/
def one (first : Nat) (rest : List Nat) : Except Bad (Char × List Nat) :=
  if first < 0x80 then .ok (Char.ofNat first, rest)
  else
    match lead? first with
    | none => .error ⟨first, 1, .start⟩
    | some (more, payload, low, high) =>
      (tails first more 1 low high payload rest).map fun r => (Char.ofNat r.1, r.2)

/-- The characters of `bytes`, with `fuel` at least their number; a fault carries the number of
bytes from its place on. -/
def decodeFrom : Nat → List Nat → Except (Bad × Nat) (List Char)
  | 0, _ => .ok []
  | _ + 1, [] => .ok []
  | fuel + 1, b :: bs =>
    match one b bs with
    | .error bad => .error (bad, bs.length + 1)
    | .ok (c, rest) => (decodeFrom fuel rest).map (c :: ·)

/-- The text of a sequence of bytes, or the first fault with its offset. -/
def decode (bytes : List Nat) : Except (Bad × Nat) String :=
  match decodeFrom bytes.length bytes with
  | .ok cs => .ok (String.ofList cs)
  | .error (bad, left) => .error (bad, bytes.length - left)

/-- The characters of `bytes`, with the replacement character for each fault. -/
def lossyFrom : Nat → List Nat → List Char
  | 0, _ => []
  | _ + 1, [] => []
  | fuel + 1, b :: bs =>
    match one b bs with
    | .error bad => Char.ofNat 0xfffd :: lossyFrom fuel (bs.drop (bad.count - 1))
    | .ok (c, rest) => c :: lossyFrom fuel rest

/-- The text of a sequence of bytes, with the replacement character for each fault. -/
def decodeLossy (bytes : List Nat) : String := String.ofList (lossyFrom bytes.length bytes)

end RamlDocs.Utf8
