/-! # UTF-8

Bytes and characters. Decoding is strict and says where it stops: `invalid n i` when the
`n` bytes from index `i` are the start of no character, or not the start of one that the
next byte continues, and `incomplete i` when the bytes end inside a character that began
at index `i`.
-/
namespace Resync.Utf8

inductive Fault where
  | invalid (length index : Nat)
  | incomplete (index : Nat)
  deriving DecidableEq, Repr

def Fault.message : Fault → String
  | .invalid n i => s!"invalid utf-8 sequence of {n} bytes from index {i}"
  | .incomplete i => s!"incomplete utf-8 byte sequence from index {i}"

def encode (cs : List Char) : List UInt8 := cs.flatMap String.utf8EncodeChar

def isContinuation (b : UInt8) : Bool := 0x80 ≤ b && b ≤ 0xBF

def follows3 (a b : UInt8) : Bool :=
  isContinuation b && !(a == 0xE0 && b < 0xA0) && !(a == 0xED && 0x9F < b)

def follows4 (a b : UInt8) : Bool :=
  isContinuation b && !(a == 0xF0 && b < 0x90) && !(a == 0xF4 && 0x8F < b)

def payload (b : UInt8) : Nat := b.toNat % 0x40

def decodeFrom (i : Nat) (bytes : List UInt8) : Except Fault (List Char) :=
  match bytes with
  | [] => .ok []
  | a :: rest =>
    if a < 0x80 then
      (decodeFrom (i + 1) rest).map (Char.ofNat a.toNat :: ·)
    else if 0xC2 ≤ a && a ≤ 0xDF then
      match rest with
      | [] => .error (.incomplete i)
      | b :: rest =>
        if isContinuation b then
          (decodeFrom (i + 2) rest).map
            (Char.ofNat (a.toNat % 0x20 * 0x40 + payload b) :: ·)
        else .error (.invalid 1 i)
    else if 0xE0 ≤ a && a ≤ 0xEF then
      match rest with
      | [] => .error (.incomplete i)
      | b :: rest =>
        if follows3 a b then
          match rest with
          | [] => .error (.incomplete i)
          | c :: rest =>
            if isContinuation c then
              (decodeFrom (i + 3) rest).map
                (Char.ofNat ((a.toNat % 0x10 * 0x40 + payload b) * 0x40 + payload c) :: ·)
            else .error (.invalid 2 i)
        else .error (.invalid 1 i)
    else if 0xF0 ≤ a && a ≤ 0xF4 then
      match rest with
      | [] => .error (.incomplete i)
      | b :: rest =>
        if follows4 a b then
          match rest with
          | [] => .error (.incomplete i)
          | c :: rest =>
            if isContinuation c then
              match rest with
              | [] => .error (.incomplete i)
              | d :: rest =>
                if isContinuation d then
                  (decodeFrom (i + 4) rest).map
                    (Char.ofNat (((a.toNat % 0x08 * 0x40 + payload b) * 0x40 + payload c) * 0x40 +
                      payload d) :: ·)
                else .error (.invalid 3 i)
            else .error (.invalid 2 i)
        else .error (.invalid 1 i)
    else .error (.invalid 1 i)

def decode (bytes : List UInt8) : Except Fault (List Char) := decodeFrom 0 bytes

end Resync.Utf8
