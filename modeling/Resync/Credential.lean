import Resync.Error
import Resync.Text.Blank

/-! # Credentials

A backend's stored password is encoded by a codec, which turns it back into the plain
value just before a connection is opened. Decoding ignores blank characters around a
base64 text and asks the bytes to be UTF-8.
-/
namespace Resync

inductive Codec where
  | plain
  | base64
  deriving DecidableEq, Repr

namespace Codec

def asciiText (bytes : List UInt8) : String :=
  String.ofList (bytes.map fun b => Char.ofNat b.toNat)

def encode : Codec → String → String
  | .plain, s => s
  | .base64, s => asciiText (Base64.encode (Utf8.encode s.toList))

def decode : Codec → String → Except CodecFault String
  | .plain, s => .ok s
  | .base64, s =>
    match Base64.decode (Utf8.encode (Text.trim s).toList) with
    | .error f => .error (.base64 f)
    | .ok bytes =>
      match Utf8.decode bytes with
      | .error f => .error (.utf8 f)
      | .ok cs => .ok (String.ofList cs)

end Codec
end Resync
