import Resync.Credential
import Resync.Snapshot.Cache
import Resync.Text.Json

/-! # Settings

What can be configured, with the values that hold unless a document says otherwise.
-/
namespace Resync

structure CacheSettings where
  strategy : CacheStrategy := .eager
  deriving DecidableEq, Repr

structure CodecSettings where
  kind : Codec := .plain
  deriving DecidableEq, Repr

def defaultFilter : String := "info"

structure LogSettings where
  filter : String := defaultFilter
  json : Bool := false
  deriving DecidableEq, Repr

structure Settings where
  cache : CacheSettings := {}
  codec : CodecSettings := {}
  logging : LogSettings := {}
  deriving DecidableEq, Repr

def CacheStrategy.names : List (String × CacheStrategy) := [("none", .none), ("eager", .eager)]

def CacheStrategy.name : CacheStrategy → String
  | .none => "none"
  | .eager => "eager"

def Codec.names : List (String × Codec) := [("plain", .plain), ("base64", .base64)]

def Codec.name : Codec → String
  | .plain => "plain"
  | .base64 => "base64"

def Settings.json (s : Settings) : Json :=
  .obj [
    ("cache", .obj [("strategy", .str s.cache.strategy.name)]),
    ("codec", .obj [("kind", .str s.codec.kind.name)]),
    ("logging", .obj [("filter", .str s.logging.filter), ("json", .bool s.logging.json)])]

end Resync
