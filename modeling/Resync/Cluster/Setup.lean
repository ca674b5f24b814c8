import Resync.Cluster.World
import Resync.Config.Settings

/-! # Setting up a cluster

A new cluster has nothing in its cache and no connections. Its codec and its caching
follow the settings, unless they are replaced.
-/
namespace Resync.Cluster

def ofSettings (id : String) (s : Settings) (backends : Assoc String Backend)
    (active : ActiveSet) : Cluster where
  id := id
  codec := s.codec.kind
  world := { backends, active, cache := { strategy := s.cache.strategy } }

def withCodec (c : Cluster) (codec : Codec) : Cluster := { c with codec }

def withCache (c : Cluster) (strategy : CacheStrategy) : Cluster :=
  { c with world := { c.world with cache := { strategy } } }

end Resync.Cluster
