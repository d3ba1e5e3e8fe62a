import NffNat.Go.Basic
import NffNat.Go.Net
import NffNat.Types
import NffNat.Prefix
import NffNat.Config.Defs
import NffNat.Config.Unmarshal
import NffNat.Config.Render
import NffNat.Config.Read
import NffNat.Config.InitFlows
import NffNat.Go.Flow
import NffNat.Config.Pipeline
