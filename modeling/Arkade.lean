import Arkade.ScriptNum
import Arkade.Stack
import Arkade.Script.Tokenizer
import Arkade.Asset.Opcodes
import Arkade.Asset.Lookup
import Arkade.Asset.Group
import Arkade.Asset.Indices
import Arkade.Asset.Pushes
import Arkade.Engine.State
import Arkade.Engine.Witness
import Arkade.Engine.Step
import Arkade.Engine.Run
import Arkade.Engine.Bounds
import Arkade.Engine.Spend
import Arkade.Engine.SigOps
import Arkade.Sig.Verifier
import Arkade.Sig.Cache
import Arkade.Engine.Push
import Arkade.Engine.Packet
import Arkade.Engine.Legacy
