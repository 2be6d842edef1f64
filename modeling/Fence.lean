import Fence.Python
import Fence.Prog
import Fence.Jwt.Collab
import Fence.Jwt.Validate
import Fence.Jwt.Phases
import Fence.Jwt.Accept
import Fence.Jwt.Fallback
import Fence.Jwt.Errors
import Fence.Jwt.Calls
import Fence.Jwt.Protocol
import Fence.Jwt.Complete
import Fence.Jwt.Round
