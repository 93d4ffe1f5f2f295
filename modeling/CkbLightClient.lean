import CkbLightClient.Core.Arith
import CkbLightClient.Core.Header
import CkbLightClient.Matcher.Sampling
import CkbLightClient.Matcher.Response
import CkbLightClient.Difficulty.Trend
import CkbLightClient.Difficulty.Tau
import CkbLightClient.Difficulty.Limit
import CkbLightClient.Difficulty.Verify
import CkbLightClient.Protocol.Peer
import CkbLightClient.Protocol.Execute
import CkbLightClient.Protocol.Rejection
import CkbLightClient.Protocol.Commit
import CkbLightClient.Protocol.Moves
import CkbLightClient.Protocol.Rounds
import CkbLightClient.Protocol.Transactions
import CkbLightClient.Protocol.Registry
import CkbLightClient.Transaction.Resolve
