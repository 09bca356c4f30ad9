import Mtp2.Codec
import Mtp2.Link
import Mtp2.Lib.Run
import Mtp2.Lib.Bucket
import Mtp2.ErrorRate
import Mtp2.Attempts
import Mtp2.Requests
import Mtp2.Outbound
import Mtp2.Backlog
import Mtp2.Window
import Mtp2.Lib.SlidingWindow
import Mtp2.Lib.GoBackN
import Mtp2.Sweep
import Mtp2.Rounds
import Mtp2.LinkStep
import Mtp2.Timers
import Mtp2.Proving
import Mtp2.Moves
import Mtp2.History
import Mtp2.Delivery
import Mtp2.Undisturbed
import Mtp2.LinkPair
import Mtp2.Silence
import Mtp2.Acknowledge
import Mtp2.Format
import Mtp2.Queue
import Mtp2.Lib.Log
import Mtp2.EventLog
import Mtp2.Lib.Countdown
import Mtp2.Expiry
import Mtp2.Congestion
import Mtp2.Lockstep
import Mtp2.Alignment
import Mtp2.Upkeep
import Mtp2.Outage
import Mtp2.Lib.Pipes
import Mtp2.Follow
import Mtp2.Duplex
import Mtp2.Lib.Rank
import Mtp2.Drain
import Mtp2.Agreement
import Mtp2.Emergency
import Mtp2.Restart
import Mtp2.Python
import Mtp2.Wire
import Mtp2.Lib.Lossless
import Mtp2.Lib.Fifo
import Mtp2.BasicPair
import Mtp2.Service
import Mtp2.Hold
import Mtp2.Load
import Mtp2.Overrun
