import SatipClient.Foundation.Pipe
import SatipClient.PSI.Resync
import SatipClient.PSI.Retune
import SatipClient.PSI.Provenance
import SatipClient.PSI.SharedPmt
import SatipClient.PSI.PatUpdate
import SatipClient.PSI.Collecting
import SatipClient.PSI.Checksum
import SatipClient.Config.Safety
import SatipClient.Config.ServerPids
import SatipClient.Config.Mirror
import SatipClient.Config.PlayDiff
import SatipClient.Config.Slots
import SatipClient.Config.RootToGold
import SatipClient.Config.Threads
import SatipClient.RTP.Signal
import SatipClient.RTP.Rtcp
import SatipClient.RTP.Receivers
import SatipClient.RTP.Write
import SatipClient.RTSP.Requests
import SatipClient.RTSP.Responses
import SatipClient.RTSP.Stream
import SatipClient.RTSP.Session
import SatipClient.RTSP.Frames
import SatipClient.RTSP.SessionId
import SatipClient.RTSP.SetupResponse
import SatipClient.RTSP.ReceiveBuffer
import SatipClient.RTSP.Opening
import SatipClient.RTSP.Backoff
import SatipClient.RTSP.Deadline
import SatipClient.RTSP.Wire
import SatipClient.RTSP.Completion
import SatipClient.RTSP.MainLoop
import SatipClient.RTSP.KeepAlive
import SatipClient.Timer.Poll
import SatipClient.Timer.Sweep
import SatipClient.Vtuner.LockTimeout
import SatipClient.Vtuner.Band
import SatipClient.Options.Available
import SatipClient.Options.RoundTrip
import SatipClient.Session.Loop
import SatipClient.RTSP.Grammar
import SatipClient.Vtuner.Asked
import SatipClient.RTSP.Asked
import SatipClient.RTSP.Recovery
import SatipClient.RTSP.Refresh
import SatipClient.Manager.Descriptors
