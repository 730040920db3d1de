import VideoSurveillance.Library.Runs
import VideoSurveillance.Client.FrameBuffer
import VideoSurveillance.Library.Reentrant
import VideoSurveillance.Client.CameraModes
import VideoSurveillance.Client.Playout
import VideoSurveillance.Client.ServerWriter
import VideoSurveillance.Client.Symmetry
import VideoSurveillance.Client.ServerReader
import VideoSurveillance.Library.LowestFree
import VideoSurveillance.Server.ModeHandler
import VideoSurveillance.Server.Sockets
import VideoSurveillance.System.ModeAgreement
import VideoSurveillance.System.WireFormat
import VideoSurveillance.Client.Settings
import VideoSurveillance.Client.Disconnect
import VideoSurveillance.System.Sessions
import VideoSurveillance.System.CutStream
import VideoSurveillance.Client.FrameQueue
import VideoSurveillance.Client.ArrivalOrder
import VideoSurveillance.Library.Accumulate
import VideoSurveillance.Server.MotionScore
import VideoSurveillance.Server.HeaderSnapshot
import VideoSurveillance.Server.SocketMutex
import VideoSurveillance.Server.SocketListener
import VideoSurveillance.Client.AutoSwitching
import VideoSurveillance.Client.PlayoutDelay
import VideoSurveillance.System.MotionEpisodes
import VideoSurveillance.Server.WebListener
import VideoSurveillance.Library.CriticalSection
import VideoSurveillance.Server.ModeMutex
import VideoSurveillance.Library.LinkedList
import VideoSurveillance.Server.CallbackList
import VideoSurveillance.Library.Amortized
import VideoSurveillance.System.TwoCameras
import VideoSurveillance.System.ModeSettling
import VideoSurveillance.Client.Display
import VideoSurveillance.System.Surveillance
import VideoSurveillance.System.PlayoutIsolation
import VideoSurveillance.Library.WaitSet
import VideoSurveillance.Client.Threads
import VideoSurveillance.System.Recovery
import VideoSurveillance.Library.Head
import VideoSurveillance.Server.WebServer
import VideoSurveillance.Server.Descriptors
import VideoSurveillance.Server.SessionEnd
import VideoSurveillance.Server.CameraServer
import VideoSurveillance.Client.ScreenRuns
