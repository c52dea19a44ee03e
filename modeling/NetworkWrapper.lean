import NetworkWrapper.SessionCallbacks
import NetworkWrapper.Broadcast
import NetworkWrapper.ServerRuns
import NetworkWrapper.WriteRace
import NetworkWrapper.JoinRace
import NetworkWrapper.ClientRuns
import NetworkWrapper.Utf8
import NetworkWrapper.MessageFrames
import NetworkWrapper.TextFrames
import NetworkWrapper.FirstConnect
import NetworkWrapper.Lane
import NetworkWrapper.Link
import NetworkWrapper.Delivery
import NetworkWrapper.WorkerRuns
import NetworkWrapper.ServerRestart
import NetworkWrapper.ClientLocks
import NetworkWrapper.ClientLife
import NetworkWrapper.ClientOwners
import NetworkWrapper.Isolation
import NetworkWrapper.WasmSockets
import NetworkWrapper.FinalDisconnect
import NetworkWrapper.ClientParity
import NetworkWrapper.SessionOwners
import NetworkWrapper.DownloadProgress
import NetworkWrapper.TcpAccepts
import NetworkWrapper.FileManager
import NetworkWrapper.AcceptEncoding
import NetworkWrapper.HttpFileServer
import NetworkWrapper.FileTree
import NetworkWrapper.StaticFiles
import NetworkWrapper.JsonText
import NetworkWrapper.UriAuthority
import NetworkWrapper.WebSocketConfig
import NetworkWrapper.WakeUps
import NetworkWrapper.WorkerRefinement
import NetworkWrapper.ChatDelivery
import NetworkWrapper.HttpTimeouts
import NetworkWrapper.QueueRefinement
import NetworkWrapper.WriteOrder
import NetworkWrapper.BroadcastOrder
import NetworkWrapper.ServedSessions
import NetworkWrapper.ServerMain
import NetworkWrapper.ChatRest
import NetworkWrapper.WorkerReturns
import NetworkWrapper.ConnectAttempts
import NetworkWrapper.PingPong
