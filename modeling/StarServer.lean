import StarServer.Crc.Table
import StarServer.Socket.Packing
import StarServer.Socket.RoundTrip
import StarServer.Socket.FileFrame
import StarServer.Socket.ReceiveBounds
import StarServer.Socket.FileTransfer
import StarServer.Socket.Headers
import StarServer.Socket.AtMostOnce
import StarServer.Framing.Stream
import StarServer.Socket.InputSync
import StarServer.Socket.Writes
import StarServer.Socket.OutputFraming
import StarServer.Socket.Retransmit
import StarServer.Socket.Alike
import StarServer.Socket.AlikeReceive
import StarServer.Socket.AlikeMessage
import StarServer.Socket.SlotReuse
import StarServer.Socket.Resend
import StarServer.Socket.BitErrors
import StarServer.Socket.BigUpload
import StarServer.Socket.Segments
import StarServer.Socket.Interleaved
import StarServer.Framing.Tagged
import StarServer.Socket.WireWriters
import StarServer.Accept.Exclusive
import StarServer.Accept.LoginCount
import StarServer.Database.Pool
import StarServer.Socket.SystemMessages
import StarServer.Database.Available
import StarServer.Database.Holders
import StarServer.Lobby.Rooms
import StarServer.Lobby.Create
import StarServer.Socket.BigPool
import StarServer.Framing.Joined
import StarServer.Socket.InPlace
import StarServer.Socket.Rejoin
import StarServer.Socket.EmptyMessages
import StarServer.Socket.WholeMessages
import StarServer.Socket.FileChunks
import StarServer.Socket.Registration
import StarServer.Socket.UploadBounds
import StarServer.Socket.UploadPath
import StarServer.Socket.Duplicate
import StarServer.Socket.BlockingRead
import StarServer.Runs.Prefixes
import StarServer.Socket.DeadPeer
import StarServer.Database.Executions
import StarServer.Socket.SharedSize
import StarServer.Database.RowAccess
import StarServer.Database.Rejected
import StarServer.Socket.SavedFile
import StarServer.Lobby.JoinRoom
import StarServer.Lobby.RoomCount
import StarServer.Config.Lookup
import StarServer.Config.Lines
import StarServer.Accept.SlotIndex
import StarServer.Config.Memory
import StarServer.Runs.Components
import StarServer.Socket.Apart
import StarServer.Socket.DataFrame
import StarServer.Socket.Delivery
import StarServer.Socket.Together
import StarServer.Socket.Arrival
import StarServer.Runs.SpinFlag
import StarServer.Socket.Answers
import StarServer.Socket.PoolLock
import StarServer.Runs.Service
import StarServer.Socket.Served
import StarServer.Config.ReadConfig
import StarServer.Config.Sheet
import StarServer.Crc.Bursts
import StarServer.Crc.Missed
import StarServer.Socket.Game
