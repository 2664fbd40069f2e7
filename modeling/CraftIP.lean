import CraftIP.Lib.StreamDecoder
import CraftIP.Lib.ByteBuf
import CraftIP.Lib.Incremental
import CraftIP.Lib.Leb128
import CraftIP.Lib.Unicode
import CraftIP.Lib.FixInt
import CraftIP.SocketPacket
import CraftIP.PacketCodec
import CraftIP.Bincode
import CraftIP.SocketPacket.WireForm
import CraftIP.Cursor
import CraftIP.Cursor.Varint
import CraftIP.Cursor.Strings
import CraftIP.Cursor.Put
import CraftIP.Minecraft
import CraftIP.Minecraft.Handshake
import CraftIP.Minecraft.Legacy
import CraftIP.Minecraft.Stability
import CraftIP.Minecraft.Accepted
import CraftIP.Minecraft.Response
import CraftIP.Lib.Slots
import CraftIP.Lib.IdMap
import CraftIP.Register
import CraftIP.ProxyHandler
import CraftIP.ProxyHandler.Distributor
import CraftIP.ClientHandler
import CraftIP.ClientHandler.FirstPacket
import CraftIP.DisconnectClient
import CraftIP.DisconnectClient.Ping
import CraftIP.Lib.Lts
import CraftIP.Lib.Outbox
import CraftIP.ProxyHandler.Writer
import CraftIP.ClientHandler.Writer
import CraftIP.Link
import CraftIP.Client
import CraftIP.Client.Reader
import CraftIP.Gui
import CraftIP.Gui.ConnectionLoop
import CraftIP.Gui.Controller
import CraftIP.Gui.Active
import CraftIP.Gui.ActiveClient
import CraftIP.Gui.Shown
import CraftIP.Session
import CraftIP.Client.Writer
import CraftIP.Session.Frames
import CraftIP.Session.Downlink
import CraftIP.Session.Removal
import CraftIP.Session.Removed
import CraftIP.Session.Occupied
import CraftIP.Lib.Monitor
import CraftIP.Session.Uplink
import CraftIP.Session.Serving
import CraftIP.Session.Full
import CraftIP.Session.Assigned
import CraftIP.Session.Bytes
import CraftIP.Session.Forward
import CraftIP.Session.Backend
import CraftIP.Session.Backward
import CraftIP.Session.Delivery
import CraftIP.Session.Lossless
import CraftIP.Session.Wire
import CraftIP.Session.Exchange
import CraftIP.Session.Requests
import CraftIP.Lib.Measure
import CraftIP.Session.Drain
import CraftIP.Session.Rest
import CraftIP.Session.Agreement
import CraftIP.Session.Tables
import CraftIP.Session.Exchanged
import CraftIP.Gui.PlayerCount
import CraftIP.Session.Flushed
import CraftIP.Crypto
import CraftIP.Register.Spelling
import CraftIP.Server
import CraftIP.Server.Registration
import CraftIP.Server.Authentication
import CraftIP.Server.Detection
import CraftIP.System
import CraftIP.System.Routing
import CraftIP.System.CleanUp
import CraftIP.Client.Login
import CraftIP.Gui.Identity
import CraftIP.Gui.MyApp
import CraftIP.Lib.Digest
import CraftIP.Lib.BufWriter
import CraftIP.Updater
import CraftIP.Updater.Decompress
import CraftIP.UpdateTool
import CraftIP.UpdateTool.Release
import CraftIP.Client.Ping
import CraftIP.UpdateTool.Distribution
import CraftIP.System.ClientCount
