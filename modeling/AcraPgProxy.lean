import AcraPgProxy.Packet
import AcraPgProxy.Registry
import AcraPgProxy.ClientHandler
import AcraPgProxy.ClientLoop
import AcraPgProxy.DatabaseHandler
import AcraPgProxy.DatabaseLoop
import AcraPgProxy.Startup
import AcraPgProxy.Backend
import AcraPgProxy.Session
import AcraPgProxy.QueueAttribution
import AcraPgProxy.ClientReplies
import AcraPgProxy.ProxySetup
import AcraPgProxy.ExtendedQuery
import AcraPgProxy.ErrorPacket
import AcraPgProxy.ParameterTypes
