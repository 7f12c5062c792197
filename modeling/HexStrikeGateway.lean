import HexStrikeGateway.Json
import HexStrikeGateway.Policy.Engine
import HexStrikeGateway.Policy.Laws
import HexStrikeGateway.Policy.Glob
import HexStrikeGateway.Policy.Cache
import HexStrikeGateway.Http.Body
import HexStrikeGateway.Http.Message
import HexStrikeGateway.Aperture.CircuitBreaker
import HexStrikeGateway.Proxy.Handler
import HexStrikeGateway.Proxy.Bridge
import HexStrikeGateway.Proxy.Lockstep
import HexStrikeGateway.Proxy.Delivery
import HexStrikeGateway.Gateway.Chain
import HexStrikeGateway.Gateway.Server
import HexStrikeGateway.Gateway.Isolation
import HexStrikeGateway.Gateway.Progress
import HexStrikeGateway.Credentials.Resolvers
import HexStrikeGateway.Credentials.Broker
