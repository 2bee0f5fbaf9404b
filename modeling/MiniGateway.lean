import MiniGateway.Support.Text
import MiniGateway.Support.Utf8
import MiniGateway.Support.Base64
import MiniGateway.Support.Glob
import MiniGateway.Support.Regex
import MiniGateway.Support.Url
import MiniGateway.Support.Http
import MiniGateway.Support.RateLimit
import MiniGateway.Support.Store
import MiniGateway.Support.Json
import MiniGateway.Support.JsonText
import MiniGateway.Support.Concurrent
import MiniGateway.Support.Runs
import MiniGateway.Support.Rounds
import MiniGateway.Support.Tasks
import MiniGateway.Source.Config
import MiniGateway.Source.World
import MiniGateway.Source.Router
import MiniGateway.Source.Discovery
import MiniGateway.Source.Auth
import MiniGateway.Source.RateLimit
import MiniGateway.Source.Cors
import MiniGateway.Source.Cache
import MiniGateway.Source.Backends
import MiniGateway.Source.Proxy
import MiniGateway.Source.Selection
import MiniGateway.Source.Pool
import MiniGateway.Source.Tls
import MiniGateway.Source.Gateway
import MiniGateway.Source.Server
import MiniGateway.Source.Middleware
import MiniGateway.Source.Services
import MiniGateway.Source.Exporter
import MiniGateway.Properties.Routing
import MiniGateway.Properties.Discovery
import MiniGateway.Properties.Registries
import MiniGateway.Properties.EtcdKeys
import MiniGateway.Properties.Auth
import MiniGateway.Properties.CacheKeys
import MiniGateway.Properties.CachePolicy
import MiniGateway.Properties.Backends
import MiniGateway.Properties.RedisConn
import MiniGateway.Properties.Proxying
import MiniGateway.Properties.Retrying
import MiniGateway.Properties.Pool
import MiniGateway.Properties.PoolLock
import MiniGateway.Properties.Tls
import MiniGateway.Properties.Cors
import MiniGateway.Properties.Pipeline
import MiniGateway.Properties.Stages
import MiniGateway.Properties.Exits
import MiniGateway.Properties.Unwraps
import MiniGateway.Properties.Accounting
import MiniGateway.Properties.Scraping
import MiniGateway.Properties.Answers
import MiniGateway.Properties.CrossOrigin
import MiniGateway.Properties.Enforcement
import MiniGateway.Properties.AuthService
import MiniGateway.Properties.Stack
import MiniGateway.Properties.Balancing
import MiniGateway.Properties.Selection
import MiniGateway.Properties.Caching
import MiniGateway.Properties.DotSegments
import MiniGateway.Properties.Limiting
import MiniGateway.Properties.Interleaving
import MiniGateway.Properties.Server
import MiniGateway.Properties.AccessLog
import MiniGateway.Properties.Failures
import MiniGateway.Properties.Forwarding
import MiniGateway.Properties.Redirects
import MiniGateway.Properties.Replay
import MiniGateway.Properties.Provenance
import MiniGateway.Properties.Telemetry
import MiniGateway.Properties.CorsService
import MiniGateway.Properties.Panics
import MiniGateway.Properties.ErrorBodies
