import NssAAF.Lib.Transducer
import NssAAF.Lib.History
import NssAAF.Lib.Interleaving
import NssAAF.Lib.Mutex
import NssAAF.Lib.Lockstep
import NssAAF.Lib.Fairness
import NssAAF.Lib.Loop
import NssAAF.Lib.Results
import NssAAF.Lib.Logged
import NssAAF.Lib.Table
import NssAAF.Lib.Transaction
import NssAAF.Lib.Lease
import NssAAF.Lib.Wrapping
import NssAAF.Lib.Bytes
import NssAAF.Lib.Slice
import NssAAF.Lib.Base64
import NssAAF.Lib.Hex
import NssAAF.Lib.Scan
import NssAAF.Lib.UrlPath
import NssAAF.Lib.Sha256
import NssAAF.Lib.Md5
import NssAAF.Eap.Codec
import NssAAF.Eap.Fragment
import NssAAF.Eap.FragmentRuns
import NssAAF.Eap.FragmentManager
import NssAAF.Eap.FragmentIsolation
import NssAAF.Eap.Session
import NssAAF.Eap.Engine
import NssAAF.Eap.Transitions
import NssAAF.Eap.Runs
import NssAAF.Eap.Lifecycle
import NssAAF.Eap.Verdict
import NssAAF.Eap.Retry
import NssAAF.Eap.Rounds
import NssAAF.Eap.Relay
import NssAAF.Eap.Concurrent
import NssAAF.Eap.Stores
import NssAAF.Radius.Attribute
import NssAAF.Radius.Client
import NssAAF.Radius.MessageAuth
import NssAAF.Radius.Area
import NssAAF.Radius.Patch
import NssAAF.Radius.Editing
import NssAAF.Aaa.Forward
import NssAAF.Aaa.RadiusRequest
import NssAAF.Aaa.CoA
import NssAAF.Aaa.CoAPackets
import NssAAF.Aaa.CoAListen
import NssAAF.Aaa.Registry
import NssAAF.Aaa.DiamLink
import NssAAF.Aaa.DiamForward
import NssAAF.Aaa.DiamLoss
import NssAAF.Aaa.DiamReceive
import NssAAF.Aaa.Dlq
import NssAAF.Crypto.Aead
import NssAAF.Crypto.Envelope
import NssAAF.Crypto.KeyRotation
import NssAAF.Storage.Nssaa
import NssAAF.Storage.NssaaRoundTrip
import NssAAF.Storage.Sessions
import NssAAF.Storage.NssaaConcurrent
import NssAAF.Storage.Aiw
import NssAAF.Storage.AaaConfig
import NssAAF.Storage.AaaConfigRoundTrip
import NssAAF.Storage.Migrate
import NssAAF.Storage.MigrateRollback
import NssAAF.Api.Common
import NssAAF.Diameter.Snssai
import NssAAF.Nssaa.Handler
import NssAAF.Nssaa.SnssaiKey
import NssAAF.Nssaa.Identity
import NssAAF.Aiw.Handler
import NssAAF.Aiw.Service
import NssAAF.Biz.AaaClient
import NssAAF.Biz.AaaSession
import NssAAF.Biz.ServerInitiated
import NssAAF.Biz.Effects
import NssAAF.Biz.Revocation
import NssAAF.Biz.StatusMachine
import NssAAF.Biz.FailedDecryption
import NssAAF.Biz.ReversePath
import NssAAF.Biz.Router
import NssAAF.Aaa.ServerInitiated
import NssAAF.Aaa.PodRegistry
import NssAAF.Aaa.PodRouting
import NssAAF.Resilience.CircuitBreaker
import NssAAF.Resilience.Retry
import NssAAF.Resilience.Backoff
import NssAAF.Resilience.Requests
import NssAAF.HttpClient.Proxy
import NssAAF.HttpClient.BizRegistry
import NssAAF.HttpClient.AaaClients
import NssAAF.HttpClient.NfProxy
import NssAAF.Cache.RateLimit
import NssAAF.Cache.Lock
import NssAAF.Auth.Middleware
import NssAAF.Auth.Jwks
import NssAAF.Auth.JwksRotation
import NssAAF.Amf.Dlq
import NssAAF.Amf.Shutdown
import NssAAF.Amf.Notify
import NssAAF.Amf.ClientErrors
import NssAAF.Nrf.Heartbeat
import NssAAF.Nrf.Backoff
import NssAAF.Nrf.Etag
import NssAAF.Nrf.Discovery
import NssAAF.Nrm.AlarmStore
import NssAAF.Nrm.AlarmDedup
import NssAAF.Nrm.AlarmManager
import NssAAF.Nrm.BreakerAlarm
import NssAAF.Debug.Sanitize
