import ProxyTunnel.Intercept.HostProgram
import ProxyTunnel.Main
import ProxyTunnel.Network.LocalServer
import ProxyTunnel.Proofs.Response.HeadText
import ProxyTunnel.Proofs.Response.Spans
import ProxyTunnel.Proofs.Response.Course
import ProxyTunnel.Proofs.Response.Tokenizer
import ProxyTunnel.Proofs.Network.Works
import ProxyTunnel.Proofs.Network.Remarks
import ProxyTunnel.Proofs.Tunnel.Exchange
import ProxyTunnel.Proofs.Tunnel.Guard
import ProxyTunnel.Proofs.Intercept.Redirection
import ProxyTunnel.Proofs.Intercept.Resolution
import ProxyTunnel.Proofs.Response.Block
import ProxyTunnel.Proofs.Network.Reading
import ProxyTunnel.Proofs.Intercept.Transparency
import ProxyTunnel.Proofs.Response.Lookahead
import ProxyTunnel.Proofs.Response.Written
import ProxyTunnel.Proofs.Network.Replies
import ProxyTunnel.Proofs.Network.Sending
import ProxyTunnel.Proofs.Network.Deadline
import ProxyTunnel.Proofs.Tunnel.Stages
import ProxyTunnel.Proofs.Intercept.Restoration
import ProxyTunnel.Proofs.Intercept.Outcome
import ProxyTunnel.Proofs.Request.Framing
import ProxyTunnel.Proofs.Request.ReadBack
import ProxyTunnel.Proofs.Network.Budget
import ProxyTunnel.Proofs.Intercept.Budget
import ProxyTunnel.Proofs.Intercept.Release
import ProxyTunnel.Proofs.Network.Attempts
import ProxyTunnel.Proofs.Tunnel.Lives
import ProxyTunnel.Proofs.Tunnel.LifeCycle
import ProxyTunnel.Proofs.Intercept.Asking
import ProxyTunnel.Proofs.Launch.Handover
import ProxyTunnel.Proofs.Launch.Inheritance
import ProxyTunnel.Proofs.Intercept.History
import ProxyTunnel.Proofs.Intercept.Lifetime
import ProxyTunnel.Proofs.Response.Truncation
import ProxyTunnel.Proofs.Intercept.ShortReply
import ProxyTunnel.Proofs.Response.Endless
import ProxyTunnel.Proofs.Network.Expiry
import ProxyTunnel.Proofs.Tunnel.Expiry
import ProxyTunnel.Proofs.Tunnel.Guards
import ProxyTunnel.Proofs.Intercept.Destination
import ProxyTunnel.Proofs.Response.Skipping
import ProxyTunnel.Proofs.Target.Grammar
import ProxyTunnel.Proofs.Settings.Independence
import ProxyTunnel.Proofs.Settings.Spoiling
import ProxyTunnel.Proofs.Settings.DebugSwitch
import ProxyTunnel.Proofs.Launch.Preloading
import ProxyTunnel.Proofs.Response.Bounds
import ProxyTunnel.Proofs.Network.Delivery
