import EngineSdk.Api.Basic
import EngineSdk.Api.Codes
import EngineSdk.Api.Config
import EngineSdk.Api.Constants
import EngineSdk.Api.Containers
import EngineSdk.Api.Convar
import EngineSdk.Api.Dispatch
import EngineSdk.Api.Engine
import EngineSdk.Api.EngineBoot
import EngineSdk.Api.EngineEntities
import EngineSdk.Api.EngineFiles
import EngineSdk.Api.EngineState
import EngineSdk.Api.EngineWorld
import EngineSdk.Api.EngineWrappers
import EngineSdk.Api.EntityList
import EngineSdk.Api.Gamedata
import EngineSdk.Api.Interfaces
import EngineSdk.Api.Listeners
import EngineSdk.Api.Math
import EngineSdk.Api.NetClass
import EngineSdk.Api.Netvar
import EngineSdk.Api.Studio
import EngineSdk.Bytes.Cell
import EngineSdk.Bytes.Layout
import EngineSdk.Bytes.LittleEndian
import EngineSdk.Config.Core
import EngineSdk.Config.Plugin
import EngineSdk.Config.Store
import EngineSdk.Container.Block
import EngineSdk.Container.ByteBuffer
import EngineSdk.Convar.Basic
import EngineSdk.Decimal.Nearest
import EngineSdk.Decimal.Notation
import EngineSdk.Decimal.Shortest
import EngineSdk.Engine.GlobalVars
import EngineSdk.Entity.Handle
import EngineSdk.Entity.List
import EngineSdk.Entity.Netvars
import EngineSdk.Game.Codes
import EngineSdk.Game.MaterialFlags
import EngineSdk.Gamedata.Basic
import EngineSdk.Gamedata.Error
import EngineSdk.Gamedata.Locate
import EngineSdk.Gamedata.Pattern
import EngineSdk.Host.Files
import EngineSdk.Host.Io
import EngineSdk.Host.Module
import EngineSdk.Host.Path
import EngineSdk.Interface.Factory
import EngineSdk.Interface.Table
import EngineSdk.Json.Basic
import EngineSdk.Json.Decode
import EngineSdk.Json.Reader
import EngineSdk.Listener.Registry
import EngineSdk.Listener.Dispatch
import EngineSdk.Math.Angles
import EngineSdk.Math.Matrix
import EngineSdk.Math.Single
import EngineSdk.Math.Vec
import EngineSdk.NetClass.Args
import EngineSdk.NetClass.Expand
import EngineSdk.NetClass.Grammar
import EngineSdk.NetClass.Item
import EngineSdk.NetClass.Literal
import EngineSdk.NetClass.Reader
import EngineSdk.NetClass.Token
import EngineSdk.Netvar.Field
import EngineSdk.Netvar.Hash
import EngineSdk.Netvar.Offsets
import EngineSdk.Netvar.Table
import EngineSdk.Panic
import EngineSdk.Proofs.OffsetCache
import EngineSdk.Sdk.Startup
import EngineSdk.Session.Client
import EngineSdk.Session.Entities
import EngineSdk.Session.Netvars
import EngineSdk.Session.Plugin
import EngineSdk.Session.Startup
import EngineSdk.Session.State
import EngineSdk.StandIn.Calls
import EngineSdk.StandIn.Modules
import EngineSdk.StandIn.World
import EngineSdk.Studio.Model
import EngineSdk.Studio.Memory
import EngineSdk.Text.Blank
import EngineSdk.Text.CString
import EngineSdk.Text.Debug
import EngineSdk.Text.Hex
import EngineSdk.Text.Similarity
import EngineSdk.Text.Unicode
import EngineSdk.Unicode.RangeSet
import EngineSdk.Unicode.Printable
import EngineSdk.Unicode.Grapheme
import EngineSdk.Unicode.Ident
import EngineSdk.Unicode.Case
import EngineSdk.Text.Utf8
import EngineSdk.Toml.Document
import EngineSdk.Toml.Grammar
import EngineSdk.Toml.Lexical
import EngineSdk.Toml.Quote
import EngineSdk.Toml.Report
import EngineSdk.Toml.Scan
import EngineSdk.Toml.Value
import EngineSdk.Proofs.ByteBuffer
import EngineSdk.Proofs.Utf8
import EngineSdk.Proofs.BufferRoundTrip
import EngineSdk.Proofs.Resolution
import EngineSdk.Proofs.Listeners
import EngineSdk.Proofs.Startup
import EngineSdk.Proofs.Lifecycle
import EngineSdk.Proofs.NetClassExpansion
import EngineSdk.Proofs.TableSearch
import EngineSdk.Proofs.BufferFailures
import EngineSdk.Proofs.SignatureLocation
import EngineSdk.Proofs.PatternSyntax
import EngineSdk.Proofs.TableListing
import EngineSdk.Proofs.LinkedWalk
import EngineSdk.Proofs.InterfaceLoading
import EngineSdk.Proofs.EntityWalk
import EngineSdk.Proofs.NetClassNames
import EngineSdk.Proofs.Codecs
import EngineSdk.Proofs.BlockViews
import EngineSdk.Proofs.GamedataLoading
import EngineSdk.Proofs.FieldSlots
import EngineSdk.Proofs.StudioAddressing
import EngineSdk.Proofs.ConVarAliases
