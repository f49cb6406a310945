import NightWatcher.Lib.Throwing
import NightWatcher.Lib.Gregorian
import NightWatcher.Lib.DecimalText
import NightWatcher.Export.TimeUtil
import NightWatcher.Json
import NightWatcher.Db.Tables
import NightWatcher.World
import NightWatcher.Db.Database
import NightWatcher.Export.DsnFormat
import NightWatcher.Export.Exporter
import NightWatcher.Export.Runner
import NightWatcher.Export.Push
import NightWatcher.Export.System
import NightWatcher.Lib.Watermark
import NightWatcher.Export.Incremental
import NightWatcher.Export.Monthly
import NightWatcher.Export.Convergence
import NightWatcher.Export.Retention
import NightWatcher.Daemon.Workers
import NightWatcher.Api.Auth
import NightWatcher.Api.Rendering
import NightWatcher.Api.Sensors
import NightWatcher.Api.Server
import NightWatcher.Api.Guard
import NightWatcher.Lib.Transcript
import NightWatcher.Api.Accounts
import NightWatcher.Api.NoAdmin
import NightWatcher.Api.MustChange
import NightWatcher.Api.Admins
import NightWatcher.Api.Polling
import NightWatcher.Daemon.Reload
import NightWatcher.Daemon.Signals
import NightWatcher.Export.Interleaved
import NightWatcher.Daemon.Drivers
import NightWatcher.Export.Ambient
import NightWatcher.Api.Configs
import NightWatcher.Api.Views
import NightWatcher.Api.Strangers
import NightWatcher.Api.Credentials
import NightWatcher.Lib.SqlText
import NightWatcher.Db.Backup
import NightWatcher.Db.LiveBackup
import NightWatcher.Api.Redaction
import NightWatcher.Api.SettingsUpdate
import NightWatcher.Api.SensorEdits
import NightWatcher.Lib.NumberText
import NightWatcher.Sqm.Protocol
import NightWatcher.Sqm.Acceptance
import NightWatcher.Sqm.Columns
import NightWatcher.Db.Precision
import NightWatcher.Api.CalibrationSet
import NightWatcher.Daemon.Connection
import NightWatcher.Sqm.Simulator
import NightWatcher.Export.NextRun
import NightWatcher.Daemon.Backoff
import NightWatcher.Lib.Framing
import NightWatcher.Sqm.Transport
import NightWatcher.Export.DsnFile
import NightWatcher.Export.MonthFiles
import NightWatcher.Export.Outbox
import NightWatcher.Export.Gdrive
import NightWatcher.Web.CoLocated
import NightWatcher.Daemon.ApiServer
import NightWatcher.Api.Cookies
import NightWatcher.Api.Proxy
import NightWatcher.Api.ProxyQuery
import NightWatcher.Auth.Password
import NightWatcher.Db.SchemaScript
import NightWatcher.Lib.Ipv4
import NightWatcher.Lib.Sweep
import NightWatcher.Sqm.Discovery
import NightWatcher.Web.Graph
import NightWatcher.Api.SensorRepost
import NightWatcher.Daemon.CertFiles
import NightWatcher.Daemon.ConfigFile
import NightWatcher.Daemon.SetIni
import NightWatcher.Cli.GdriveAuth
import NightWatcher.Db.Writes
import NightWatcher.Db.Integrity
import NightWatcher.Db.Archive
import NightWatcher.Api.Touches
import NightWatcher.Daemon.Activity
import NightWatcher.Daemon.Sessions
import NightWatcher.Lib.WorkPool
import NightWatcher.Sqm.Scan
import NightWatcher.Lib.SqlStatement
import NightWatcher.Db.Statements
import NightWatcher.Daemon.ExportLog
import NightWatcher.Lib.Simulation
import NightWatcher.Export.DriveFiles
import NightWatcher.Daemon.Passwords
import NightWatcher.Lib.Multipart
import NightWatcher.Lib.Base64
import NightWatcher.Export.DriveRequests
import NightWatcher.Weather.Fetch
