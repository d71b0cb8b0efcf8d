import CqlBridge.Text.Blank
import CqlBridge.Text.Alnum
import CqlBridge.Text.Escape
import CqlBridge.Number.Binary
import CqlBridge.Number.Shortest
import CqlBridge.Number.FloatText
import CqlBridge.Number.Decimal
import CqlBridge.Number.Read
import CqlBridge.Json.Basic
import CqlBridge.Time.Civil
import CqlBridge.Net.Uuid
import CqlBridge.Net.Inet
import CqlBridge.Codec.Hex
import CqlBridge.Codec.Base64
import CqlBridge.Schema.StoreType
import CqlBridge.Schema.StoreType.Read
import CqlBridge.Schema.SqlType
import CqlBridge.Schema.Mapping
import CqlBridge.Cell.Basic
import CqlBridge.Cell.Render
import CqlBridge.Datum.Basic
import CqlBridge.Datum.Decode
import CqlBridge.Text.Record
import CqlBridge.Text.Digits
import CqlBridge.Text.Search
import CqlBridge.Fault
import CqlBridge.Settings.Basic
import CqlBridge.Settings.Attach
import CqlBridge.Settings.Masked
import CqlBridge.Schema.Names
import CqlBridge.Schema.Column
import CqlBridge.Scan.Source
import CqlBridge.Scan.Arrow
import CqlBridge.Cluster.Basic
import CqlBridge.Cluster.Select
import CqlBridge.Cluster.Answer
import CqlBridge.Discovery
import CqlBridge.Scan.Executor
import CqlBridge.Scan.Shown
import CqlBridge.Catalog.Basic
import CqlBridge.Catalog.Registry
import CqlBridge.TableFunction.Bind
import CqlBridge.Bench
import CqlBridge.Tls.Der
import CqlBridge.Tls.Pem
import CqlBridge.Tls.Curve
import CqlBridge.Tls.Identity
import CqlBridge.Connect
import CqlBridge.Sql.Keyword
import CqlBridge.Sql.Ty
import CqlBridge.Number.Arith
import CqlBridge.Sql.Val
import CqlBridge.Sql.Text
import CqlBridge.Sql.Token
import CqlBridge.Sql.Syntax
import CqlBridge.Sql.Error
import CqlBridge.Sql.Parse
import CqlBridge.Sql.Cast
import CqlBridge.Sql.Naming
import CqlBridge.Sql.Plan
import CqlBridge.Sql.Eval
import CqlBridge.Sql.Suggest
import CqlBridge.Sql.Catalog
import CqlBridge.Sql.Typing
import CqlBridge.Sql.Bind
import CqlBridge.Sql.Exec
import CqlBridge.Sql.Run
import CqlBridge.Sql.Cells
import CqlBridge.TableFunction.Host
import CqlBridge.Yaml.Syntax
import CqlBridge.Yaml.Scanner
import CqlBridge.Yaml.Parser
import CqlBridge.Yaml.Document
import CqlBridge.Shell.Env
import CqlBridge.Shell.DotEnv
import CqlBridge.Shell.Config
import CqlBridge.Shell.Invocation
import CqlBridge.Shell.Report
import CqlBridge.Shell.Disk
import CqlBridge.Shell.Workdir
import CqlBridge.Shell.Run
import CqlBridge.Main
import CqlBridge.Proofs.Decode
import CqlBridge.Proofs.Text
import CqlBridge.Proofs.ScanStatement
import CqlBridge.Proofs.TypeText
import CqlBridge.Proofs.ScanBatch
import CqlBridge.Proofs.ScanRun
import CqlBridge.Proofs.Describe
import CqlBridge.Proofs.TableScan
import CqlBridge.Proofs.ScanFailure
import CqlBridge.Proofs.DescribeAnswer
import CqlBridge.Proofs.TypeName
import CqlBridge.Proofs.IntegerFit
import CqlBridge.Proofs.DecimalText
import CqlBridge.Proofs.SelectRead
import CqlBridge.Proofs.WrittenStatements
import CqlBridge.Proofs.SelectAnswer
import CqlBridge.Proofs.Temporal
import CqlBridge.Proofs.QuotedName
import CqlBridge.Proofs.ReaderFault
import CqlBridge.Proofs.ClusterCrash
import CqlBridge.Proofs.SettingsFields
import CqlBridge.Proofs.AttachOrder
import CqlBridge.Proofs.SettingsLayers
import CqlBridge.Proofs.AttachSecrets
import CqlBridge.Proofs.PrimaryKey
import CqlBridge.Proofs.UuidOrder
import CqlBridge.Proofs.ChunkTransfer
import CqlBridge.Proofs.MapJson
