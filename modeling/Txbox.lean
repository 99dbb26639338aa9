import Txbox.Lib.Prog
import Txbox.Lib.Nested
import Txbox.Lib.SortUniq
import Txbox.Lib.LockOrder
import Txbox.Lib.System
import Txbox.Types
import Txbox.Store
import Txbox.Consumer
import Txbox.Retention
import Txbox.Reference
import Txbox.Machine
import Txbox.Lemmas.ClaimMany
import Txbox.Lemmas.Batch
import Txbox.Lemmas.BatchLoop
import Txbox.Lemmas.Jobs
import Txbox.Lemmas.Invariant
import Txbox.Lemmas.Runs
import Txbox.Theorems.ProcessMany
import Txbox.Theorems.Loop
import Txbox.Theorems.Atomic
import Txbox.Theorems.ExactlyOnce
import Txbox.Theorems.Deadlock
import Txbox.Theorems.Window
import Txbox.Session
import Txbox.Theorems.Committed
import Txbox.Postgres
import Txbox.Sqlite
import Txbox.MySql
import Txbox.Theorems.LockTimeout
import Txbox.Lemmas.Backends
import Txbox.Theorems.ClaimMany
import Txbox.Theorems.Validation
import Txbox.Chrono
import Txbox.Theorems.ClaimInOrder
import Txbox.Theorems.InsertIgnore
import Txbox.Theorems.Scoped
import Txbox.Theorems.TimeoutValues
import Txbox.Lemmas.Timestamps
import Txbox.Lib.Limit
import Txbox.Purge
import Txbox.Lemmas.Purge
import Txbox.Theorems.Purge
import Txbox.Theorems.MySqlRetention
import Txbox.Theorems.SqlitePurge
import Txbox.Theorems.Timestamps
import Txbox.Connection
import Txbox.Theorems.HandlerTimeout
import Txbox.History
import Txbox.Lib.TwoRuns
import Txbox.Lemmas.History
import Txbox.Theorems.Isolation
import Txbox.Lib.Traces
import Txbox.Theorems.Savepoints
import Txbox.Known
import Txbox.Theorems.KnownDuplicate
import Txbox.Kafka
import Txbox.Theorems.Kafka
import Txbox.Lib.Named
import Txbox.SqlSession
import Txbox.Theorems.SqlBatch
import Txbox.Lemmas.Conformance
import Txbox.Lemmas.ConformanceCalls
import Txbox.Lemmas.Contract
import Txbox.Lemmas.Tokens
import Txbox.Theorems.Conformance
import Txbox.PurgeRace
import Txbox.Theorems.PurgeRace
import Txbox.Theorems.Contract
