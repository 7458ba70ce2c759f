import CrudBench.Backend.Catalogue
import CrudBench.Main
import CrudBench.Server.Script
import CrudBench.World
import CrudBench.Proofs.Disclosure
import CrudBench.Proofs.Metrics.Failures
import CrudBench.Proofs.Metrics.Saved
import CrudBench.Proofs.Pool.Fairness
import CrudBench.Proofs.Preflight
import CrudBench.Proofs.Query.Agreement
import CrudBench.Proofs.Rotation
import CrudBench.Proofs.Server.Accounting
import CrudBench.Proofs.Server.Cause
import CrudBench.Proofs.Server.Failure
import CrudBench.Proofs.Server.SmokeReport
import CrudBench.Proofs.Server.Traces
import CrudBench.Proofs.Settings.Overlay
import CrudBench.Proofs.Settings.Precedence
import CrudBench.Proofs.Settings.RoundTrip
import CrudBench.Proofs.Smoke.Check
import CrudBench.Proofs.Store.Cluster
import CrudBench.Proofs.Store.Commutation
import CrudBench.Proofs.Store.Idempotence
import CrudBench.Proofs.Store.Injection
import CrudBench.Proofs.Store.Keyed
import CrudBench.Proofs.Store.Paging
import CrudBench.Proofs.Template
import CrudBench.Proofs.Timing
