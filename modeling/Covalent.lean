import Covalent.Transfer.Content
import Covalent.Engine.StateStore
import Covalent.Transfer.PolicyFile
import Covalent.Transfer.Suppression
import Covalent.Backup.RecordLog
import Covalent.Provider.Isolation
import Covalent.Engine.Revocation
import Covalent.Home.Watermarks
import Covalent.Backup.FileRestore
import Covalent.Pairing.Requests
import Covalent.Replication.Verification
import Covalent.Restore.Agreement
import Covalent.Restore.PlanFiles
import Covalent.Pairing.Probes
import Covalent.Home.Settings
import Covalent.Transfer.Replanning
import Covalent.Sharing.Delivery
