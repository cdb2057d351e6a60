import ConsoleMemory.Main
import ConsoleMemory.Session
import ConsoleMemory.Proofs.CacheControl
import ConsoleMemory.Proofs.RelativeAccess
import ConsoleMemory.Proofs.Flat
import ConsoleMemory.Proofs.Mirroring
import ConsoleMemory.Proofs.CodeReports
import ConsoleMemory.Proofs.Boot
import ConsoleMemory.Proofs.StoredSettings
import ConsoleMemory.Proofs.DirectAccess
import ConsoleMemory.Proofs.RomHistory
import ConsoleMemory.Proofs.Representation
import ConsoleMemory.Proofs.CommandLine
import ConsoleMemory.Proofs.ProbeOutput
import ConsoleMemory.Proofs.DisplacedReports
import ConsoleMemory.Proofs.BulkStore
import ConsoleMemory.Proofs.RamCalls
import ConsoleMemory.Proofs.EnvironmentFile
import ConsoleMemory.Proofs.Precedence
import ConsoleMemory.Proofs.ByteAccess
import ConsoleMemory.Proofs.AddressGrammar
import ConsoleMemory.Proofs.RegisterSessions
import ConsoleMemory.Proofs.GuardLimits
import ConsoleMemory.Proofs.Log
