import JvmSchema.Classification.Probe
import JvmSchema.FileSystem.Tree
import JvmSchema.Json.Decoder
import JvmSchema.Main
import JvmSchema.Proofs.LayeredTables
import JvmSchema.Proofs.ClassificationLaw
import JvmSchema.Proofs.RecordReading
import JvmSchema.Proofs.TableRuns
import JvmSchema.Proofs.TypeFileFormat
import JvmSchema.Proofs.Renaming
import JvmSchema.Proofs.RunEvents
import JvmSchema.Proofs.JsonReading
import JvmSchema.Proofs.TypeInfoJson
import JvmSchema.Proofs.JsonDocuments
import JvmSchema.Proofs.ReportJson
import JvmSchema.Proofs.Locality
import JvmSchema.Proofs.MemberOrder
import JvmSchema.Proofs.RepeatedTypes
import JvmSchema.Proofs.TypeFileText
import JvmSchema.Proofs.TableMerging
import JvmSchema.Proofs.JoinedFiles
import JvmSchema.Proofs.ReportText
import JvmSchema.Proofs.AddedMembers
import JvmSchema.Proofs.PathNames
import JvmSchema.Proofs.WorkingDirectory
import JvmSchema.Proofs.ConfigLocation
import JvmSchema.Proofs.DescriptorOrder
import JvmSchema.Proofs.ProbeCalls
import JvmSchema.Proofs.ArgumentOrder
import JvmSchema.Proofs.ValueTrees
import JvmSchema.Proofs.FormatAgreement
import JvmSchema.Proofs.KeyOrder
import JvmSchema.Proofs.TypeReadings
