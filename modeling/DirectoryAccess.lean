import DirectoryAccess.Entry.FirstValue
import DirectoryAccess.InMemory.Directory
import DirectoryAccess.Operation.Authenticate
import DirectoryAccess.Operation.Description
import DirectoryAccess.Operation.Read
import DirectoryAccess.Operation.Write
import DirectoryAccess.Settings.Reading
import DirectoryAccess.Settings.Writing
import DirectoryAccess.Wire.Client
import DirectoryAccess.Proofs.DistinguishedName.Joining
import DirectoryAccess.Proofs.DistinguishedName.Order
import DirectoryAccess.Proofs.DistinguishedName.RoundTrip
import DirectoryAccess.Proofs.Entry.FoldedNames
import DirectoryAccess.Proofs.Time.GeneralizedTime
import DirectoryAccess.Proofs.Filter.Meaning
import DirectoryAccess.Proofs.Filter.UniqueReading
import DirectoryAccess.Proofs.Operation.Classified
import DirectoryAccess.Proofs.Operation.Reading
import DirectoryAccess.Proofs.InMemory.Authentication
import DirectoryAccess.Proofs.InMemory.AuthenticationCourse
import DirectoryAccess.Proofs.InMemory.Children
import DirectoryAccess.Proofs.InMemory.ConcurrentReplacement
import DirectoryAccess.Proofs.InMemory.Interruption
import DirectoryAccess.Proofs.InMemory.Loop
import DirectoryAccess.Proofs.InMemory.MissingEntry
import DirectoryAccess.Proofs.InMemory.Outcomes
import DirectoryAccess.Proofs.InMemory.Respelling
import DirectoryAccess.Proofs.InMemory.SearchOutcome
import DirectoryAccess.Proofs.InMemory.Shape
import DirectoryAccess.Proofs.InMemory.SingleWrites
import DirectoryAccess.Proofs.InMemory.Trace
import DirectoryAccess.Proofs.InMemory.Update
import DirectoryAccess.Proofs.Settings.RoundTrip
import DirectoryAccess.Proofs.Wire.ChangedValues
import DirectoryAccess.Proofs.Wire.Creation
import DirectoryAccess.Proofs.Wire.Delivery
import DirectoryAccess.Proofs.Wire.Listing
import DirectoryAccess.Proofs.Wire.Renaming
import DirectoryAccess.Proofs.Wire.ReturnedName
import DirectoryAccess.Proofs.Wire.Sessions
