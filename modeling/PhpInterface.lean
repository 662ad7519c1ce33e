import PhpInterface.Main
import PhpInterface.Proofs.PrintedTypes
import PhpInterface.Proofs.Precedence
import PhpInterface.Proofs.Circularity
import PhpInterface.Proofs.LiteralRoundTrip
import PhpInterface.Proofs.Printable
import PhpInterface.Proofs.PrintedFile
import PhpInterface.Proofs.Scoping
import PhpInterface.Proofs.CachedSearch
import PhpInterface.Proofs.Depth
import PhpInterface.Proofs.Reached
import PhpInterface.Proofs.OwnMethods
import PhpInterface.Proofs.InterfaceClosure
import PhpInterface.Proofs.AskedMethods
import PhpInterface.Proofs.ResolvedAgain
import PhpInterface.Proofs.ArgumentReading
import PhpInterface.Proofs.CommandRun
import PhpInterface.Proofs.ImportList
import PhpInterface.Proofs.Respelling
import PhpInterface.Proofs.Recasing
import PhpInterface.Proofs.UnambiguousCode
import PhpInterface.Proofs.Termination
import PhpInterface.Proofs.ArrayBuilding
import PhpInterface.Proofs.OptionalTail
import PhpInterface.Proofs.NullableUnions
import PhpInterface.Proofs.QuotedPieces
import PhpInterface.Proofs.IntegerLiterals
import PhpInterface.Proofs.SignedIntegers
import PhpInterface.Proofs.FloatNotation
import PhpInterface.Proofs.NullDefaults
import PhpInterface.Proofs.SourceListing
import PhpInterface.Proofs.Settings
import PhpInterface.Proofs.NameGrammar
import PhpInterface.Proofs.CanonicalKeys
