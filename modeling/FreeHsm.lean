import FreeHsm.Token.PublicSection
import FreeHsm.Token.BlobMigration
import FreeHsm.Token.PinCounter
import FreeHsm.Token.DekInvariant
import FreeHsm.Token.Durable
import FreeHsm.Token.Authenticity
import FreeHsm.Token.FailedWrite
import FreeHsm.Token.Handles
import FreeHsm.Token.LoggedOut
import FreeHsm.Token.PinRace
import FreeHsm.Token.AuditArgs
import FreeHsm.Entropy
import FreeHsm.Token.Reinit
import FreeHsm.Token.StoreSize
import FreeHsm.Pkcs11.ConcurrentSet
import FreeHsm.Pkcs11.ContextAuth
import FreeHsm.Pkcs11.CopyFaithful
import FreeHsm.Pkcs11.FindExact
import FreeHsm.Pkcs11.KbkdfCorrect
import FreeHsm.Pkcs11.OctetString
import FreeHsm.Pkcs11.OpHistory
import FreeHsm.Pkcs11.Randomness
import FreeHsm.Pkcs11.Restrictions
import FreeHsm.Pkcs11.SetPin
import FreeHsm.Pkcs11.SignAgrees
import FreeHsm.Pkcs11.SoReadOnly
import FreeHsm.Service.NonInterference
import FreeHsm.Service.PolicyFile
import FreeHsm.Pki.CmsSound
import FreeHsm.Revocation.Commands
import FreeHsm.Revocation.OcspAnswer
import FreeHsm.Pkcs11.Guarded
