import FreeHsm.ForStd.ByteLayout

/-!
# Common types

Return codes (`fhsm_rv_t`), roles (`fhsm_role_t`) and the limits of
`fhsm_common.h` and `fhsm_token.h` that the modelled functions read.
-/

namespace FreeHsm

export ByteLayout (Bytes byteAt le32 u32At vecAt)

/-- The error codes of `fhsm_rv_t` and of the `CKR_` literals in `fhsm_pkcs11.c`. -/
inductive Err
  | hostMemory                   -- 0x002
  | slotIdInvalid                -- 0x003
  | functionFailed               -- 0x006
  | argumentsBad                 -- 0x007
  | noEvent                      -- 0x008
  | attributeReadOnly            -- 0x010
  | attributeSensitive           -- 0x011
  | attributeTypeInvalid         -- 0x012
  | attributeValueInvalid        -- 0x013
  | actionProhibited             -- 0x01B
  | dataInvalid                  -- 0x020
  | dataLenRange                 -- 0x021
  | deviceError                  -- 0x030
  | encryptedDataInvalid         -- 0x040
  | encryptedDataLenRange        -- 0x041
  | functionNotParallel          -- 0x051
  | functionNotSupported         -- 0x054
  | keyHandleInvalid             -- 0x060
  | keySizeRange                 -- 0x062
  | keyTypeInconsistent          -- 0x063
  | keyIndigestible              -- 0x067
  | keyFunctionNotPermitted      -- 0x068
  | keyNotWrappable              -- 0x069
  | keyUnextractable             -- 0x06A
  | mechanismInvalid             -- 0x070
  | mechanismParamInvalid        -- 0x071
  | objectHandleInvalid          -- 0x082
  | operationActive              -- 0x090
  | operationNotInitialized      -- 0x091
  | pinIncorrect                 -- 0x0A0
  | pinInvalid                   -- 0x0A1
  | pinLenRange                  -- 0x0A2
  | pinLocked                    -- 0x0A4
  | sessionHandleInvalid         -- 0x0B3
  | sessionParallelNotSupported  -- 0x0B4
  | sessionReadOnly              -- 0x0B5
  | sessionExists                -- 0x0B6
  | sessionReadOnlyExists        -- 0x0B7
  | sessionReadWriteSoExists     -- 0x0B8
  | signatureInvalid             -- 0x0C0
  | templateIncomplete           -- 0x0D0
  | templateInconsistent         -- 0x0D1
  | tokenNotPresent              -- 0x0E0
  | unwrappingKeyHandleInvalid   -- 0x0F0
  | unwrappingKeyTypeInconsistent -- 0x0F2
  | userAlreadyLoggedIn          -- 0x100
  | userNotLoggedIn              -- 0x101
  | userAnotherAlreadyLoggedIn   -- 0x104
  | wrappedKeyInvalid            -- 0x110
  | wrappedKeyLenRange           -- 0x112
  | wrappingKeyHandleInvalid     -- 0x113
  | wrappingKeySizeRange         -- 0x114
  | wrappingKeyTypeInconsistent  -- 0x115
  | randomSeedNotSupported       -- 0x120
  | deviceMemory                 -- 0x131
  | curveNotSupported            -- 0x140
  | bufferTooSmall               -- 0x150
  | cryptokiNotInitialized       -- 0x190
  | fipsNotApproved              -- 0x80000003
  | pinThrottled                 -- 0x80000004
  | tpmUnavailable               -- 0x80000005
  | rngFailure                   -- 0x80000008
  deriving DecidableEq, Repr

/-- What a call returns: `FHSM_RV_OK` or an error. -/
inductive Rv
  | ok
  | err (e : Err)
  deriving DecidableEq, Repr

/-- Who is logged in to a token. -/
inductive Role
  | none
  | so
  | user
  deriving DecidableEq, Repr

/-- `FHSM_PIN_MAX_FAILED`. -/
def pinMaxFailed : UInt32 := 5

/-- `FHSM_PIN_THROTTLE_BASE_MS`. -/
def pinThrottleBaseMs : Nat := 500

/-- `FHSM_PIN_THROTTLE_MAX_MS`. -/
def pinThrottleMaxMs : Nat := 60000

/-- `FHSM_MAX_SESSIONS`. -/
def maxSessions : Nat := 128

/-- `FHSM_MAX_OBJECTS`. -/
def maxObjects : Nat := 1024

/-- `FHSM_OBJ_VALUE_MAX`, 2 MiB. -/
def objValueMax : Nat := 2097152

/-- `FHSM_POLICY_MECH_MAX`. -/
def policyMechMax : Nat := 8

/-- `FHSM_POLICY_ATTR_MAX`. -/
def policyAttrMax : Nat := 4

/-- `FHSM_POLICY_VALUE_MAX`. -/
def policyValueMax : Nat := 48

end FreeHsm
