/-!
# Status codes

Every call of the native library ends with a signed 32-bit status. A status from 0 up is a
success, often with a length or a truth value in it. The negative ones with a meaning are the
closed set `ErrorCode`; each has a kind (`FailureKind`), each kind a class (`ErrorClass`) that
tells a caller what to do.

`ErrorCode.ofStatus?_eq_some_iff` says that the reading of a status as a code is the inverse of
`ErrorCode.status`.
-/

namespace Custody

/-- What a caller can do about an error. -/
inductive ErrorClass
  /-- The library and its caller disagree about their contract; a retry does not help. -/
  | contractViolation
  /-- A resource was not there or could not be reached. -/
  | resourceFailure
  /-- The caller passed something that was rejected. -/
  | inputValidation
  deriving DecidableEq, Repr

/-- The name of a class in reports. -/
def ErrorClass.tag : ErrorClass → String
  | contractViolation => "contract-violation"
  | resourceFailure => "resource-failure"
  | inputValidation => "input-validation"

/-- The kinds of failure of a native call. -/
inductive FailureKind
  | nameNotFound
  | allocationFailed
  | invalidArgument
  | outOfRange
  | stateCorruption
  | unexpectedPointerChange
  | sizeOverflow
  | wrappedNativeError
  | accessDenied
  deriving DecidableEq, Repr

namespace FailureKind

/-- Every kind, in a fixed order. -/
def all : List FailureKind :=
  [nameNotFound, allocationFailed, invalidArgument, outOfRange, stateCorruption,
    unexpectedPointerChange, sizeOverflow, wrappedNativeError, accessDenied]

/-- The name of a kind in reports. -/
def tag : FailureKind → String
  | nameNotFound => "name-not-found"
  | allocationFailed => "allocation-failed"
  | invalidArgument => "invalid-argument"
  | outOfRange => "out-of-range"
  | stateCorruption => "state-corruption"
  | unexpectedPointerChange => "unexpected-pointer-change"
  | sizeOverflow => "size-overflow"
  | wrappedNativeError => "wrapped-native-error"
  | accessDenied => "access-denied"

/-- The words for a kind in messages. -/
def text : FailureKind → String
  | nameNotFound => "name not found"
  | allocationFailed => "allocation failed"
  | invalidArgument => "invalid argument"
  | outOfRange => "out of range"
  | stateCorruption => "state corruption"
  | unexpectedPointerChange => "unexpected pointer change"
  | sizeOverflow => "size overflow"
  | wrappedNativeError => "native error"
  | accessDenied => "access denied"

/-- The class of a kind. -/
def errorClass : FailureKind → ErrorClass
  | nameNotFound | invalidArgument | outOfRange | sizeOverflow => .inputValidation
  | allocationFailed | wrappedNativeError | accessDenied => .resourceFailure
  | stateCorruption | unexpectedPointerChange => .contractViolation

/-- Whether the same call could succeed when it is repeated. -/
def retriable : FailureKind → Bool
  | allocationFailed | wrappedNativeError => true
  | _ => false

end FailureKind

/-- The failures that the native contract defines. -/
inductive ErrorCode
  | fail
  | nativeError
  | nameIsNull
  | nameNotFound
  | nameAccessFailed
  | createFailed
  | initFailed
  | setParamFailed
  | notInitialized
  | unexpectedState
  | unexpectedPointerChange
  | invalidHandle
  | inputIsNull
  | outputIsNull
  | outputTooSmall
  | inputTooLongInt32
  | outputTooLongInt32
  | failedAccessInput
  | failedAccessOutput
  | inputLenNegative
  | inputOffsetNegative
  | outputLenNegative
  | outputOffsetNegative
  | inputOutOfRange
  | outputOutOfRange
  | xofLenInvalid
  | outputSizeIntOverflow
  | keySpecHasNullKey
  | incorrectKeyType
  | unknownKeyType
  | encodedPublicKeyLen
  | encodedPrivateKeyLen
  | sigIsNull
  | sigOutOfRange
  | failedAccessSig
  | unexpectedSigLenChange
  | invalidCiphertextLen
  | kdfSaltEmpty
  | kdfIterNotPositive
  | kdfUnknownDigest
  | kdfOutputTooLong
  | scryptNTooSmall
  | scryptNNotPow2
  | scryptRNotPositive
  | scryptPNotPositive
  deriving DecidableEq, Repr

namespace ErrorCode

/-- Every code, in the order of falling status. -/
def all : List ErrorCode :=
  [fail, nativeError, nameIsNull, nameNotFound, nameAccessFailed, createFailed, initFailed,
    setParamFailed, notInitialized, unexpectedState, unexpectedPointerChange, invalidHandle,
    inputIsNull, outputIsNull, outputTooSmall, inputTooLongInt32, outputTooLongInt32,
    failedAccessInput, failedAccessOutput, inputLenNegative, inputOffsetNegative,
    outputLenNegative, outputOffsetNegative, inputOutOfRange, outputOutOfRange, xofLenInvalid,
    outputSizeIntOverflow, keySpecHasNullKey, incorrectKeyType, unknownKeyType,
    encodedPublicKeyLen, encodedPrivateKeyLen, sigIsNull, sigOutOfRange, failedAccessSig,
    unexpectedSigLenChange, invalidCiphertextLen, kdfSaltEmpty, kdfIterNotPositive,
    kdfUnknownDigest, kdfOutputTooLong, scryptNTooSmall, scryptNNotPow2, scryptRNotPositive,
    scryptPNotPositive]

/-- The status that reports a code. -/
def status : ErrorCode → Int32
  | fail => -1
  | nativeError => -2
  | nameIsNull => -3
  | nameNotFound => -4
  | nameAccessFailed => -5
  | createFailed => -6
  | initFailed => -7
  | setParamFailed => -8
  | notInitialized => -9
  | unexpectedState => -10
  | unexpectedPointerChange => -11
  | invalidHandle => -12
  | inputIsNull => -16
  | outputIsNull => -17
  | outputTooSmall => -18
  | inputTooLongInt32 => -19
  | outputTooLongInt32 => -20
  | failedAccessInput => -22
  | failedAccessOutput => -23
  | inputLenNegative => -24
  | inputOffsetNegative => -25
  | outputLenNegative => -26
  | outputOffsetNegative => -27
  | inputOutOfRange => -28
  | outputOutOfRange => -29
  | xofLenInvalid => -30
  | outputSizeIntOverflow => -34
  | keySpecHasNullKey => -40
  | incorrectKeyType => -41
  | unknownKeyType => -42
  | encodedPublicKeyLen => -43
  | encodedPrivateKeyLen => -44
  | sigIsNull => -48
  | sigOutOfRange => -49
  | failedAccessSig => -50
  | unexpectedSigLenChange => -51
  | invalidCiphertextLen => -52
  | kdfSaltEmpty => -60
  | kdfIterNotPositive => -61
  | kdfUnknownDigest => -62
  | kdfOutputTooLong => -63
  | scryptNTooSmall => -64
  | scryptNNotPow2 => -65
  | scryptRNotPositive => -66
  | scryptPNotPositive => -67

/-- The name of a code in reports. -/
def name : ErrorCode → String
  | fail => "Fail"
  | nativeError => "NativeError"
  | nameIsNull => "NameIsNull"
  | nameNotFound => "NameNotFound"
  | nameAccessFailed => "NameAccessFailed"
  | createFailed => "CreateFailed"
  | initFailed => "InitFailed"
  | setParamFailed => "SetParamFailed"
  | notInitialized => "NotInitialized"
  | unexpectedState => "UnexpectedState"
  | unexpectedPointerChange => "UnexpectedPointerChange"
  | invalidHandle => "InvalidHandle"
  | inputIsNull => "InputIsNull"
  | outputIsNull => "OutputIsNull"
  | outputTooSmall => "OutputTooSmall"
  | inputTooLongInt32 => "InputTooLongInt32"
  | outputTooLongInt32 => "OutputTooLongInt32"
  | failedAccessInput => "FailedAccessInput"
  | failedAccessOutput => "FailedAccessOutput"
  | inputLenNegative => "InputLenNegative"
  | inputOffsetNegative => "InputOffsetNegative"
  | outputLenNegative => "OutputLenNegative"
  | outputOffsetNegative => "OutputOffsetNegative"
  | inputOutOfRange => "InputOutOfRange"
  | outputOutOfRange => "OutputOutOfRange"
  | xofLenInvalid => "XofLenInvalid"
  | outputSizeIntOverflow => "OutputSizeIntOverflow"
  | keySpecHasNullKey => "KeySpecHasNullKey"
  | incorrectKeyType => "IncorrectKeyType"
  | unknownKeyType => "UnknownKeyType"
  | encodedPublicKeyLen => "EncodedPublicKeyLen"
  | encodedPrivateKeyLen => "EncodedPrivateKeyLen"
  | sigIsNull => "SigIsNull"
  | sigOutOfRange => "SigOutOfRange"
  | failedAccessSig => "FailedAccessSig"
  | unexpectedSigLenChange => "UnexpectedSigLenChange"
  | invalidCiphertextLen => "InvalidCiphertextLen"
  | kdfSaltEmpty => "KdfSaltEmpty"
  | kdfIterNotPositive => "KdfIterNotPositive"
  | kdfUnknownDigest => "KdfUnknownDigest"
  | kdfOutputTooLong => "KdfOutputTooLong"
  | scryptNTooSmall => "ScryptNTooSmall"
  | scryptNNotPow2 => "ScryptNNotPow2"
  | scryptRNotPositive => "ScryptRNotPositive"
  | scryptPNotPositive => "ScryptPNotPositive"

/-- The kind of failure that a code reports. -/
def kind : ErrorCode → FailureKind
  | fail | notInitialized | unexpectedState | invalidHandle | unexpectedSigLenChange =>
    .stateCorruption
  | nativeError | setParamFailed => .wrappedNativeError
  | nameIsNull | inputIsNull | outputIsNull | inputLenNegative | inputOffsetNegative |
    outputLenNegative | outputOffsetNegative | xofLenInvalid | keySpecHasNullKey |
    incorrectKeyType | unknownKeyType | encodedPublicKeyLen | encodedPrivateKeyLen |
    sigIsNull | invalidCiphertextLen | kdfSaltEmpty | kdfIterNotPositive |
    scryptNTooSmall | scryptNNotPow2 | scryptRNotPositive | scryptPNotPositive => .invalidArgument
  | nameNotFound | kdfUnknownDigest => .nameNotFound
  | nameAccessFailed | failedAccessInput | failedAccessOutput | failedAccessSig => .accessDenied
  | createFailed | initFailed => .allocationFailed
  | unexpectedPointerChange => .unexpectedPointerChange
  | outputTooSmall | inputOutOfRange | outputOutOfRange | sigOutOfRange | kdfOutputTooLong =>
    .outOfRange
  | inputTooLongInt32 | outputTooLongInt32 | outputSizeIntOverflow => .sizeOverflow

/-- The words for a code in messages. -/
def message : ErrorCode → String
  | fail => "native call failed"
  | nativeError => "native library error"
  | nameIsNull => "name is null"
  | nameNotFound => "name not found"
  | nameAccessFailed => "unable to access name"
  | createFailed => "unable to create native context"
  | initFailed => "unable to initialise native context"
  | setParamFailed => "unable to set native parameter"
  | notInitialized => "context not initialised for this operation"
  | unexpectedState => "unexpected native state"
  | unexpectedPointerChange => "native pointer changed unexpectedly"
  | invalidHandle => "invalid native handle"
  | inputIsNull => "input is null"
  | outputIsNull => "output is null"
  | outputTooSmall => "output too small"
  | inputTooLongInt32 => "input length exceeds 32-bit range"
  | outputTooLongInt32 => "output length exceeds 32-bit range"
  | failedAccessInput => "unable to access input"
  | failedAccessOutput => "unable to access output"
  | inputLenNegative => "input length is negative"
  | inputOffsetNegative => "input offset is negative"
  | outputLenNegative => "output length is negative"
  | outputOffsetNegative => "output offset is negative"
  | inputOutOfRange => "input offset + length is out of range"
  | outputOutOfRange => "output offset + length is out of range"
  | xofLenInvalid => "invalid XOF length"
  | outputSizeIntOverflow => "output size overflows 32-bit range"
  | keySpecHasNullKey => "key spec has no key"
  | incorrectKeyType => "incorrect key type"
  | unknownKeyType => "unknown key type"
  | encodedPublicKeyLen => "encoded public key has wrong length"
  | encodedPrivateKeyLen => "encoded private key has wrong length"
  | sigIsNull => "signature is null"
  | sigOutOfRange => "signature offset + length is out of range"
  | failedAccessSig => "unable to access signature"
  | unexpectedSigLenChange => "signature length changed unexpectedly"
  | invalidCiphertextLen => "ciphertext has wrong length"
  | kdfSaltEmpty => "salt is empty"
  | kdfIterNotPositive => "iteration count must be positive"
  | kdfUnknownDigest => "unknown KDF digest"
  | kdfOutputTooLong => "requested KDF output too long"
  | scryptNTooSmall => "scrypt cost N must be at least 2"
  | scryptNNotPow2 => "scrypt cost N must be a power of two"
  | scryptRNotPositive => "scrypt block size r must be positive"
  | scryptPNotPositive => "scrypt parallelism p must be positive"

/-- The code that a status reports, if it is one. -/
def ofStatus? (status : Int32) : Option ErrorCode := all.find? (·.status = status)

@[simp] theorem ofStatus?_status (code : ErrorCode) : ofStatus? code.status = some code := by
  cases code <;> decide +kernel

/-- A status reports a code exactly when it is the status of that code. -/
theorem ofStatus?_eq_some_iff {status : Int32} {code : ErrorCode} :
    ofStatus? status = some code ↔ code.status = status := by
  constructor
  · intro h
    simpa using List.find?_some h
  · rintro rfl
    exact ofStatus?_status code

end ErrorCode

end Custody
